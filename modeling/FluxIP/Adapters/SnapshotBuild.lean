import FluxIP.Adapters.Folds
import FluxIP.Adapters.Steps
import FluxIP.Async.Crash
import FluxIP.Domain.SnapshotContent

/-!
# Building a snapshot alone

What a build finds when nobody else acts while it runs: the members and the
devices of the store it reads.
-/

namespace FluxIP

open Async

/-- Every call is answered. -/
def AllAnswered (_ : BackendHistory) (_ : World) (_ : backend.Call)
    (choice : Choice) : Prop :=
  choice.fate = .ok

/-- The content `buildSnapshotContent` returns for a provider of this store. -/
def Builds (text : SnapshotText) (world : World) (accountId providerId : Id)
    (content : SnapshotContent) : Prop :=
  ∃ history final, Execution semantics Eq AllAnswered []
    (buildSnapshotContent text accountId providerId
      (providerState world.store accountId providerId).name)
    world history (.returned content) final

/-- The provider has this member. -/
def HasMember (store : EventStore) (accountId providerId : Id)
    (member : SnapshotMember) : Prop :=
  ∃ actionId, (actionIn store accountId actionId).snapshotMember providerId =
    some member

/-- What a device contributes. -/
def deviceIn (text : SnapshotText) (store : EventStore)
    (accountId ipClientId : Id) : Option SnapshotDevice :=
  (ipClientIn store accountId ipClientId).snapshotDevice
    (text.idName ipClientId)

namespace SnapshotBuild

variable {α β : Type} {store : EventStore}

/-! ## Reading a store nobody changes -/

/-- Which choices are considered, and whether a read may throw under them. -/
structure Reading where
  allowed : BackendHistory → World → backend.Call → Choice → Prop
  throws : Prop
  fails : ∀ history world call choice,
    allowed history world call choice → choice.fate ≠ .ok → throws

/-- Every read answers. -/
def Reading.answered : Reading where
  allowed := AllAnswered
  throws := False
  fails := fun _ _ _ _ answered failed => failed answered

/-- A read may throw. -/
def Reading.fallible : Reading where
  allowed := fun _ _ _ _ => True
  throws := True
  fails := fun _ _ _ _ _ _ => trivial

/-- No other party acts. -/
def Reading.contract (reading : Reading) :
    Contract backend Err Choice World :=
  { (Contract.alone fun _ => True : Contract backend Err Choice World) with
    allowed := reading.allowed }

/-- On this store the program returns a value of which `holds`, and leaves the
store as it is. -/
def Finds (reading : Reading) (store : EventStore) (program : Backend α)
    (holds : α → Prop) : Prop :=
  ∀ history world, world.store = store →
    program.Ensures semantics reading.contract
      (yielding (fun value _ world => holds value ∧ world.store = store)
        (fun _ _ => reading.throws) fun _ _ => True) history world

namespace Finds

variable {reading : Reading} {program : Backend α} {next : α → Backend β}
variable {holds middle : α → Prop} {later : β → Prop}

theorem done {value : α} (here : holds value) :
    Finds reading store (.done value) holds := by
  intro history world same
  apply Program.Ensures.done
  rintro _ ⟨-, rfl⟩
  exact ⟨here, same⟩

theorem bind (first : Finds reading store program middle)
    (second : ∀ value, middle value →
      Finds reading store (next value) later) :
    Finds reading store (program.bind next) later := by
  intro history world same
  apply Program.Ensures.seq _ trivial (first history world same)
  rintro value history world _ ⟨found, same⟩
  exact second value found history world same

theorem mono {weaker : α → Prop} (finds : Finds reading store program holds)
    (implies : ∀ value, holds value → weaker value) :
    Finds reading store program weaker := by
  intro history world same
  apply (finds history world same).relax
  · exact fun value _ _ found => ⟨implies value found.1, found.2⟩
  · exact fun _ _ => id
  · exact fun _ _ => id

/-- A read finds what the store has to answer. -/
theorem read (call : StoreCall) {holds : call.Answer → Prop}
    (answers : ∀ choice world, world.store = store →
      ∃ value, call.effect choice world = (.ok value, world) ∧ holds value) :
    Finds reading store (Backend.call (.store call)) holds := by
  intro history world same
  apply Backend.call_ensures (.store call)
  rintro _ ⟨-, rfl⟩
  refine ⟨trivial, ?_⟩
  intro choice answer after allowed result
  obtain ⟨value, effect, found⟩ :=
    answers choice (world.elapse choice.elapsed) same
  refine ⟨⟨trivial, trivial⟩, ?_⟩
  rintro _ ⟨-, rfl⟩
  rcases outside_cases (Option.some.inj result) with
    ⟨-, ends⟩ | ⟨message, failed, rfl, -⟩ | ⟨message, lost, rfl, -⟩
  · rw [effect] at ends
    cases ends
    exact ⟨found, same⟩
  · exact reading.fails _ _ _ _ allowed (by simp [failed])
  · exact reading.fails _ _ _ _ allowed (by simp [lost])

theorem load {State : Type} {params : ReadStreamParams}
    {initialState : State} {reducer : State → StoredEvent → State} :
    Finds reading store (loadAggregate params initialState reducer)
      (· = replayed initialState reducer (store.readStream params)) := by
  have reads : Finds reading store (Backend.readStream params)
      (· = store.readStream params) := by
    apply read (.readStream params)
    intro choice world same
    exact ⟨_, rfl, congrArg (EventStore.readStream · params) same⟩
  apply reads.bind
  rintro events rfl
  exact done rfl

theorem list {accountId : Id} {aggregateType : AggregateType} :
    Finds reading store (Backend.listAggregateIds accountId aggregateType)
      (fun ids => ∃ rows,
        ids = store.listAggregateIds accountId aggregateType rows) := by
  apply read (.listAggregateIds accountId aggregateType)
  intro choice world same
  exact ⟨_, rfl, choice.rows, congrArg
    (EventStore.listAggregateIds · accountId aggregateType choice.rows) same⟩

end Finds

section Kept

variable {program : Backend α} {holds : α → Prop} {world : World}

/-- A program that appends nothing leaves the store as it is, wherever it is
stopped. -/
theorem kept_ensures
    (calls : program.Calls fun call => Call.keepsStore call = true)
    (history : BackendHistory) (here : world.store = store) :
    program.Ensures semantics Reading.fallible.contract
      (ending (fun _ after => after.store = store)
        (fun _ after => after.store = store)
        fun _ after => after.store = store) history world := by
  apply Program.Ensures.frame calls _ _ here
  · rintro history before after same ⟨-, rfl⟩
    exact same
  · intro history before call choice answer after keeps _ same _ result
    exact ⟨⟨trivial, trivial⟩, (store_frame result keeps).trans same⟩

theorem Finds.kept
    (calls : program.Calls fun call => Call.keepsStore call = true) :
    Finds .fallible store program fun _ => True := by
  intro history world here
  apply (kept_ensures calls history here).relax
  · exact fun _ _ _ same => ⟨trivial, same⟩
  · exact fun _ _ _ => trivial
  · exact fun _ _ _ => trivial

/-- Wherever a program that reads is stopped, the store is the one it read. -/
theorem Finds.survives (finds : Finds .fallible store program holds)
    (calls : program.Calls fun call => Call.keepsStore call = true)
    (here : world.store = store) :
    program.Survives semantics
      (orElse (fun value after => holds value ∧ after.store = store)
        fun after => after.store = store)
      (fun after => after.store = store) world := by
  have both := (finds [] world here).both (kept_ensures calls [] here)
  apply Program.Ensures.survives semantics
  apply both.mono
  intro history outcome after atEnd
  cases outcome with
  | returned value => exact atEnd.1
  | threw error => exact atEnd.2
  | cut => exact atEnd.2

end Kept

variable {reading : Reading}

/-! ## What a build finds -/

theorem snapshotMembers_finds (accountId providerId : Id)
    (actionIds : List Id) :
    Finds reading store (snapshotMembers accountId providerId actionIds)
      (· = actionIds.filterMap fun actionId =>
        (actionIn store accountId actionId).snapshotMember providerId) := by
  induction actionIds with
  | nil => exact Finds.done rfl
  | cons actionId actionIds ih =>
      apply Finds.bind Finds.load
      rintro loaded rfl
      apply Finds.bind ih
      rintro rest rfl
      apply Finds.done
      rw [List.filterMap_cons]
      unfold actionIn
      split
      · rename_i nothing
        rw [nothing]
        rfl
      · rename_i member found
        rw [found]
        rfl

/-- The cache holds what the devices contribute. -/
def Cached (text : SnapshotText) (store : EventStore) (accountId : Id)
    (cache : List (Id × Option SnapshotDevice)) : Prop :=
  ∀ ipClientId device, getEntry ipClientId cache = some device →
    device = deviceIn text store accountId ipClientId

theorem collectGroups_finds (text : SnapshotText) (accountId : Id)
    (members : List SnapshotMember)
    {cache : List (Id × Option SnapshotDevice)} {groups : SnapshotGroups}
    (cached : Cached text store accountId cache) :
    Finds reading store (collectGroups text accountId cache groups members)
      (· = members.foldl
        (fun groups member => (deviceIn text store accountId
          member.ipClientId).elim groups (groups.add member)) groups) := by
  induction members generalizing cache groups with
  | nil => exact Finds.done rfl
  | cons member members ih =>
      unfold collectGroups
      split
      · rename_i device found
        rw [cached _ _ found]
        exact ih cached
      · apply Finds.bind Finds.load
        rintro loaded rfl
        apply ih
        intro ipClientId device found
        rw [getEntry_cons] at found
        split at found
        · rename_i here
          cases here
          cases found
          rfl
        · exact cached ipClientId device found

theorem buildSnapshotContent_finds (text : SnapshotText)
    (accountId providerId : Id) (name : String) :
    Finds reading store (buildSnapshotContent text accountId providerId name)
      fun content => ∃ members : List SnapshotMember,
        (∀ member, member ∈ members ↔
          HasMember store accountId providerId member) ∧
        content = ⟨name, (collectedGroups (deviceIn text store accountId)
          members).sorted text⟩ := by
  apply Finds.bind Finds.list
  rintro ids ⟨rows, rfl⟩
  apply Finds.bind (snapshotMembers_finds accountId providerId _)
  rintro members rfl
  have empty : Cached text store accountId [] := by
    intro ipClientId device found
    cases found
  apply Finds.bind (collectGroups_finds text accountId _ empty)
  rintro groups rfl
  apply Finds.done
  refine ⟨_, ?_, rfl⟩
  intro member
  rw [List.mem_filterMap]
  constructor
  · rintro ⟨actionId, -, contributes⟩
    exact ⟨actionId, contributes⟩
  · rintro ⟨actionId, contributes⟩
    refine ⟨actionId, ?_, contributes⟩
    by_contra unlisted
    rw [actionIn_unlisted unlisted] at contributes
    cases contributes

/-! ## Builds -/

/-- A program that only reads runs to an end. -/
theorem reads_complete {program : Backend α}
    (calls : program.Calls fun call => Backend.reads call = true)
    (history : BackendHistory) (world : World) :
    ∃ lastHistory outcome final, outcome ≠ .cut ∧
      Execution semantics Eq AllAnswered history program world lastHistory
        outcome final := by
  induction program generalizing history world with
  | done value => exact ⟨history, _, world, by simp, .returned rfl⟩
  | fail error => exact ⟨history, _, world, by simp, .threw rfl⟩
  | await call resume ih =>
      obtain ⟨isRead, later⟩ := calls
      obtain ⟨answer, after, result⟩ : ∃ answer after,
          semantics call .ok world = some (answer, after) := by
        cases call with
        | store call => exact ⟨_, _, rfl⟩
        | _ => cases isRead
      obtain ⟨lastHistory, outcome, final, uncut, rest⟩ :=
        ih answer (later answer) (history ++ [⟨call, answer⟩]) after
      have answered : AllAnswered history world call .ok := rfl
      exact ⟨lastHistory, outcome, final, uncut,
        .await rfl answered result rest⟩

variable {text : SnapshotText} {accountId providerId : Id}
variable {world world' : World} {content content' : SnapshotContent}

theorem Finds.sound {program : Backend α} {holds : α → Prop}
    {history lastHistory : BackendHistory} {outcome : Outcome Err α}
    {final : World} (finds : Finds reading world.store program holds)
    (execution : Execution semantics Eq reading.allowed history program world
      lastHistory outcome final) :
    yielding
      (fun value (_ : BackendHistory) (after : World) =>
        holds value ∧ after.store = world.store)
      (fun _ _ => reading.throws) (fun _ _ => True) lastHistory outcome
      final := by
  apply (finds history world rfl).sound _ trivial execution
  rintro before after _ rfl
  exact ⟨trivial, rfl⟩

/-- What a build returns. -/
theorem builds_found (builds : Builds text world accountId providerId content) :
    ∃ members : List SnapshotMember,
      (∀ member, member ∈ members ↔
        HasMember world.store accountId providerId member) ∧
      content = ⟨(providerState world.store accountId providerId).name,
        (collectedGroups (deviceIn text world.store accountId)
          members).sorted text⟩ := by
  obtain ⟨history, final, execution⟩ := builds
  have finds : Finds .answered world.store _ _ :=
    buildSnapshotContent_finds text accountId providerId
      (providerState world.store accountId providerId).name
  exact (finds.sound execution).1

end SnapshotBuild

open SnapshotBuild

variable {text : SnapshotText} {accountId providerId : Id}
variable {world world' : World} {content content' : SnapshotContent}

/-- Every provider has a content. -/
theorem exists_builds (text : SnapshotText) (world : World)
    (accountId providerId : Id) :
    ∃ content, Builds text world accountId providerId content := by
  obtain ⟨history, outcome, final, uncut, execution⟩ :=
    reads_complete (buildSnapshotContent_reads text accountId providerId
      (providerState world.store accountId providerId).name) [] world
  have finds : Finds .answered world.store _ _ :=
    buildSnapshotContent_finds text accountId providerId
      (providerState world.store accountId providerId).name
  have ends := finds.sound execution
  cases outcome with
  | returned content => exact ⟨content, history, final, execution⟩
  | threw error => exact ends.elim
  | cut => exact absurd rfl uncut

theorem Builds.name (builds : Builds text world accountId providerId content) :
    content.providerName =
      (providerState world.store accountId providerId).name := by
  obtain ⟨members, -, rfl⟩ := builds_found builds
  rfl

/-- Two stores in which the provider has the same name and the same members,
and these have the same devices, give it the same content. -/
theorem Builds.congr [Std.TransCmp text.localeCompare]
    (builds : Builds text world accountId providerId content)
    (builds' : Builds text world' accountId providerId content')
    (sameName : (providerState world.store accountId providerId).name =
      (providerState world'.store accountId providerId).name)
    (sameMembers : ∀ member, HasMember world.store accountId providerId member ↔
      HasMember world'.store accountId providerId member)
    (sameDevices : ∀ member,
      HasMember world.store accountId providerId member →
      deviceIn text world.store accountId member.ipClientId =
        deviceIn text world'.store accountId member.ipClientId) :
    content = content' := by
  obtain ⟨members, isMember, rfl⟩ := builds_found builds
  obtain ⟨members', isMember', rfl⟩ := builds_found builds'
  rw [sameName, collectedGroups_sorted_congr
    (fun member => (isMember member).trans
      ((sameMembers member).trans (isMember' member).symm))
    (fun member here => sameDevices member ((isMember member).mp here))]

end FluxIP
