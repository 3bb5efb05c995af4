import FluxIP.Adapters.Decisions
import FluxIP.Adapters.Turns

/-!
# How snapshots come to be published

A snapshot is recorded only by a program inside the mutex of its provider's
publisher, at most once in a turn, and only when its content differs from the
last one published in what the program read at the beginning of its turn.
These are properties of the programs alone, for any answers their calls might
get.
-/

namespace FluxIP

open Async

/-- The state a provider's events fold to. -/
def providerOf (events : List StoredEvent) : TraefikProviderState :=
  events.foldl traefikProviderReducer initialTraefikProviderState

/-- What `snapshot_published` records. -/
def EventData.publication :
    EventData → Option TraefikProviderSnapshotPublishedData
  | .traefikProvider (.snapshotPublished data) => some data
  | _ => none

/-- No snapshot was recorded: every attempt met a conflict. -/
def Unpublished (since : BackendHistory) : Prop :=
  ∀ input answer,
    @Answered.mk backend Err (.store (.append input)) answer ∈ since →
    input.data.publication ≠ none →
    ∃ aggregateType aggregateId expectedSequenceNumber,
      answer = .error (.concurrency aggregateType aggregateId
        expectedSequenceNumber)

/-- A program may record a snapshot so late in its turn. -/
structure MayPublish (providerId : Id) (since : BackendHistory)
    (input : AppendEventInput)
    (data : TraefikProviderSnapshotPublishedData) : Prop where
  unpublished : Unpublished since
  differs : ∃ seen,
    FirstRead ⟨input.accountId, .traefikProvider, providerId⟩ seen since ∧
      ∀ last, (providerOf seen).lastPublished = some last →
        last.contentHash ≠ data.contentHash

/-- A program takes turns at the provider's publisher, and records snapshots of
the provider only there. -/
structure Publishing (providerId : Id) (history : BackendHistory)
    (call : Call) : Prop where
  turns : TakesTurns (.publisher providerId) history call
  publishes : ∀ input data, call = .store (.append input) →
    input.data.publication = some data → input.aggregateId = providerId →
    input.aggregateType = .traefikProvider ∧
      ∃ ticket since,
        seatAt (.publisher providerId) history = .inside ticket since ∧
        MayPublish providerId since input data

/-- The call neither is a step on the provider's publisher nor records a
snapshot of the provider. -/
structure AsideFrom (providerId : Id) (call : Call) : Prop where
  steps : call.stepsOn (.publisher providerId) = false
  publishes : ∀ input data, call = .store (.append input) →
    input.data.publication = some data → input.aggregateId ≠ providerId

variable {providerId : Id} {history : BackendHistory} {call : Call}

theorem AsideFrom.publishing (aside : AsideFrom providerId call) :
    Publishing providerId history call :=
  ⟨takesTurns_of_aside aside.steps, fun input data same publication own =>
    absurd own (aside.publishes input data same publication)⟩

theorem AsideFrom.of_noAppend
    (steps : call.stepsOn (.publisher providerId) = false)
    (noAppend : ∀ input, call ≠ .store (.append input)) :
    AsideFrom providerId call :=
  ⟨steps, fun input _ same _ => absurd same (noAppend input)⟩

theorem AsideFrom.of_reads (isRead : Backend.reads call = true) :
    AsideFrom providerId call := by
  apply AsideFrom.of_noAppend
  · cases call with
    | store call => rfl
    | _ => cases isRead
  · rintro input rfl
    cases isRead

/-! ## Programs outside the mutex -/

/-- The program begins and ends outside the mutex of any publisher. -/
def StaysAway (allowed : Id → BackendHistory → Call → Prop) (α : Type)
    (program : Backend α) : Prop :=
  ∀ providerId history, seatAt (.publisher providerId) history = .away →
    program.Traces (allowed providerId)
      (fun history _ => seatAt (.publisher providerId) history = .away)
      history

namespace StaysAway

variable {allowed : Id → BackendHistory → Call → Prop} {α β : Type}

theorem done (value : α) : StaysAway allowed α (.done value) :=
  fun _ _ away => away

theorem fail (error : Err) : StaysAway allowed α (.fail error) :=
  fun _ _ away => away

theorem bind {program : Backend α} {next : α → Backend β}
    (first : StaysAway allowed α program)
    (second : ∀ value, StaysAway allowed β (next value)) :
    StaysAway allowed β (program.bind next) := by
  intro providerId history away
  apply (first providerId history away).bind
  · exact fun history value away => second value providerId history away
  · exact fun history error away => away

theorem attempt {program : Backend α} (first : StaysAway allowed α program) :
    StaysAway allowed (Except Err α) program.attempt := by
  intro providerId history away
  apply (first providerId history away).attempted.mono
  rintro history result ⟨outcome, rfl, away⟩
  exact away

end StaysAway

/-- The program begins and ends outside the mutex of any publisher, and
publishes inside it. -/
def PublishesInTurn (α : Type) (program : Backend α) : Prop :=
  StaysAway Publishing α program

theorem away_of_aside {answer : Except Err call.Answer}
    (aside : AsideFrom providerId call)
    (away : seatAt (.publisher providerId) history = .away) :
    seatAt (.publisher providerId) (history ++ [⟨call, answer⟩]) = .away := by
  rw [seatAt_append, Seat.next_of_aside aside.steps, away]
  rfl

theorem PublishesInTurn.of_calls {α : Type} {program : Backend α}
    (calls : ∀ providerId, program.Calls (AsideFrom providerId)) :
    PublishesInTurn α program := by
  intro providerId history away
  apply Program.Traces.of_quiet
    (fun history => seatAt (.publisher providerId) history = .away)
    (calls providerId)
  · exact fun history call answer aside away => away_of_aside aside away
  · exact fun history call _ aside => aside.publishing
  · exact away

theorem KeyedMutex.run_calls {α : Type} {allowed : Call → Prop}
    {key : MutexKey} {fn : Backend α}
    (steps : ∀ call : Call, call.stepsOn key = true → allowed call)
    (calls : fn.Calls allowed) : (KeyedMutex.run key fn).Calls allowed := by
  have own : ∀ awaited : MemoryCall,
      Call.stepsOn key (.memory awaited) = true →
      (Backend.memory awaited).Calls allowed :=
    fun awaited isStep => (Backend.calls_call _).mpr (steps _ isStep)
  apply Program.Calls.bind (own (.join key) (decide_eq_true rfl))
  intro ticket
  apply Program.Calls.bind (own (.turn key ticket) (decide_eq_true rfl))
  intro _
  exact calls.tryFinally (own (.leave key ticket) (decide_eq_true rfl))

theorem stepsOn_apart {key other : MutexKey}
    (isStep : call.stepsOn key = true) (apart : key ≠ other) :
    call.stepsOn other = false := by
  cases call with
  | memory call =>
      cases call <;> first | rfl | simp_all [Call.stepsOn]
  | _ => rfl

theorem noAppend_of_stepsOn {key : MutexKey}
    (isStep : call.stepsOn key = true) :
    ∀ input, call ≠ .store (.append input) := by
  rintro input rfl
  cases isStep

/-- Steps on other mutexes are aside. -/
theorem AsideFrom.of_stepsOn {key : MutexKey}
    (isStep : call.stepsOn key = true)
    (apart : key ≠ .publisher providerId) : AsideFrom providerId call :=
  .of_noAppend (stepsOn_apart isStep apart) (noAppend_of_stepsOn isStep)

/-! ## Appends of the provider store -/

theorem appendOnce_calls {accountId owner : Id} {event : TraefikProviderEvent}
    {allowed : Call → Prop}
    (read : allowed
      (.store (.readStream ⟨accountId, .traefikProvider, owner⟩)))
    (appends : ∀ version, allowed (.store (.append
      (ProviderStore.appendInput accountId owner version event)))) :
    (ProviderStore.appendOnce accountId owner event).Calls allowed := by
  apply Program.Calls.bind
  · apply Program.Calls.bind ((Backend.calls_call _).mpr read)
    exact fun _ => trivial
  · exact fun loaded => (Backend.calls_call _).mpr (appends _)

theorem providerAppend_calls {accountId owner : Id}
    {event : TraefikProviderEvent} {allowed : Call → Prop}
    (steps : ∀ call : Call, call.stepsOn (.providerStore owner) = true →
      allowed call)
    (read : allowed
      (.store (.readStream ⟨accountId, .traefikProvider, owner⟩)))
    (appends : ∀ version, allowed (.store (.append
      (ProviderStore.appendInput accountId owner version event)))) :
    (ProviderStore.append accountId owner event).Calls allowed := by
  apply KeyedMutex.run_calls steps
  apply (appendOnce_calls read appends).tryCatch
  intro error
  cases error with
  | concurrency aggregateType aggregateId expectedSequenceNumber =>
      exact appendOnce_calls read appends
  | thrown message => trivial

/-- An append of the provider store that records no snapshot, or one of
another provider. -/
theorem providerAppend_aside {accountId owner : Id}
    {event : TraefikProviderEvent}
    (apart : event.publishes = false ∨ owner ≠ providerId) :
    (ProviderStore.append accountId owner event).Calls
      (AsideFrom providerId) := by
  apply providerAppend_calls
  · exact fun call isStep => .of_stepsOn isStep (by rintro ⟨⟩)
  · exact .of_reads rfl
  · intro version
    refine ⟨rfl, ?_⟩
    rintro input data same publication
    cases same
    rcases apart with silent | other
    · cases event with
      | snapshotPublished data => cases silent
      | _ => cases publication
    · exact other

/-! ## Inside the mutex -/

/-- Inside the mutex of the provider's publisher, with this ticket, and what
was awaited since satisfies `holds`. -/
def InTurn (providerId : Id) (ticket : Nat) (holds : BackendHistory → Prop)
    (history : BackendHistory) : Prop :=
  ∃ since, seatAt (.publisher providerId) history = .inside ticket since ∧
    holds since

variable {ticket : Nat} {holds : BackendHistory → Prop}

theorem InTurn.aside {answer : Except Err call.Answer} {later : BackendHistory → Prop}
    (inTurn : InTurn providerId ticket holds history)
    (steps : call.stepsOn (.publisher providerId) = false)
    (goesOn : ∀ since, holds since → later (since ++ [⟨call, answer⟩])) :
    InTurn providerId ticket later (history ++ [⟨call, answer⟩]) := by
  obtain ⟨since, inside, held⟩ := inTurn
  refine ⟨since ++ [⟨call, answer⟩], ?_, goesOn since held⟩
  rw [seatAt_append, Seat.next_of_aside steps, inside]
  rfl

theorem unpublished_append {since : BackendHistory}
    {answer : Except Err call.Answer} (unpublished : Unpublished since)
    (silent : ∀ input, call = .store (.append input) →
      input.data.publication = none) :
    Unpublished (since ++ [⟨call, answer⟩]) := by
  intro input result member publication
  rcases List.mem_append.mp member with earlier | last
  · exact unpublished input result earlier publication
  · have same := congrArg Answered.call (List.mem_singleton.mp last)
    exact absurd (silent input same.symm) publication

/-- Calls other than appends keep what holds of the turn so far. -/
def Steady (holds : BackendHistory → Prop) : Prop :=
  ∀ since call (answer : Except Err (Call.Answer call)),
    (∀ input, call ≠ .store (.append input)) → holds since →
    holds (since ++ [⟨call, answer⟩])

theorem steady_true : Steady fun _ => True :=
  fun _ _ _ _ _ => trivial

/-- A program that stays inside the mutex, and what holds of the turn when it
returns. -/
def StaysInTurn (providerId : Id) (ticket : Nat) {α : Type}
    (returns : α → BackendHistory → Prop) (history : BackendHistory)
    (result : Except Err α) : Prop :=
  InTurn providerId ticket
    (fun since => ∀ value, result = .ok value → returns value since) history

section

variable {α β : Type} {returns : α → BackendHistory → Prop}

theorem InTurn.mono {later : BackendHistory → Prop}
    (inTurn : InTurn providerId ticket holds history)
    (implies : ∀ since, holds since → later since) :
    InTurn providerId ticket later history := by
  obtain ⟨since, inside, held⟩ := inTurn
  exact ⟨since, inside, implies since held⟩

theorem InTurn.done {value : α}
    (inTurn : InTurn providerId ticket (returns value) history) :
    (Program.done value : Backend α).Traces (Publishing providerId)
      (StaysInTurn providerId ticket returns) history := by
  apply inTurn.mono
  intro since held value same
  cases same
  exact held

theorem InTurn.fail {error : Err}
    (inTurn : InTurn providerId ticket holds history) :
    (Program.fail error : Backend α).Traces (Publishing providerId)
      (StaysInTurn providerId ticket returns) history := by
  apply inTurn.mono
  rintro since _ value ⟨⟩

theorem StaysInTurn.bind {program : Backend α} {next : α → Backend β}
    {last : β → BackendHistory → Prop}
    (first : program.Traces (Publishing providerId)
      (StaysInTurn providerId ticket returns) history)
    (second : ∀ value history,
      InTurn providerId ticket (returns value) history →
      (next value).Traces (Publishing providerId)
        (StaysInTurn providerId ticket last) history) :
    (program.bind next).Traces (Publishing providerId)
      (StaysInTurn providerId ticket last) history := by
  apply first.bind
  · intro history value ended
    apply second
    exact ended.mono fun since held => held value rfl
  · intro history error ended
    apply ended.mono
    rintro since _ value ⟨⟩

/-- Calls that are no appends and no steps on this mutex. -/
theorem InTurn.quiet {program : Backend α} {quiet : Call → Prop}
    (inTurn : InTurn providerId ticket holds history)
    (steady : Steady holds) (calls : program.Calls quiet)
    (steps : ∀ call, quiet call →
      call.stepsOn (.publisher providerId) = false)
    (noAppend : ∀ call, quiet call → ∀ input,
      call ≠ .store (.append input)) :
    program.Traces (Publishing providerId)
      (StaysInTurn providerId ticket fun _ => holds) history := by
  have traces : program.Traces (Publishing providerId)
      (fun history _ => InTurn providerId ticket holds history) history := by
    apply Program.Traces.of_quiet (InTurn providerId ticket holds) calls
    · intro history call answer isQuiet inTurn
      exact inTurn.aside (steps call isQuiet) fun since held =>
        steady since call answer (noAppend call isQuiet) held
    · intro history call _ isQuiet
      exact (AsideFrom.of_noAppend (steps call isQuiet)
        (noAppend call isQuiet)).publishing
    · exact inTurn
  apply traces.mono
  intro history result inTurn
  exact inTurn.mono fun since held value _ => held

theorem InTurn.reads {program : Backend α}
    (inTurn : InTurn providerId ticket holds history)
    (steady : Steady holds)
    (calls : program.Calls fun call => Backend.reads call = true) :
    program.Traces (Publishing providerId)
      (StaysInTurn providerId ticket fun _ => holds) history := by
  apply inTurn.quiet steady calls
  · exact fun call isRead => (AsideFrom.of_reads isRead).steps
  · rintro call isRead input rfl
    cases isRead

/-- Calls that do not concern the mutex stay inside. -/
theorem InTurn.stays {program : Backend α}
    (inTurn : InTurn providerId ticket holds history)
    (calls : program.Calls (AsideFrom providerId)) :
    program.Traces (Publishing providerId)
      (StaysInTurn providerId ticket fun _ _ => True) history := by
  have inside : InTurn providerId ticket (fun _ => True) history :=
    inTurn.mono fun _ _ => trivial
  have traces : program.Traces (Publishing providerId)
      (fun history _ => InTurn providerId ticket (fun _ => True) history)
      history := by
    apply Program.Traces.of_quiet _ calls
    · exact fun history call answer aside inTurn =>
        inTurn.aside aside.steps fun _ _ => trivial
    · exact fun history call _ aside => aside.publishing
    · exact inside
  apply traces.mono
  intro history result inTurn
  exact inTurn.mono fun _ _ _ _ => trivial

/-- A turn at the provider store, within the turn at the publisher. -/
theorem InTurn.atStore {fn : Backend α} {owner : Id}
    (inTurn : InTurn providerId ticket holds history) (steady : Steady holds)
    (steadyReturns : ∀ value, Steady (returns value))
    (body : ∀ history, InTurn providerId ticket holds history →
      fn.Traces (Publishing providerId)
        (StaysInTurn providerId ticket returns) history) :
    (KeyedMutex.run (.providerStore owner) fn).Traces
      (Publishing providerId) (StaysInTurn providerId ticket returns)
      history := by
  have memory : ∀ (awaited : MemoryCall) {holds : BackendHistory → Prop}
      {history : BackendHistory},
      Call.stepsOn (.providerStore owner) (.memory awaited) = true →
      InTurn providerId ticket holds history → Steady holds →
      (Backend.memory awaited).Traces (Publishing providerId)
        (StaysInTurn providerId ticket fun _ => holds) history := by
    intro awaited holds history isStep inTurn steady
    have calls : (Backend.memory awaited).Calls fun call =>
        Call.stepsOn (.providerStore owner) call = true :=
      (Backend.calls_call (.memory awaited)).mpr isStep
    apply inTurn.quiet steady calls
    · exact fun call isStep => stepsOn_apart isStep (by rintro ⟨⟩)
    · exact fun call isStep => noAppend_of_stepsOn isStep
  apply StaysInTurn.bind
    (memory (.join _) (decide_eq_true rfl) inTurn steady)
  intro own history inTurn
  apply StaysInTurn.bind
    (memory (.turn _ own) (decide_eq_true rfl) inTurn steady)
  intro _ history inTurn
  apply (body history inTurn).attempted.bind
  · rintro history outcome ⟨_, ⟨⟩, ended⟩
    have steadyEnd : Steady fun since =>
        ∀ value, outcome = .ok value → returns value since :=
      fun since call answer noAppend held value same =>
        steadyReturns value since call answer noAppend (held value same)
    apply StaysInTurn.bind
      (memory (.leave _ own) (decide_eq_true rfl) ended steadyEnd)
    intro _ history inTurn
    cases outcome with
    | ok value => exact (inTurn.mono fun since held => held value rfl).done
    | error error => exact inTurn.fail
  · rintro history error ⟨_, ⟨⟩, _⟩

end

/-! ## Recording a snapshot -/

/-- What the program read of the provider at the beginning of its turn. -/
def Loaded (accountId providerId : Id) (seen : List StoredEvent)
    (since : BackendHistory) : Prop :=
  FirstRead ⟨accountId, .traefikProvider, providerId⟩ seen since ∧
    Unpublished since

theorem steady_loaded (accountId providerId : Id) (seen : List StoredEvent) :
    Steady (Loaded accountId providerId seen) := by
  rintro since call answer noAppend ⟨first, unpublished⟩
  exact ⟨firstRead_lasting _ _ _ _ first,
    unpublished_append unpublished fun input same =>
      absurd same (noAppend input)⟩

/-- The append of this event was acknowledged. -/
def Acknowledged (accountId providerId : Id) (event : TraefikProviderEvent)
    (stored : StoredEvent) (since : BackendHistory) : Prop :=
  ∃ version, @Answered.mk backend Err
    (.store (.append (ProviderStore.appendInput accountId providerId version
      event))) (.ok stored) ∈ since

theorem steady_acknowledged (accountId providerId : Id)
    (event : TraefikProviderEvent) (stored : StoredEvent) :
    Steady (Acknowledged accountId providerId event stored) := by
  rintro since call answer _ ⟨version, member⟩
  exact ⟨version, List.mem_append_left _ member⟩

/-- How one pass of the append ends. -/
def Recorded (accountId providerId : Id) (event : TraefikProviderEvent)
    (seen : List StoredEvent) (since : BackendHistory) :
    Except Err StoredEvent → Prop
  | .ok stored => Acknowledged accountId providerId event stored since
  | .error (.concurrency _ _ _) => Loaded accountId providerId seen since
  | .error (.thrown _) => True

/-- The rule for one call. -/
theorem call_traces_to {allowed : BackendHistory → Call → Prop}
    (awaited : Call)
    {post : BackendHistory → Except Err awaited.Answer → Prop}
    (isAllowed : allowed history awaited)
    (ends : ∀ answer, post (history ++ [⟨awaited, answer⟩]) answer) :
    @Program.Traces backend Err awaited.Answer allowed post
      (Backend.call awaited) history :=
  @Program.Traces.perform backend Err allowed history awaited post isAllowed
    ends

section

variable {accountId : Id} {seen : List StoredEvent}
variable {data : TraefikProviderSnapshotPublishedData}

/-- What the append of the snapshot is allowed by, and how it ends. -/
theorem publication_inTurn {version : Nat}
    (differs : ∀ last, (providerOf seen).lastPublished = some last →
      last.contentHash ≠ data.contentHash)
    (inTurn : InTurn providerId ticket (Loaded accountId providerId seen)
      history) :
    (Backend.append (ProviderStore.appendInput accountId providerId version
      (.snapshotPublished data))).Traces (Publishing providerId)
      (fun history result => InTurn providerId ticket
        (Recorded accountId providerId (.snapshotPublished data) seen · result)
        history) history := by
  have aside := inTurn
  obtain ⟨since, inside, first, unpublished⟩ := inTurn
  apply call_traces_to (.store (.append _))
  · refine ⟨takesTurns_of_aside rfl, ?_⟩
    rintro input other same publication _
    cases same
    cases publication
    exact ⟨rfl, ticket, since, inside, unpublished, seen, first, differs⟩
  · intro answer
    apply InTurn.aside aside rfl
    rintro since ⟨first, unpublished⟩
    cases answer with
    | ok stored => exact ⟨version, List.mem_append_right _ (.head _)⟩
    | error error =>
        cases error with
        | thrown message => trivial
        | concurrency aggregateType aggregateId expected =>
            refine ⟨firstRead_lasting _ _ _ _ first, ?_⟩
            intro input result member publication
            rcases List.mem_append.mp member with earlier | last
            · exact unpublished input result earlier publication
            · cases List.mem_singleton.mp last
              exact ⟨_, _, _, rfl⟩

theorem appendOnce_inTurn
    (differs : ∀ last, (providerOf seen).lastPublished = some last →
      last.contentHash ≠ data.contentHash)
    (inTurn : InTurn providerId ticket (Loaded accountId providerId seen)
      history) :
    (ProviderStore.appendOnce accountId providerId
      (.snapshotPublished data)).Traces (Publishing providerId)
      (fun history result => InTurn providerId ticket
        (Recorded accountId providerId (.snapshotPublished data) seen · result)
        history) history := by
  have load : (ProviderStore.load accountId providerId).Traces
      (Publishing providerId) (fun history _ => InTurn providerId ticket
        (Loaded accountId providerId seen) history) history := by
    apply Program.Traces.of_quiet
      (InTurn providerId ticket (Loaded accountId providerId seen))
      (ProviderStore.load_reads accountId providerId)
    · intro history call answer isRead inTurn
      have aside : AsideFrom providerId call := .of_reads isRead
      apply inTurn.aside aside.steps
      intro since loaded
      apply steady_loaded _ _ _ _ _ _ _ loaded
      rintro input rfl
      cases isRead
    · exact fun history call _ isRead => (AsideFrom.of_reads isRead).publishing
    · exact inTurn
  apply load.bind
  · exact fun history loaded inTurn => publication_inTurn differs inTurn
  · intro history error inTurn
    apply inTurn.mono
    intro since loaded
    cases error with
    | thrown message => trivial
    | concurrency aggregateType aggregateId expected => exact loaded

theorem publish_append_inTurn
    (differs : ∀ last, (providerOf seen).lastPublished = some last →
      last.contentHash ≠ data.contentHash)
    (inTurn : InTurn providerId ticket (Loaded accountId providerId seen)
      history) :
    (ProviderStore.append accountId providerId
      (.snapshotPublished data)).Traces (Publishing providerId)
      (StaysInTurn providerId ticket
        (Acknowledged accountId providerId (.snapshotPublished data)))
      history := by
  apply inTurn.atStore (steady_loaded _ _ _)
  · exact fun stored => steady_acknowledged _ _ _ stored
  intro history inTurn
  apply (appendOnce_inTurn differs inTurn).attempted.bind
  · rintro history outcome ⟨_, ⟨⟩, ended⟩
    cases outcome with
    | ok stored => exact ended.done
    | error error =>
        cases error with
        | thrown message => exact ended.fail
        | concurrency aggregateType aggregateId expected =>
            apply (appendOnce_inTurn differs ended).mono
            intro history result inTurn
            apply inTurn.mono
            rintro since recorded stored rfl
            exact recorded
  · rintro history error ⟨_, ⟨⟩, _⟩

/-! ## The publisher -/

variable {deps : SnapshotPublisherDeps} {now : Timestamp}
variable {causationId : Option Id} {absorbedCausationIds : List Id}

/-- The result names a snapshot of this content that the program has seen
published under this version: it read it, or its own append recorded it. -/
inductive Certified (deps : SnapshotPublisherDeps) (accountId providerId : Id)
    (result : PublishResult) (since : BackendHistory) : Prop where
  | read (seen : List StoredEvent) (last : LastPublished)
      (member : seen ∈ readsOf ⟨accountId, .traefikProvider, providerId⟩ since)
      (lastPublished : (providerOf seen).lastPublished = some last)
      (version : last.version = result.snapshot.version)
      (contentHash : last.contentHash =
        deps.contentHash result.snapshot.toSnapshotContent)
  | recorded (data : TraefikProviderSnapshotPublishedData)
      (stored : StoredEvent)
      (acknowledged : Acknowledged accountId providerId
        (.snapshotPublished data) stored since)
      (version : stored.sequenceNumber = result.snapshot.version)
      (contentHash : data.contentHash =
        deps.contentHash result.snapshot.toSnapshotContent)

/-- A result other than null is certified. -/
def CertifiedIfAny (deps : SnapshotPublisherDeps)
    (accountId providerId : Id) (result : Option PublishResult)
    (since : BackendHistory) : Prop :=
  ∀ published, result = some published →
    Certified deps accountId providerId published since

theorem publishNew_inTurn {content : SnapshotContent} {correlationId : Id}
    (differs : ∀ last, (providerOf seen).lastPublished = some last →
      last.contentHash ≠ deps.contentHash content)
    (inTurn : InTurn providerId ticket (Loaded accountId providerId seen)
      history) :
    (SnapshotPublisher.publishNew deps accountId providerId content
      correlationId absorbedCausationIds now).Traces (Publishing providerId)
      (StaysInTurn providerId ticket
        (CertifiedIfAny deps accountId providerId)) history := by
  unfold SnapshotPublisher.publishNew
  split
  · apply StaysInTurn.bind
      (inTurn.stays (providerAppend_aside (.inl rfl)))
    intro _ history inTurn
    apply InTurn.done
    apply inTurn.mono
    rintro since _ published ⟨⟩
  · apply StaysInTurn.bind (publish_append_inTurn differs inTurn)
    intro stored history inTurn
    apply InTurn.done
    apply inTurn.mono
    intro since acknowledged published same
    cases same
    exact .recorded _ stored acknowledged rfl rfl

/-- The load a turn begins with. -/
theorem load_inTurn
    (inTurn : InTurn providerId ticket (· = []) history) :
    (ProviderStore.load accountId providerId).Traces (Publishing providerId)
      (StaysInTurn providerId ticket fun loaded since => ∃ seen,
        loaded.state = providerOf seen ∧
          Loaded accountId providerId seen since) history := by
  refine ⟨(AsideFrom.of_reads rfl).publishing, ?_⟩
  intro answer
  have unpublished : Unpublished [] := by
    intro input result same
    cases same
  cases answer with
  | error error =>
      apply InTurn.aside inTurn rfl
      rintro since _ value ⟨⟩
  | ok events =>
      apply InTurn.done
      apply inTurn.aside rfl
      rintro since rfl
      refine ⟨events, rfl, ?_, ?_⟩
      · simp [FirstRead, readsOf, readAnswer]
      · exact unpublished_append unpublished (by rintro input ⟨⟩)

theorem unchanged_certified {content : SnapshotContent}
    {state : TraefikProviderState} {result : PublishResult}
    {since : BackendHistory} (folds : state = providerOf seen)
    (loaded : Loaded accountId providerId seen since)
    (same : SnapshotPublisher.unchanged deps state content = some result) :
    Certified deps accountId providerId result since := by
  unfold SnapshotPublisher.unchanged at same
  cases last : state.lastPublished with
  | none =>
      rw [last] at same
      cases same
  | some published =>
      simp only [last] at same
      split at same
      · rename_i contentHash
        cases same
        rw [folds] at last
        exact .read seen published (List.mem_of_head? loaded.1) last rfl
          contentHash
      · cases same

theorem differs_of_changed {content : SnapshotContent}
    {state : TraefikProviderState} (folds : state = providerOf seen)
    (changed : SnapshotPublisher.unchanged deps state content = none) :
    ∀ last, (providerOf seen).lastPublished = some last →
      last.contentHash ≠ deps.contentHash content := by
  intro last found same
  rw [← folds] at found
  unfold SnapshotPublisher.unchanged at changed
  simp only [found, same, if_true] at changed
  cases changed

theorem correlationIdOf_inTurn
    (inTurn : InTurn providerId ticket (Loaded accountId providerId seen)
      history) :
    (SnapshotPublisher.correlationIdOf causationId).Traces
      (Publishing providerId)
      (StaysInTurn providerId ticket
        fun _ => Loaded accountId providerId seen) history := by
  cases causationId with
  | some causationId =>
      apply inTurn.mono
      exact fun since loaded value _ => loaded
  | none =>
      have calls : Backend.ulid.Calls fun call =>
          call = Call.clock .randomUUID :=
        (Backend.calls_call (.clock .randomUUID)).mpr rfl
      apply inTurn.quiet (steady_loaded _ _ _) calls
      · rintro call rfl
        rfl
      · intro call rfl input same
        cases same

theorem publishCurrent_inTurn
    (inTurn : InTurn providerId ticket (· = []) history) :
    (SnapshotPublisher.publishCurrent deps accountId providerId causationId
      absorbedCausationIds now).Traces (Publishing providerId)
      (StaysInTurn providerId ticket
        (CertifiedIfAny deps accountId providerId)) history := by
  unfold SnapshotPublisher.publishCurrent ProviderStore.loadActive
  simp only [Program.monadBind_eq_bind, Program.bind_assoc,
    Program.pure_eq_done, Program.done_bind]
  apply StaysInTurn.bind (load_inTurn inTurn)
  intro loaded history inTurn
  obtain ⟨since, inside, seen, folds, isLoaded⟩ := inTurn
  have inTurn : InTurn providerId ticket (Loaded accountId providerId seen)
      history := ⟨since, inside, isLoaded⟩
  by_cases active : ProviderStore.isActive accountId loaded.state = true
  · simp only [active, if_true]
    apply StaysInTurn.bind (inTurn.reads (steady_loaded _ _ _)
      (buildSnapshotContent_reads _ _ _ _))
    intro content history inTurn
    cases same : SnapshotPublisher.unchanged deps loaded.state content with
    | some result =>
        apply InTurn.done
        apply inTurn.mono
        intro since isLoaded published same
        cases same
        exact unchanged_certified folds isLoaded same
    | none =>
        have differs := differs_of_changed folds same
        apply StaysInTurn.bind (correlationIdOf_inTurn inTurn)
        intro correlationId history inTurn
        exact publishNew_inTurn differs inTurn
  · simp only [active]
    apply InTurn.done
    apply inTurn.mono
    rintro since _ published ⟨⟩

/-! ## The whole call -/

/-- The program has left the mutex, and what it returns was so while it was
inside. -/
def LeftTurn (providerId : Id) {α : Type}
    (returns : α → BackendHistory → Prop) (history : BackendHistory)
    (result : Except Err α) : Prop :=
  seatAt (.publisher providerId) history = .away ∧
    ∀ value, result = .ok value →
      ∃ since, (∀ answered ∈ since, answered ∈ history) ∧
        returns value since

/-- A step on the mutex itself. -/
theorem step_publishing {awaited : MemoryCall}
    (turns : TakesTurns (.publisher providerId) history (.memory awaited)) :
    Publishing providerId history (.memory awaited) := by
  refine ⟨turns, ?_⟩
  intro input data same
  cases same

theorem join_publishing
    (away : seatAt (.publisher providerId) history = .away) :
    Publishing providerId history (.memory (.join (.publisher providerId))) := by
  apply step_publishing
  refine ⟨fun _ => away, ?_, ?_⟩
  · intro ticket same
    cases same
  · intro ticket same
    cases same

theorem turn_publishing
    (queued : seatAt (.publisher providerId) history = .queued ticket) :
    Publishing providerId history
      (.memory (.turn (.publisher providerId) ticket)) := by
  apply step_publishing
  refine ⟨?_, ?_, ?_⟩
  · intro same
    cases same
  · intro other same
    cases same
    exact queued
  · intro other same
    cases same

theorem leave_publishing (inTurn : InTurn providerId ticket holds history) :
    Publishing providerId history
      (.memory (.leave (.publisher providerId) ticket)) := by
  apply step_publishing
  refine ⟨?_, ?_, ?_⟩
  · intro same
    cases same
  · intro other same
    cases same
  · intro other same
    cases same
    obtain ⟨since, inside, -⟩ := inTurn
    exact ⟨since, inside⟩

theorem leave_finally {α : Type} {fn : Backend α}
    {returns : α → BackendHistory → Prop}
    (body : fn.Traces (Publishing providerId)
      (StaysInTurn providerId ticket returns) history) :
    (fn.tryFinally (Backend.memory (.leave (.publisher providerId)
      ticket))).Traces (Publishing providerId)
      (LeftTurn providerId returns) history := by
  apply body.attempted.bind
  · rintro history outcome ⟨_, ⟨⟩, ended⟩
    refine ⟨leave_publishing ended, ?_⟩
    intro left
    obtain ⟨since, inside, held⟩ := ended
    have outside := seatAt_leave (.publisher providerId) history ticket left
    have within : ∀ answered ∈ since, answered ∈ history ++
        [@Answered.mk backend Err
          (.memory (.leave (.publisher providerId) ticket)) left] :=
      fun answered member =>
        List.mem_append_left _ (mem_of_inside inside answered member)
    cases left with
    | error error => exact ⟨outside, by rintro value ⟨⟩⟩
    | ok _ =>
        cases outcome with
        | error error => exact ⟨outside, by rintro value ⟨⟩⟩
        | ok value =>
            refine ⟨outside, ?_⟩
            intro value same
            cases same
            exact ⟨since, within, held value rfl⟩
  · rintro history error ⟨_, ⟨⟩, _⟩

/-- A publish call for the provider itself. -/
theorem publish_own
    (away : seatAt (.publisher providerId) history = .away) :
    (SnapshotPublisher.publish deps accountId providerId causationId
      absorbedCausationIds now).Traces (Publishing providerId)
      (LeftTurn providerId (CertifiedIfAny deps accountId providerId))
      history := by
  refine ⟨join_publishing away, ?_⟩
  intro joined
  cases joined with
  | error error =>
      refine ⟨?_, by rintro published ⟨⟩⟩
      rw [seatAt_append, away]
      rfl
  | ok ticket =>
      refine ⟨turn_publishing (seatAt_join _ _ ticket), ?_⟩
      intro turned
      cases turned with
      | error error =>
          refine ⟨?_, by rintro published ⟨⟩⟩
          rw [seatAt_append]
          exact if_pos rfl
      | ok value =>
          apply leave_finally
          apply publishCurrent_inTurn
          exact ⟨[], seatAt_turn (.publisher providerId) _ ticket value, rfl⟩

theorem publish_calls {owner : Id} {allowed : Call → Prop}
    (steps : ∀ call : Call, call.stepsOn (.publisher owner) = true →
      allowed call)
    (storeSteps : ∀ call : Call, call.stepsOn (.providerStore owner) = true →
      allowed call)
    (reads : ∀ call, Backend.reads call = true → allowed call)
    (draws : allowed (.clock .randomUUID))
    (appends : ∀ event version, event.ofPresence = false →
      allowed (.store (.append
        (ProviderStore.appendInput accountId owner version event)))) :
    (SnapshotPublisher.publish deps accountId owner causationId
      absorbedCausationIds now).Calls allowed := by
  have append (event : TraefikProviderEvent)
      (silent : event.ofPresence = false) :
      (ProviderStore.append accountId owner event).Calls allowed :=
    providerAppend_calls storeSteps (reads _ rfl) fun version =>
      appends event version silent
  apply KeyedMutex.run_calls steps
  apply Program.Calls.bind ((ProviderStore.loadActive_reads _ _).mono reads)
  intro loaded
  split
  · trivial
  apply Program.Calls.bind
    ((buildSnapshotContent_reads _ _ _ _).mono reads)
  intro content
  split
  · trivial
  apply Program.Calls.bind
  · cases causationId with
    | some causationId => trivial
    | none => exact (Backend.calls_call (.clock .randomUUID)).mpr draws
  intro correlationId
  unfold SnapshotPublisher.publishNew
  split
  · apply (append _ rfl).bind
    exact fun _ => trivial
  · apply (append _ rfl).bind
    exact fun _ => trivial

/-- A publish call for another provider. -/
theorem publish_other {owner : Id} (apart : owner ≠ providerId) :
    (SnapshotPublisher.publish deps accountId owner causationId
      absorbedCausationIds now).Calls (AsideFrom providerId) := by
  apply publish_calls
  · intro call isStep
    apply AsideFrom.of_stepsOn isStep
    intro same
    cases same
    exact apart rfl
  · exact fun call isStep => .of_stepsOn isStep (by rintro ⟨⟩)
  · exact fun call isRead => .of_reads isRead
  · exact .of_noAppend rfl (by rintro input ⟨⟩)
  · intro event version _
    refine ⟨rfl, ?_⟩
    rintro input data same _
    cases same
    exact apart

end

theorem publish_publishesInTurn (deps : SnapshotPublisherDeps)
    (accountId owner : Id) (causationId : Option Id)
    (absorbedCausationIds : List Id) (now : Timestamp) :
    PublishesInTurn (Option PublishResult) (SnapshotPublisher.publish deps
      accountId owner causationId absorbedCausationIds now) := by
  intro providerId history away
  by_cases own : owner = providerId
  · subst own
    exact (publish_own away).mono fun _ _ left => left.1
  · apply Program.Traces.of_quiet
      (fun history => seatAt (.publisher providerId) history = .away)
      (publish_other own)
    · exact fun history call answer aside away => away_of_aside aside away
    · exact fun history call _ aside => aside.publishing
    · exact away

/-! ## Every command -/

theorem publishesInTurn_closed : Closed PublishesInTurn where
  done := StaysAway.done
  fail := StaysAway.fail
  bind := StaysAway.bind
  attempt := StaysAway.attempt
  call awaited plain aside := by
    apply PublishesInTurn.of_calls
    intro providerId
    apply (Backend.calls_call awaited).mpr
    apply AsideFrom.of_noAppend
    · cases awaited with
      | memory call =>
          cases call with
          | join key => cases key <;> first | rfl | cases aside
          | turn key ticket => cases key <;> first | rfl | cases aside
          | leave key ticket => cases key <;> first | rfl | cases aside
          | _ => rfl
      | _ => rfl
    · rintro input rfl
      cases plain
  append accountId owner event silent := by
    apply PublishesInTurn.of_calls
    exact fun providerId => providerAppend_aside (.inl silent)
  publish := publish_publishesInTurn

theorem providerCommand_publishes (deps : ProviderServiceDeps)
    (now : Timestamp) (command : ProviderCommand) :
    PublishesInTurn (Option Nat) (command.program deps now) := by
  have closed := publishesInTurn_closed
  have aside (sent : MemoryCall)
      (steps : ∀ providerId, Call.stepsOn (.publisher providerId)
        (.memory sent) = false) :
      PublishesInTurn _ (Backend.memory sent) := by
    apply PublishesInTurn.of_calls
    intro providerId
    apply (Backend.calls_call (.memory sent)).mpr
    exact .of_noAppend (steps providerId) (by rintro input ⟨⟩)
  apply closed.command
  apply closed.delivers
  · exact fun sessionId payload => aside (.sendAgent _ _) fun _ => rfl
  · exact fun providerId payload => aside (.push _ _) fun _ => rfl

/-- A command that is none of the provider's stays away from the mutex and
records no snapshot. -/
theorem publishing_of_decided {credentials : Credentials}
    {command : BackendCommand} (foreign : command.isProvider = false)
    (decided : Decided credentials command history call) :
    Publishing providerId history call := by
  constructor
  · apply takesTurns_of_aside
    cases isStep : call.stepsOn (.publisher providerId) with
    | false => rfl
    | true =>
        have own : call.onProviders = true := by
          cases call with
          | memory call => cases call <;> first | rfl | cases isStep
          | _ => cases isStep
        rw [decided.2 own] at foreign
        cases foreign
  · intro input data same publication
    obtain ⟨-, guarded⟩ := decided.1 input same
    unfold Guarded at guarded
    cases written : input.data with
    | traefikProvider event =>
        rw [written] at guarded
        cases guarded.symm.trans foreign
    | _ =>
        rw [written] at publication
        cases publication

theorem command_publishes (deps : BackendDeps) (now : Timestamp)
    (command : BackendCommand) (providerId : Id) :
    (command.program deps now).Traces (Publishing providerId) anyEnd [] := by
  cases isProvider : command.isProvider with
  | false =>
      apply (command_decides deps now command).allows
      exact fun history call decided => publishing_of_decided isProvider decided
  | true =>
      cases command with
      | provider command =>
          apply (providerCommand_publishes deps.providers now command
            providerId [] rfl).mono
          exact fun _ _ _ => trivial
      | _ => cases isProvider

end FluxIP
