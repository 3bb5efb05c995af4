import FluxIP.Adapters.Publishing
import FluxIP.Guarantees.OptimisticConcurrency
import Mathlib.Data.List.Chain

/-!
# Published versions are consistent

Publish calls run among everything else the backend does.  A snapshot is
recorded by a program inside the publisher's mutex, so nothing else is recorded
between what it reads of the provider and its append: successive versions
differ in content, and a version stands for one content.
-/

namespace FluxIP

open Async

/-! ## Publish calls among the commands of the backend -/

inductive SnapshotCommand where
  | publish (accountId providerId : Id) (causationId : Option Id)
      (absorbedCausationIds : List Id)
  | backend (command : BackendCommand)
  deriving DecidableEq, Repr

/-- A command as it arrives: `number` tells equal ones apart, `now` is what it
reads from the clock. -/
structure SnapshotRequest where
  number : Nat
  now : Timestamp := 0
  command : SnapshotCommand
  deriving DecidableEq, Repr

inductive SnapshotAnswer where
  | published (result : Option PublishResult)
  | status (status : Option Nat)
  deriving DecidableEq, Repr

def SnapshotCommand.program (deps : BackendDeps) (now : Timestamp) :
    SnapshotCommand → Backend SnapshotAnswer
  | .publish accountId providerId causationId absorbedCausationIds =>
      (SnapshotPublisher.publish deps.providers.server.publisher accountId
        providerId causationId absorbedCausationIds now).bind
          fun result => pure (.published result)
  | .backend command => (command.program deps now).bind
      fun status => pure (.status status)

def SnapshotCommand.possible (world : World) : SnapshotCommand → Bool
  | .publish _ _ _ _ => true
  | .backend command => command.possible world

def snapshotService (deps : BackendDeps) :
    Service backend Err SnapshotRequest SnapshotAnswer Choice World where
  semantics := semantics
  program request := request.command.program deps request.now
  admits world request := request.command.possible world

/-- The process after some schedule. -/
abbrev SnapshotPool :=
  Pool backend Err SnapshotRequest SnapshotAnswer World

/-- What a command decides like. -/
def SnapshotCommand.decidesLike : SnapshotCommand → BackendCommand
  | .publish accountId providerId causationId absorbedCausationIds =>
      .provider (.coordinatorRun accountId providerId
        (absorbedCausationIds ++ causationId.toList))
  | .backend command => command

variable {deps : BackendDeps}

theorem SnapshotCommand.decides (now : Timestamp)
    (command : SnapshotCommand) :
    (command.program deps now).Traces
      (Decided deps.ipClients.credentials command.decidesLike) anyEnd [] := by
  cases command with
  | publish accountId providerId causationId absorbedCausationIds =>
      have composed : Composed fun _ program => program.AlwaysTraces
          (Decided deps.ipClients.credentials (SnapshotCommand.publish
            accountId providerId causationId
            absorbedCausationIds).decidesLike) :=
        decides_composed (guarded_of_provider rfl) rfl
      exact composed.bind (composed.publish _ _ _ _ _ _)
        (fun _ => composed.done _) []
  | backend command => exact ended_traces (command_decides deps now command)

theorem SnapshotCommand.publishes (now : Timestamp)
    (command : SnapshotCommand) (providerId : Id) :
    (command.program deps now).Traces (Publishing providerId) anyEnd [] := by
  cases command with
  | publish accountId owner causationId absorbedCausationIds =>
      have published := publish_publishesInTurn deps.providers.server.publisher
        accountId owner causationId absorbedCausationIds now providerId [] rfl
      apply published.bind
      · exact fun _ _ _ => trivial
      · exact fun _ _ _ => trivial
  | backend command =>
      apply (command_publishes deps now command providerId).bind
      · exact fun _ _ _ => trivial
      · exact fun _ _ _ => trivial

/-- What a publish call returns has been seen published. -/
def CertifiedAnswer (deps : BackendDeps) (request : SnapshotRequest)
    (history : BackendHistory) (result : Except Err SnapshotAnswer) : Prop :=
  ∀ accountId providerId causationId absorbedCausationIds published,
    request.command =
        .publish accountId providerId causationId absorbedCausationIds →
      result = .ok (.published (some published)) →
      ∃ since, (∀ answered ∈ since, answered ∈ history) ∧
        Certified deps.providers.server.publisher accountId providerId
          published since

theorem SnapshotRequest.certified (request : SnapshotRequest) :
    (request.command.program deps request.now).Traces (fun _ _ => True)
      (CertifiedAnswer deps request) [] := by
  obtain ⟨number, now, command⟩ := request
  cases command with
  | publish accountId providerId causationId absorbedCausationIds =>
      have own : (SnapshotPublisher.publish deps.providers.server.publisher
          accountId providerId causationId absorbedCausationIds now).Traces
          (fun _ _ => True)
          (LeftTurn providerId (CertifiedIfAny
            deps.providers.server.publisher accountId providerId)) [] :=
        (publish_own rfl).allows fun _ _ _ => trivial
      apply own.bind
      · rintro history result ⟨-, held⟩ _ _ _ _ published ⟨⟩ ⟨⟩
        obtain ⟨since, within, certified⟩ := held (some published) rfl
        exact ⟨since, within, certified published rfl⟩
      · rintro history error _ _ _ _ _ published _ ⟨⟩
  | backend command =>
      have any := (command_decides deps now command).allows
        fun _ _ _ => trivial
      apply any.bind
      · rintro history status _ _ _ _ _ published ⟨⟩
      · rintro history error _ _ _ _ _ published ⟨⟩

/-! ## The publications of a stream -/

/-- What the event makes the last published version, if it records one. -/
def StoredEvent.published (event : StoredEvent) : Option LastPublished :=
  event.data.publication.map fun data =>
    { version := event.sequenceNumber
      contentHash := data.contentHash
      correlationId := data.correlationId
      publishedAt := data.publishedAt }

def publications (events : List StoredEvent) : List LastPublished :=
  events.filterMap StoredEvent.published

theorem lastPublished_reducer (state : TraefikProviderState)
    (event : StoredEvent) :
    (traefikProviderReducer state event).lastPublished =
      event.published.or state.lastPublished := by
  cases written : event.data with
  | traefikProvider providerEvent =>
      cases providerEvent with
      | agentDisconnected data =>
          simp only [traefikProviderReducer, StoredEvent.published, written,
            EventData.publication]
          split
          · rfl
          · rfl
      | _ => simp [traefikProviderReducer, StoredEvent.published, written,
          EventData.publication]
  | _ => simp [traefikProviderReducer, StoredEvent.published, written,
      EventData.publication]

theorem lastPublished_providerOf (events : List StoredEvent) :
    (providerOf events).lastPublished = (publications events).getLast? := by
  induction events using List.reverseRecOn with
  | nil => rfl
  | append_singleton events event ih =>
      unfold providerOf publications at *
      rw [List.foldl_append, List.foldl_cons, List.foldl_nil,
        lastPublished_reducer, ih, List.filterMap_append]
      cases published : event.published with
      | none => simp [published]
      | some last => simp [published]

/-- The stream of a provider. -/
def EventStore.ofProvider (store : EventStore) (providerId : Id) :
    List StoredEvent :=
  store.stream .traefikProvider providerId

/-- Successive publications of a provider differ in content. -/
def Alternating (store : EventStore) (providerId : Id) : Prop :=
  (publications (store.ofProvider providerId)).IsChain
    fun earlier later => earlier.contentHash ≠ later.contentHash

/-! ## The invariant -/

/-- What the programs have read and written stays true: inside a publisher's
mutex the last publication is the one read there, and what was acknowledged is
in the store. -/
structure Consistent (pool : SnapshotPool) : Prop where
  sound : Sound pool
  linedUp : ∀ providerId, LinedUp (.publisher providerId) pool
  fresh : ∀ providerId (index : Nat) thread ticket since accountId seen,
    pool.threads[index]? = some thread →
    seatAt (.publisher providerId) thread.history = .inside ticket since →
    Loaded accountId providerId seen since →
    (publications seen).getLast? = (publications (pool.state.store.readStream
      ⟨accountId, .traefikProvider, providerId⟩)).getLast?
  alternating : ∀ providerId, Alternating pool.state.store providerId
  recorded : ∀ thread ∈ pool.threads, ∀ input event,
    @Answered.mk backend Err (.store (.append input)) (.ok event) ∈
      thread.history →
    event ∈ pool.state.store.events ∧ event.data = input.data ∧
      event.isOf input.aggregateType input.aggregateId = true

variable {pool next : SnapshotPool}

/-- What each command is allowed. -/
def MayCall (deps : BackendDeps) (request : SnapshotRequest)
    (history : BackendHistory) (call : Call) : Prop :=
  Decided deps.ipClients.credentials request.command.decidesLike history
    call ∧ ∀ providerId, Publishing providerId history call

theorem SnapshotRequest.traces (request : SnapshotRequest) :
    (request.command.program deps request.now).Traces (MayCall deps request)
      anyEnd [] :=
  (request.command.decides request.now).and
    (.all fun providerId => request.command.publishes request.now providerId)

/-! ## What a step does to the store -/

/-- A call has appended the event to the store, and was not answered by a
conflict. -/
def Inserts (before after : EventStore) (call : Call)
    (answer : Except Err call.Answer) (event : StoredEvent) : Prop :=
  ∃ input, call = .store (.append input) ∧
    before.append input = (.ok event, after) ∧
    ∀ aggregateType aggregateId expectedSequenceNumber,
      answer ≠ .error (.concurrency aggregateType aggregateId
        expectedSequenceNumber)

theorem store_cases {call : Call} {choice : Choice} {world after : World}
    {answer : Except Err call.Answer}
    (noDeletion : ∀ accountId, call ≠ .store (.deleteAccount accountId))
    (result : semantics call choice world = some (answer, after)) :
    after.store = world.store ∨
      ∃ event, Inserts world.store after.store call answer event := by
  by_cases noAppend : ∀ input, call ≠ .store (.append input)
  · exact .inl (store_frame result (keepsStore_of_ne noAppend noDeletion))
  · simp only [not_forall, not_not] at noAppend
    obtain ⟨input, rfl⟩ := noAppend
    rcases append_step result with
      ⟨event, store, appended, rfl, ends⟩ | ⟨rfl, -⟩
    · right
      refine ⟨event, input, rfl, appended, ?_⟩
      rintro aggregateType aggregateId expectedSequenceNumber conflict
      rcases ends with ⟨returned, -⟩ | ⟨message, -, thrown⟩
      · cases returned.symm.trans conflict
      · cases thrown.symm.trans conflict
    · exact .inl rfl

/-- An event that records no snapshot of the provider leaves its publications
alone. -/
theorem publications_kept {before after : EventStore} {call : Call}
    {answer : Except Err call.Answer} {event : StoredEvent}
    (sequenced : before.Sequenced) (sequencedAfter : after.Sequenced)
    (inserts : Inserts before after call answer event)
    {params : ReadStreamParams}
    (silent : event.data.publication = none ∨
      event.isOf params.aggregateType params.aggregateId = false) :
    publications (after.readStream params) =
      publications (before.readStream params) := by
  obtain ⟨input, rfl, inserted, -⟩ := inserts
  rw [EventStore.readStream_append sequenced sequencedAfter inserted]
  rcases silent with silent | other
  · split
    · simp [publications, StoredEvent.published, silent]
    · simp
  · simp [other]

/-! ## The step -/

section

variable {index : Nat} {request : SnapshotRequest} {history : BackendHistory}
variable {call : Call} {resume : Except Err call.Answer → Backend SnapshotAnswer}
variable {choice : Choice} {answer : Except Err call.Answer} {world : World}

/-- A program that records a snapshot is inside its mutex, and what it has read
there last published another content. -/
theorem Publishing.recorder {providerId : Id}
    (publishing : Publishing providerId history call)
    {event : StoredEvent}
    (inserts : Inserts pool.state.store world.store call answer event)
    {data : TraefikProviderSnapshotPublishedData}
    (publication : event.data.publication = some data)
    (own : event.aggregateId = providerId) :
    event.aggregateType = .traefikProvider ∧
      ∃ ticket since accountId seen,
        event.accountId = accountId ∧
        seatAt (.publisher providerId) history = .inside ticket since ∧
        Loaded accountId providerId seen since ∧
        ∀ last, (providerOf seen).lastPublished = some last →
          last.contentHash ≠ data.contentHash := by
  obtain ⟨input, rfl, inserted, -⟩ := inserts
  rcases EventStore.append_cases inserted with
    ⟨_, ⟨⟩, ofType, ofId, -, account, written, -⟩ | ⟨conflict, -⟩
  · rw [written] at publication
    obtain ⟨isProvider, ticket, since, inside, unpublished, seen, first,
      differs⟩ := publishing.publishes input data rfl publication
        (ofId.symm.trans own)
    exact ⟨ofType.trans isProvider, ticket, since, input.accountId, seen,
      account, inside, ⟨first, unpublished⟩, differs⟩
  · cases conflict

/-- Another program inside a publisher's mutex sees no publication of the
provider. -/
theorem Consistent.silent_for (consistent : Consistent pool)
    (found : pool.threads[index]? = some ⟨request, history, .await call resume⟩)
    {providerId : Id} (publishing : Publishing providerId history call)
    {event : StoredEvent}
    (inserts : Inserts pool.state.store world.store call answer event)
    {other ticket : Nat} {thread : Thread backend Err SnapshotRequest
      SnapshotAnswer} {since : BackendHistory}
    (foundOther : pool.threads[other]? = some thread) (apart : other ≠ index)
    (inside : seatAt (.publisher providerId) thread.history =
      .inside ticket since) :
    event.data.publication = none ∨
      event.isOf .traefikProvider providerId = false := by
  cases publication : event.data.publication with
  | none => exact .inl rfl
  | some data =>
      right
      by_contra isOf
      obtain ⟨-, own⟩ := EventStore.isOf_iff.mp (by simpa using isOf)
      obtain ⟨-, ownTicket, ownSince, -, -, -, ownInside, -⟩ :=
        publishing.recorder inserts publication own
      apply apart
      apply (consistent.linedUp providerId).alone
      · rw [seatOf_of_found foundOther]
        exact inside
      · rw [seatOf_of_found found]
        exact ownInside

/-- The other programs inside a publisher's mutex. -/
theorem Consistent.fresh_other (consistent : Consistent pool)
    (found : pool.threads[index]? = some ⟨request, history, .await call resume⟩)
    (publishing : ∀ providerId, Publishing providerId history call)
    (sequencedAfter : world.store.Sequenced)
    (stored : world.store = pool.state.store ∨ ∃ event,
      Inserts pool.state.store world.store call answer event)
    {providerId accountId : Id} {other ticket : Nat}
    {thread : Thread backend Err SnapshotRequest SnapshotAnswer}
    {since : BackendHistory} {seen : List StoredEvent}
    (foundOther : pool.threads[other]? = some thread) (apart : other ≠ index)
    (inside : seatAt (.publisher providerId) thread.history =
      .inside ticket since)
    (loaded : Loaded accountId providerId seen since) :
    (publications seen).getLast? = (publications (world.store.readStream
      ⟨accountId, .traefikProvider, providerId⟩)).getLast? := by
  have before := consistent.fresh providerId other thread ticket since
    accountId seen foundOther inside loaded
  rcases stored with same | ⟨event, inserts⟩
  · rw [same]
    exact before
  · have silent := consistent.silent_for found (publishing providerId) inserts
      foundOther apart inside
    rw [publications_kept consistent.sound.sequenced sequencedAfter inserts
      silent]
    exact before

/-- The program that takes the step, if it is inside a publisher's mutex. -/
theorem Consistent.fresh_own (consistent : Consistent pool)
    (found : pool.threads[index]? = some ⟨request, history, .await call resume⟩)
    (sequencedAfter : world.store.Sequenced)
    (stored : world.store = pool.state.store ∨ ∃ event,
      Inserts pool.state.store world.store call answer event)
    (present : ∀ params events, readAnswer params ⟨call, answer⟩ = some events →
      events = world.store.readStream params)
    {providerId accountId : Id} {ticket : Nat} {since : BackendHistory}
    {seen : List StoredEvent}
    (inside : seatAt (.publisher providerId) (history ++ [⟨call, answer⟩]) =
      .inside ticket since)
    (loaded : Loaded accountId providerId seen since) :
    (publications seen).getLast? = (publications (world.store.readStream
      ⟨accountId, .traefikProvider, providerId⟩)).getLast? := by
  obtain ⟨first, unpublished⟩ := loaded
  rw [seatAt_append] at inside
  rcases Seat.next_inside inside with rfl | ⟨earlier, before, rfl⟩
  · cases first
  unfold FirstRead at first
  rw [readsOf_append] at first
  cases reads : readsOf ⟨accountId, .traefikProvider, providerId⟩ earlier with
  | nil =>
      -- the step is the first read of the turn
      rw [reads] at first
      cases read : readAnswer ⟨accountId, .traefikProvider, providerId⟩
          ⟨call, answer⟩ with
      | none => simp [read] at first
      | some events =>
          have same : events = seen := by simpa [read] using first
          rw [← same, present _ _ read]
  | cons earliest rest =>
      rw [reads] at first
      have same : earliest = seen := by simpa using first
      have wasLoaded : Loaded accountId providerId seen earlier := by
        refine ⟨?_, ?_⟩
        · simp [FirstRead, reads, same]
        · exact fun input result member =>
            unpublished input result (List.mem_append_left _ member)
      have before := consistent.fresh providerId index _ ticket earlier
        accountId seen found before wasLoaded
      rcases stored with kept | ⟨event, inserts⟩
      · rw [kept]
        exact before
      · have silent : event.data.publication = none := by
          obtain ⟨input, rfl, inserted, noConflict⟩ := inserts
          rcases EventStore.append_cases inserted with
            ⟨_, ⟨⟩, -, -, -, -, written, -⟩ | ⟨conflict, -⟩
          · by_contra publication
            rw [written] at publication
            obtain ⟨_, _, _, conflict⟩ := unpublished input answer
              (List.mem_append_right _ (List.mem_singleton_self _))
              publication
            exact noConflict _ _ _ conflict
          · cases conflict
        rw [publications_kept consistent.sound.sequenced sequencedAfter inserts
          (.inl silent)]
        exact before

/-- The last publication of the stream is the one the recorder has read. -/
theorem Consistent.last_of_recorder (consistent : Consistent pool)
    (found : pool.threads[index]? = some ⟨request, history, .await call resume⟩)
    {command : BackendCommand} {credentials : Credentials}
    (decided : Decided credentials command history call)
    {event : StoredEvent}
    (inserts : Inserts pool.state.store world.store call answer event)
    {ticket : Nat} {since : BackendHistory} {seen : List StoredEvent}
    (ofType : event.aggregateType = .traefikProvider)
    (inside : seatAt (.publisher event.aggregateId) history =
      .inside ticket since)
    (loaded : Loaded event.accountId event.aggregateId seen since) :
    (publications (pool.state.store.ofProvider event.aggregateId)).getLast? =
      (providerOf seen).lastPublished := by
  have current := consistent.fresh event.aggregateId index _ ticket since
    event.accountId seen found inside loaded
  rw [lastPublished_providerOf, current]
  obtain ⟨input, rfl, inserted, -⟩ := inserts
  obtain ⟨-, whole, same, -⟩ := consistent.sound.inserts
    (List.mem_of_getElem? found) decided inserted
  rcases EventStore.append_cases inserted with
    ⟨_, ⟨⟩, sameType, sameId, -, account, -⟩ | ⟨conflict, -⟩
  · rw [ofType] at sameType
    have stream : pool.state.store.readStream
        ⟨event.accountId, .traefikProvider, event.aggregateId⟩ =
        pool.state.store.ofProvider event.aggregateId := by
      have read := same.trans whole
      simp only [AppendEventInput.params, ← sameType, ← sameId,
        ← account] at read
      exact read
    rw [stream]
  · cases conflict

theorem Consistent.alternating_step (consistent : Consistent pool)
    (found : pool.threads[index]? = some ⟨request, history, .await call resume⟩)
    (may : MayCall deps request history call)
    (stored : world.store = pool.state.store ∨ ∃ event,
      Inserts pool.state.store world.store call answer event)
    (providerId : Id) : Alternating world.store providerId := by
  have before := consistent.alternating providerId
  rcases stored with same | ⟨event, inserts⟩
  · rw [same]
    exact before
  · have whole := inserts
    obtain ⟨input, -, inserted, -⟩ := inserts
    rcases EventStore.append_cases inserted with
      ⟨_, ⟨⟩, -, -, -, -, -, -, -, table⟩ | ⟨conflict, -⟩
    · unfold Alternating EventStore.ofProvider
      rw [table, EventStore.stream_append_event]
      split
      · rename_i own
        obtain ⟨ofType, ofId⟩ := EventStore.isOf_iff.mp own
        cases published : event.published with
        | none =>
            rw [publications, List.filterMap_append]
            simp only [List.filterMap_cons, published, List.filterMap_nil,
              List.append_nil]
            exact before
        | some last =>
            obtain ⟨data, publication, rfl⟩ :=
              Option.map_eq_some_iff.mp published
            obtain ⟨-, ticket, since, _, seen, rfl, inside, loaded,
              differs⟩ := (may.2 providerId).recorder whole publication ofId
            subst ofId
            have current := consistent.last_of_recorder found may.1 whole
              ofType inside loaded
            rw [publications, List.filterMap_append]
            apply List.IsChain.append before
            · simp [published]
            · intro earlier isLast later isFirst
              have isLast : (providerOf seen).lastPublished = some earlier :=
                current.symm.trans isLast
              have isFirst : later =
                  { version := event.sequenceNumber
                    contentHash := data.contentHash
                    correlationId := data.correlationId
                    publishedAt := data.publishedAt } := by
                simpa [published] using isFirst.symm
              rw [isFirst]
              exact differs earlier isLast
      · rw [List.append_nil]
        exact before
    · cases conflict

theorem Consistent.recorded_step (consistent : Consistent pool)
    (found : pool.threads[index]? = some ⟨request, history, .await call resume⟩)
    (grows : pool.state.store.Extends world.store)
    (stored : world.store = pool.state.store ∨ ∃ event,
      Inserts pool.state.store world.store call answer event)
    (result : semantics call choice pool.state = some (answer, world))
    {input : AppendEventInput} {event : StoredEvent}
    (member : @Answered.mk backend Err (.store (.append input)) (.ok event) ∈
      history ++ [⟨call, answer⟩]) :
    event ∈ world.store.events ∧ event.data = input.data ∧
      event.isOf input.aggregateType input.aggregateId = true := by
  rcases List.mem_append.mp member with earlier | last
  · obtain ⟨present, rest⟩ := consistent.recorded _
      (List.mem_of_getElem? found) input event earlier
    exact ⟨grows.1.subset present, rest⟩
  · cases List.mem_singleton.mp last
    rcases append_step result with
      ⟨inserted, store, appended, rfl, ⟨returned, -⟩ | ⟨_, -, thrown⟩⟩ |
      ⟨-, error, failed, -⟩
    · cases returned
      rcases EventStore.append_cases appended with
        ⟨_, ⟨⟩, ofType, ofId, -, -, written, -, -, table⟩ | ⟨conflict, -⟩
      · refine ⟨?_, written, EventStore.isOf_iff.mpr ⟨ofType, ofId⟩⟩
        rw [table]
        exact List.mem_append_right _ (List.mem_singleton_self _)
      · cases conflict
    · cases thrown
    · cases failed

end

theorem Consistent.step {move : Move SnapshotRequest Choice}
    (consistent : Consistent pool)
    (traced : pool.Traced (MayCall deps)) (noDeletion : NoDeletion pool move)
    (moved : pool.step (snapshotService deps) move = some next) :
    Consistent next := by
  have decided : pool.Traced fun request => Decided
      deps.ipClients.credentials request.command.decidesLike :=
    fun thread member => (traced thread member).allows fun _ _ may => may.1
  have sound := consistent.sound.step rfl decided noDeletion moved
  have linedUp : ∀ providerId, LinedUp (.publisher providerId) next :=
    fun providerId => (consistent.linedUp providerId).step rfl
      (fun request history call (may : MayCall deps request history call) =>
        (may.2 providerId).turns) traced moved
  cases move with
  | start request =>
      obtain ⟨-, -, rfl⟩ := Pool.step_start moved
      refine ⟨sound, linedUp, ?_, consistent.alternating, ?_⟩
      · intro providerId index thread ticket since accountId seen found inside
        rcases List.mem_append.mp (List.mem_of_getElem? found) with old | new
        · obtain ⟨other, foundOld⟩ := List.getElem?_of_mem old
          exact consistent.fresh providerId other thread ticket since accountId
            seen foundOld inside
        · rw [List.mem_singleton.mp new] at inside
          cases inside
      · intro thread member input event answered
        rcases List.mem_append.mp member with old | new
        · exact consistent.recorded thread old input event answered
        · rw [List.mem_singleton.mp new] at answered
          cases answered
  | advance index choice =>
      obtain ⟨request, history, call, resume, answer, world, found, result,
        rfl⟩ := Pool.step_advance moved
      have member := List.mem_of_getElem? found
      have bound := (List.getElem?_eq_some_iff.mp found).1
      have may := (traced _ member).1
      have kept : ∀ accountId, call ≠ .store (.deleteAccount accountId) := by
        rintro accountId rfl
        simp [NoDeletion, deletesNothing, found] at noDeletion
      obtain ⟨sequenced, grows, present⟩ :=
        consistent.sound.call member may.1 kept result
      have stored := store_cases kept result
      refine ⟨sound, linedUp, ?_, ?_, ?_⟩
      · intro providerId other thread ticket since accountId seen foundAfter
          inside loaded
        by_cases same : other = index
        · subst same
          rw [List.getElem?_set_self bound] at foundAfter
          cases foundAfter
          exact consistent.fresh_own found sequenced stored present inside
            loaded
        · rw [List.getElem?_set_ne (Ne.symm same)] at foundAfter
          exact consistent.fresh_other found may.2 sequenced stored foundAfter
            same inside loaded
      · exact consistent.alternating_step found may stored
      · intro thread memberAfter input event answered
        rcases List.mem_or_eq_of_mem_set memberAfter with old | rfl
        · obtain ⟨inStore, rest⟩ :=
            consistent.recorded thread old input event answered
          exact ⟨grows.1.subset inStore, rest⟩
        · exact consistent.recorded_step found grows stored result answered

/-- A process that starts on a consistent store. -/
theorem Consistent.initial {world : World}
    (sequenced : world.store.Sequenced)
    (alternating : ∀ providerId, Alternating world.store providerId)
    (idle : ∀ key, world.mutexes.waiting key = []) :
    Consistent ⟨world, []⟩ where
  sound := ⟨sequenced, fun _ member => by cases member⟩
  linedUp providerId := .initial (idle _)
  fresh providerId index thread ticket since accountId seen found := by
    simp at found
  alternating := alternating
  recorded thread member := by cases member

theorem Consistent.run {initial : World}
    (start : Consistent ⟨initial, []⟩)
    (run : Pool.Run (snapshotService deps) NoDeletion ⟨initial, []⟩ pool) :
    Consistent pool := by
  suffices both : Consistent pool ∧ pool.Traced (MayCall deps) from both.1
  apply run.invariant
  · exact ⟨start, fun _ member => by cases member⟩
  · intro pool move next both noDeletion moved
    exact ⟨both.1.step both.2 noDeletion moved,
      both.2.step (fun request => request.traces) moved⟩

/-! ## Results -/

/-- A snapshot of this content was published under this version. -/
def PublishedAs (deps : SnapshotPublisherDeps) (store : EventStore)
    (providerId : Id) (version : Nat) (content : SnapshotContent) : Prop :=
  ∃ event ∈ store.ofProvider providerId, ∃ last,
    event.published = some last ∧ last.version = version ∧
      last.contentHash = deps.contentHash content

theorem published_version {event : StoredEvent} {last : LastPublished}
    (published : event.published = some last) :
    event.sequenceNumber = last.version := by
  obtain ⟨data, -, rfl⟩ := Option.map_eq_some_iff.mp published
  rfl

/-- What a program has certified is in the store. -/
theorem Consistent.publishedAs (consistent : Consistent pool)
    {thread : Thread backend Err SnapshotRequest SnapshotAnswer}
    (member : thread ∈ pool.threads) {deps : SnapshotPublisherDeps}
    {accountId providerId : Id} {result : PublishResult}
    {since : BackendHistory}
    (within : ∀ answered ∈ since, answered ∈ thread.history)
    (certified : Certified deps accountId providerId result since) :
    PublishedAs deps pool.state.store providerId result.snapshot.version
      result.snapshot.toSnapshotContent := by
  cases certified with
  | read seen last wasRead lastPublished version contentHash =>
      obtain ⟨answered, inSince, answer⟩ := List.mem_filterMap.mp wasRead
      have inReads : seen ∈ readsOf ⟨accountId, .traefikProvider, providerId⟩
          thread.history :=
        List.mem_filterMap.mpr ⟨answered, within answered inSince, answer⟩
      have isPrefix := (consistent.sound.seen thread member _).2 seen inReads
      rw [lastPublished_providerOf] at lastPublished
      obtain ⟨event, inSeen, published⟩ :=
        List.mem_filterMap.mp (List.mem_of_getLast? lastPublished)
      obtain ⟨inStore, ofType, ofId, -⟩ :=
        EventStore.mem_readStream.mp (isPrefix.subset inSeen)
      exact ⟨event, EventStore.mem_stream.mpr ⟨inStore, ofType, ofId⟩, last,
        published, version, contentHash⟩
  | recorded data stored acknowledged version contentHash =>
      obtain ⟨position, answered⟩ := acknowledged
      obtain ⟨inStore, written, isOf⟩ := consistent.recorded thread member _ _
        (within _ answered)
      have published : stored.published = some
          { version := stored.sequenceNumber
            contentHash := data.contentHash
            correlationId := data.correlationId
            publishedAt := data.publishedAt } := by
        rw [StoredEvent.published, written]
        rfl
      exact ⟨stored, EventStore.mem_stream.mpr
        ⟨inStore, EventStore.isOf_iff.mp isOf⟩, _, published, version,
        contentHash⟩

/-- A version stands for one content. -/
theorem PublishedAs.unique {deps : SnapshotPublisherDeps} {store : EventStore}
    (injective : Function.Injective deps.contentHash)
    (sequenced : store.Sequenced) {providerId : Id} {version : Nat}
    {first second : SnapshotContent}
    (one : PublishedAs deps store providerId version first)
    (two : PublishedAs deps store providerId version second) :
    first = second := by
  obtain ⟨event, member, last, published, atVersion, hashFirst⟩ := one
  obtain ⟨other, memberOther, lastOther, publishedOther, atVersionOther,
    hashSecond⟩ := two
  have numbered : ((store.ofProvider providerId).map
      (·.sequenceNumber)).Nodup := by
    unfold EventStore.ofProvider
    rw [sequenced.sequence]
    exact List.nodup_range'
  have samePosition : event.sequenceNumber = other.sequenceNumber := by
    rw [published_version published, published_version publishedOther,
      atVersion, atVersionOther]
  have same : event = other :=
    List.inj_on_of_nodup_map numbered member memberOther samePosition
  rw [same, publishedOther] at published
  cases published
  exact injective (hashFirst.symm.trans hashSecond)

/-! ## Consistency of versions -/

/-- The publications of every provider, and what publish calls have returned
of them. -/
structure VersionsConsistent (pool : SnapshotPool) : Prop where
  differ : ∀ providerId,
    (publications (pool.state.store.ofProvider providerId)).IsChain
      fun earlier later => earlier.contentHash ≠ later.contentHash
  increase : ∀ providerId,
    (publications (pool.state.store.ofProvider providerId)).Pairwise
      fun earlier later => earlier.version < later.version
  last : ∀ providerId,
    (providerOf (pool.state.store.ofProvider providerId)).lastPublished =
      (publications (pool.state.store.ofProvider providerId)).getLast?
  results : ∀ left right number now numberOther nowOther accountId account
      providerId causationId cause absorbed others first second,
    pool.returned left = some (⟨number, now, .publish accountId providerId
      causationId absorbed⟩, .published (some first)) →
    pool.returned right = some (⟨numberOther, nowOther, .publish account
      providerId cause others⟩, .published (some second)) →
    first.snapshot.version = second.snapshot.version →
    first.snapshot.providerName = second.snapshot.providerName ∧
      first.snapshot.groups = second.snapshot.groups

theorem publications_increase {store : EventStore}
    (sequenced : store.Sequenced) (providerId : Id) :
    (publications (store.ofProvider providerId)).Pairwise
      fun earlier later => earlier.version < later.version := by
  have numbered : (store.ofProvider providerId).Pairwise
      fun earlier later => earlier.sequenceNumber < later.sequenceNumber := by
    apply List.pairwise_map.mp
    unfold EventStore.ofProvider
    rw [sequenced.sequence]
    exact List.pairwise_lt_range' 1
  apply List.Pairwise.filterMap StoredEvent.published ?_ numbered
  intro earlier later before first isFirst second isSecond
  rw [← published_version isFirst, ← published_version isSecond]
  exact before

theorem Consistent.certified {pool : SnapshotPool}
    (consistent : Consistent pool)
    (traced : pool.TracedTo (fun _ _ _ => True) (CertifiedAnswer deps))
    {index number now accountId providerId : Nat} {causationId : Option Id}
    {absorbed : List Id} {result : PublishResult}
    (returned : pool.returned index = some (⟨number, now, .publish accountId
      providerId causationId absorbed⟩, .published (some result))) :
    PublishedAs deps.providers.server.publisher pool.state.store providerId
      result.snapshot.version result.snapshot.toSnapshotContent := by
  obtain ⟨history, member⟩ := Pool.mem_of_returned returned
  obtain ⟨since, within, certified⟩ :=
    traced _ member accountId providerId causationId absorbed result rfl rfl
  exact consistent.publishedAs member within certified

/-- Published versions are consistent.  Publish calls run among all commands
of the backend, in any order and with any failures, but no account is deleted:
successive publications of a provider differ in content, their versions
increase, the last one is what the provider's state says, and publish calls
that return the same version return the same content. -/
theorem published_versions_consistent {initial : World}
    (injective : Function.Injective
      deps.providers.server.publisher.contentHash)
    (sequenced : initial.store.Sequenced)
    (alternating : ∀ providerId, Alternating initial.store providerId)
    (idle : ∀ key, initial.mutexes.waiting key = [])
    (run : Pool.Run (snapshotService deps) NoDeletion ⟨initial, []⟩ pool) :
    VersionsConsistent pool := by
  have consistent := Consistent.run
    (.initial sequenced alternating idle) run
  have traced : pool.TracedTo (fun _ _ _ => True) (CertifiedAnswer deps) :=
    run.tracedTo fun request => request.certified
  refine ⟨consistent.alternating,
    publications_increase consistent.sound.sequenced,
    fun providerId => lastPublished_providerOf _, ?_⟩
  intro left right number now numberOther nowOther accountId account providerId
    causationId cause absorbed others first second returned returnedOther
    sameVersion
  have one := consistent.certified traced returned
  have two := consistent.certified traced returnedOther
  rw [← sameVersion] at two
  have same := one.unique injective consistent.sound.sequenced two
  exact ⟨congrArg SnapshotContent.providerName same,
    congrArg SnapshotContent.groups same⟩

/-! ## A small deployment -/

/-- A text can be read off the beginning of any longer one. -/
def SelfDelimiting {α : Type} (encode : α → List Char) : Prop :=
  ∀ first second rest others,
    encode first ++ rest = encode second ++ others →
    first = second ∧ rest = others

/-- Each item after a comma, and a bracket at the end. -/
def listText {α : Type} (encode : α → List Char) : List α → List Char
  | [] => [']']
  | item :: items => ',' :: (encode item ++ listText encode items)

theorem SelfDelimiting.list {α : Type} {encode : α → List Char}
    (delimited : SelfDelimiting encode) :
    SelfDelimiting (listText encode) := by
  intro first
  induction first with
  | nil =>
      intro second rest others same
      cases second with
      | nil =>
          cases same
          exact ⟨rfl, rfl⟩
      | cons item items => cases same
  | cons head tail ih =>
      intro second rest others same
      cases second with
      | nil => cases same
      | cons item items =>
          simp only [listText, List.cons_append, List.cons.injEq, true_and,
            List.append_assoc] at same
          obtain ⟨rfl, remaining⟩ := delimited _ _ _ _ same
          obtain ⟨rfl, rfl⟩ := ih _ _ _ remaining
          exact ⟨rfl, rfl⟩

def stringText (text : String) : List Char :=
  listText (fun char => [char]) text.toList

def entryText (entry : SnapshotEntry) : List Char :=
  stringText entry.deviceName ++ listText stringText entry.ips

def groupText (group : SnapshotGroup) : List Char :=
  stringText group.key ++ listText entryText group.entries

/-- A text of the content, for a deployment without a hash function. -/
def contentText (content : SnapshotContent) : String :=
  String.ofList
    (stringText content.providerName ++ listText groupText content.groups)

theorem stringText_delimited : SelfDelimiting stringText := by
  have char : SelfDelimiting fun char : Char => [char] := by
    intro first second rest others same
    cases same
    exact ⟨rfl, rfl⟩
  intro first second rest others same
  obtain ⟨chars, remaining⟩ := char.list _ _ _ _ same
  exact ⟨String.toList_injective chars, remaining⟩

theorem entryText_delimited : SelfDelimiting entryText := by
  intro first second rest others same
  simp only [entryText, List.append_assoc] at same
  obtain ⟨name, remaining⟩ := stringText_delimited _ _ _ _ same
  obtain ⟨ips, last⟩ := stringText_delimited.list _ _ _ _ remaining
  cases first
  cases second
  cases name
  cases ips
  exact ⟨rfl, last⟩

theorem groupText_delimited : SelfDelimiting groupText := by
  intro first second rest others same
  simp only [groupText, List.append_assoc] at same
  obtain ⟨key, remaining⟩ := stringText_delimited _ _ _ _ same
  obtain ⟨entries, last⟩ := entryText_delimited.list _ _ _ _ remaining
  cases first
  cases second
  cases key
  cases entries
  exact ⟨rfl, last⟩

theorem contentText_injective : Function.Injective contentText := by
  intro first second same
  have chars := congrArg String.toList same
  simp only [contentText, String.toList_ofList] at chars
  obtain ⟨name, remaining⟩ := stringText_delimited _ _ _ _ chars
  have ended := congrArg (· ++ ([] : List Char)) remaining
  obtain ⟨groups, -⟩ := groupText_delimited.list _ _ _ _ ended
  cases first
  cases second
  cases name
  cases groups
  rfl

def textDeps : BackendDeps :=
  { exampleBackendDeps with
    providers.server.publisher.contentHash := contentText }

/-- Let the program with this index make so many calls. -/
def snapshotAdvances (index count : Nat) : List (Move SnapshotRequest Choice) :=
  List.replicate count (.advance index .ok)

/-- A provider is created; then two publish calls overlap. -/
def overlappingPublishes : List (Move SnapshotRequest Choice) :=
  [.start ⟨0, 0, .backend (.provider (.post 1 (some "home") none))⟩] ++
    snapshotAdvances 0 14 ++
    [.start ⟨1, 0, .publish 1 0 none []⟩,
      .start ⟨2, 0, .publish 1 0 none []⟩] ++
    snapshotAdvances 1 5 ++ snapshotAdvances 2 1 ++ snapshotAdvances 1 6 ++
    snapshotAdvances 2 4

/-- The call that waited for its turn finds the version of the other one. -/
theorem published_versions_consistent_overlapping :
    ∃ pool : SnapshotPool,
      (pool.returned 1).map (·.2) = some (.published (some
        { snapshot := ⟨⟨"home", []⟩, 3, 3, 0⟩
          changed := true })) ∧
      (pool.returned 2).map (·.2) = some (.published (some
        { snapshot := ⟨⟨"home", []⟩, 3, 3, 0⟩
          changed := false })) ∧
      VersionsConsistent pool := by
  have ends : ((⟨{}, []⟩ : SnapshotPool).follow (snapshotService textDeps)
      deletesNothing overlappingPublishes).map (fun pool =>
        ((pool.returned 1).map (·.2), (pool.returned 2).map (·.2))) =
      some
        (some (.published (some
          { snapshot := ⟨⟨"home", []⟩, 3, 3, 0⟩
            changed := true })),
        some (.published (some
          { snapshot := ⟨⟨"home", []⟩, 3, 3, 0⟩
            changed := false }))) := by
    decide +kernel
  obtain ⟨pool, followed, returned⟩ := Option.map_eq_some_iff.mp ends
  have run := Pool.run_of_follow (fun _ _ passed => passed) followed
  have alternating : ∀ providerId, Alternating ({} : EventStore) providerId :=
    fun _ => List.IsChain.nil
  refine ⟨pool, congrArg Prod.fst returned, congrArg Prod.snd returned, ?_⟩
  exact published_versions_consistent contentText_injective
    EventStore.empty_sequenced alternating (fun _ => rfl) run

end FluxIP
