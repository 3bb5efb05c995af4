import FluxIP.Guarantees.OptimisticConcurrency

/-!
# Disabled or rotated means cut off

A report or a change enters a client's stream only at a position where the
client is enabled, and a report only from a trigger request whose password
verifies against the credential in force there.
-/

namespace FluxIP

open Async

/-- The events of its stream before an event. -/
def EventStore.before (store : EventStore) (event : StoredEvent) :
    List StoredEvent :=
  (store.stream event.aggregateType event.aggregateId).take
    (event.sequenceNumber - 1)

/-- The client as it was where the event was appended. -/
def clientAt (store : EventStore) (event : StoredEvent) : IpClientState :=
  ipClientOf (store.before event)

/-- The program has made the append that inserted this event. -/
def Appended (thread : Thread backend Err BackendRequest (Option Nat))
    (event : StoredEvent) : Prop :=
  ∃ input answer, ⟨.store (.append input), answer⟩ ∈ thread.history ∧
    input.aggregateType = event.aggregateType ∧
    input.aggregateId = event.aggregateId ∧
    input.expectedSequenceNumber = event.sequenceNumber ∧
    input.data = event.data

/-- The trigger request of this thread names the client, and its password
verifies against the client's credential. -/
def Authenticated (credentials : Credentials)
    (thread : Thread backend Err BackendRequest (Option Nat))
    (ipClientId : Id) (client : IpClientState) : Prop :=
  ∃ request auth, thread.request.command = .nicUpdate request ∧
    request.credentials = some auth ∧ auth.username = ipClientId ∧
    ∃ credentialHash, client.credentialHash = some credentialHash ∧
      credentials.verifyCredential auth.password credentialHash = true

/-- Where the event stands, the client is enabled; a report was appended by a
trigger request that is authenticated there. -/
def Admitted (credentials : Credentials) (pool : BackendPool)
    (event : StoredEvent) : Prop :=
  match event.data with
  | .ipClient (.ipReportReceived _) =>
      (clientAt pool.state.store event).status = .enabled ∧
        ∃ thread ∈ pool.threads, Appended thread event ∧
          Authenticated credentials thread event.aggregateId
            (clientAt pool.state.store event)
  | .ipClient (.ipChanged _) =>
      (clientAt pool.state.store event).status = .enabled
  | _ => True

/-- Everything that came into being since `initial` was admitted. -/
def AllAdmitted (credentials : Credentials) (initial : World)
    (pool : BackendPool) : Prop :=
  ∀ event ∈ pool.state.store.events,
    event ∈ initial.store.events ∨ Admitted credentials pool event

variable {credentials : Credentials} {deps : BackendDeps}
variable {pool next : BackendPool} {event : StoredEvent} {initial : World}
variable {thread : Thread backend Err BackendRequest (Option Nat)}
variable {input : AppendEventInput}

theorem authorizes_spec {state : IpClientState} {password : String}
    (authorized : Trigger.authorizes credentials state password = true) :
    state.status = .enabled ∧
      ∃ credentialHash, state.credentialHash = some credentialHash ∧
        credentials.verifyCredential password credentialHash = true := by
  unfold Trigger.authorizes at authorized
  split at authorized
  · cases authorized
  · rename_i credentialHash present
    have verified := Bool.and_eq_true_iff.mp authorized
    refine ⟨of_decide_eq_true verified.2, credentialHash, ?_, verified.1⟩
    unfold truthy at present
    split at present
    · cases present
    · exact present

/-- What stands before an event does not change while streams only grow. -/
theorem before_grown {store after : EventStore}
    (sequenced : store.Sequenced) (grows : store.Extends after)
    (member : event ∈ store.events) :
    after.before event = store.before event := by
  have isPrefix := grows.stream_prefix event.aggregateType event.aggregateId
  have bound := (sequenced.sequenceNumber_le
    (EventStore.mem_stream.mpr ⟨member, rfl, rfl⟩)).2
  obtain ⟨rest, whole⟩ := isPrefix
  unfold EventStore.before
  rw [← whole, List.take_append_of_le_length]
  omega

/-- A program that goes on has made the appends it had made. -/
theorem Admitted.grown (admitted : Admitted credentials pool event)
    (sequenced : pool.state.store.Sequenced)
    (grows : pool.state.store.Extends next.state.store)
    (member : event ∈ pool.state.store.events)
    (persists : ∀ thread ∈ pool.threads, ∃ later ∈ next.threads,
      later.request = thread.request ∧ thread.history <+: later.history) :
    Admitted credentials next event := by
  have same : clientAt next.state.store event =
      clientAt pool.state.store event :=
    congrArg ipClientOf (before_grown sequenced grows member)
  unfold Admitted at *
  split at admitted
  · simp only [same]
    obtain ⟨enabled, thread, running, ⟨input, answer, made, ofInput⟩,
      authenticated⟩ := admitted
    obtain ⟨later, runningLater, sameRequest, longer⟩ :=
      persists thread running
    refine ⟨enabled, later, runningLater,
      ⟨input, answer, longer.subset made, ofInput⟩, ?_⟩
    unfold Authenticated at *
    rw [sameRequest]
    exact authenticated
  · simp only [same]
    exact admitted
  · trivial

/-- The programs of a pool go on: each is still there after a move, with what
it had awaited. -/
theorem threads_persist {move : Move BackendRequest Choice}
    (moved : pool.step (backendService deps) move = some next) :
    ∀ thread ∈ pool.threads, ∃ later ∈ next.threads,
      later.request = thread.request ∧ thread.history <+: later.history := by
  intro thread running
  cases move with
  | start request =>
      obtain ⟨-, -, rfl⟩ := Pool.step_start moved
      exact ⟨thread, List.mem_append_left _ running, rfl, List.prefix_rfl⟩
  | advance index choice =>
      obtain ⟨request, history, call, resume, answer, world, found, -, rfl⟩ :=
        Pool.step_advance moved
      obtain ⟨position, bound, atPosition⟩ := List.getElem_of_mem running
      by_cases same : index = position
      · subst same
        rw [List.getElem?_eq_getElem bound, atPosition] at found
        cases found
        refine ⟨_, List.mem_set bound _, rfl, ?_⟩
        exact List.prefix_append _ _
      · refine ⟨thread, ?_, rfl, List.prefix_rfl⟩
        have unmoved : (pool.threads.set index ⟨request,
            history ++ [⟨call, answer⟩], resume answer⟩)[position]? =
            some thread := by
          rw [List.getElem?_set_ne same, List.getElem?_eq_getElem bound,
            atPosition]
        exact List.mem_of_getElem? unmoved

/-- A new event is admitted by what its writer has seen. -/
theorem admitted_insert (sound : Sound pool)
    (running : thread ∈ pool.threads)
    (decided : Decides deps thread.request thread.history
      (.store (.append input)))
    {after : EventStore}
    (appended : pool.state.store.append input = (.ok event, after))
    (stored : next.state.store = after)
    (goesOn : ∃ later ∈ next.threads, later.request = thread.request ∧
      ∃ answer, ⟨.store (.append input), answer⟩ ∈ later.history) :
    Admitted deps.ipClients.credentials next event := by
  obtain ⟨-, whole, -, expected⟩ := sound.inserts running decided appended
  obtain ⟨-, guarded⟩ := decided.1 input rfl
  rw [whole] at guarded
  rcases EventStore.append_cases appended with
    ⟨inserted, answered, ofType, ofId, atPosition, -, ofData, -, -, table⟩ |
    ⟨conflict, -⟩
  · cases answered
    have here : event.isOf input.aggregateType input.aggregateId = true :=
      EventStore.isOf_iff.mpr ⟨ofType, ofId⟩
    have before : clientAt next.state.store event = ipClientOf
        (pool.state.store.stream input.aggregateType input.aggregateId) := by
      unfold clientAt EventStore.before
      rw [stored, table, ofType, ofId, EventStore.stream_append_event,
        if_pos here, atPosition, expected, Nat.add_sub_cancel,
        List.take_left]
    unfold Guarded at guarded
    unfold Admitted
    rw [ofData]
    split
    · rename_i data isReport
      simp only [isReport] at guarded
      obtain ⟨request, auth, isTrigger, presented, named, authorized⟩ :=
        guarded
      obtain ⟨enabled, verified⟩ := authorizes_spec authorized
      obtain ⟨later, runningLater, sameRequest, answer, made⟩ := goesOn
      rw [before]
      refine ⟨enabled, later, runningLater,
        ⟨input, answer, made, ofType.symm, ofId.symm, atPosition.symm,
          ofData.symm⟩, request, auth, ?_, presented, ?_, verified⟩
      · rw [sameRequest, isTrigger]
      · rw [named, ofId]
    · rename_i data isChange
      simp only [isChange] at guarded
      rw [before]
      exact guarded.2
    · trivial
  · cases conflict

theorem AllAdmitted.step {move : Move BackendRequest Choice}
    (all : AllAdmitted deps.ipClients.credentials initial pool)
    (sound : Sound pool) (traced : pool.Traced (Decides deps))
    (noDeletion : NoDeletion pool move)
    (moved : pool.step (backendService deps) move = some next) :
    AllAdmitted deps.ipClients.credentials initial next := by
  have persists := threads_persist moved
  cases move with
  | start request =>
      obtain ⟨-, -, rfl⟩ := Pool.step_start moved
      intro event member
      apply (all event member).imp_right
      intro admitted
      exact admitted.grown sound.sequenced (.refl _) member persists
  | advance index choice =>
      obtain ⟨request, history, call, resume, answer, world, found, result,
        rfl⟩ := Pool.step_advance moved
      have running := List.mem_of_getElem? found
      have kept : ∀ accountId, call ≠ .store (.deleteAccount accountId) := by
        rintro accountId rfl
        simp [NoDeletion, deletesNothing, found] at noDeletion
      obtain ⟨-, grows, -⟩ := sound.call running (traced _ running).1 kept result
      intro event member
      by_cases old : event ∈ pool.state.store.events
      · apply (all event old).imp_right
        intro admitted
        exact admitted.grown sound.sequenced grows old persists
      · right
        by_cases noAppend : ∀ input, call ≠ .store (.append input)
        · have same := store_frame result (keepsStore_of_ne noAppend kept)
          exact absurd (same ▸ member) old
        · simp only [not_forall, not_not] at noAppend
          obtain ⟨input, rfl⟩ := noAppend
          rcases append_step result with
            ⟨inserted, store, appended, rfl, -⟩ | ⟨rfl, -⟩
          · have isNew : event = inserted := by
              rcases EventStore.append_cases appended with
                ⟨_, answered, -, -, -, -, -, -, -, table⟩ | ⟨conflict, -⟩
              · cases answered
                simp only [table, List.mem_append, List.mem_singleton]
                  at member
                exact member.resolve_left old
              · cases conflict
            subst isNew
            have inBounds := (List.getElem?_eq_some_iff.mp found).1
            apply admitted_insert sound running (traced _ running).1 appended
              rfl
            refine ⟨_, List.mem_set inBounds _, rfl, answer, ?_⟩
            simp
          · exact absurd member old

/-- Disabled or rotated means cut off.  In every run of the whole backend, as
long as no account is deleted, every report and every change recorded since
its beginning stands at a position where the client is enabled, and every
report was appended by a trigger request whose password verifies against the
credential in force at that position. -/
theorem cut_off (start : initial.store.Sequenced)
    (run : Pool.Run (backendService deps) NoDeletion ⟨initial, []⟩ pool) :
    AllAdmitted deps.ipClients.credentials initial pool := by
  suffices all : Sound pool ∧ pool.Traced (Decides deps) ∧
      AllAdmitted deps.ipClients.credentials initial pool from all.2.2
  apply run.invariant
  · exact ⟨⟨start, fun _ member => by cases member⟩,
      fun _ member => (by cases member), fun _ => Or.inl⟩
  · intro pool move next all noDeletion moved
    obtain ⟨sound, traced, admitted⟩ := all
    exact ⟨sound.step rfl traced noDeletion moved,
      traced.step (fun request =>
        command_decides deps request.now request.command) moved,
      admitted.step sound traced noDeletion moved⟩

namespace CutOff

/-- The first identifier drawn is that of the client, the second its secret. -/
def registerRequest : BackendRequest :=
  ⟨1, 0, .ipClient 1 (.register none)⟩

def reportRequest : BackendRequest :=
  ⟨2, 0, .nicUpdate ⟨some ⟨0, "1"⟩, some "192.0.2.7", none, none⟩⟩

def settleRequest : BackendRequest :=
  ⟨3, 0, .settle ⟨0, 1⟩⟩

def backendAdvances (index count : Nat) : List (Move BackendRequest Choice) :=
  List.replicate count (.advance index .ok)

/-- A client is registered, reports an address, and the report settles. -/
def firstReport : List (Move BackendRequest Choice) :=
  .start provisionRequest :: backendAdvances 0 2 ++
    .start registerRequest :: backendAdvances 1 7 ++
    .start reportRequest :: backendAdvances 2 4 ++
    .start settleRequest :: backendAdvances 3 2

/-- The data of the client's events. -/
def clientEvents (pool : BackendPool) : List EventData :=
  (pool.state.store.stream .ipClient 0).map (·.data)

end CutOff

open CutOff in
theorem cut_off_first_report :
    ∃ pool : BackendPool,
      clientEvents pool =
        [.ipClient (.registered 0 1 "Unnamed device" "1" 0),
          .ipClient (.ipReportReceived ⟨some "192.0.2.7", none, 0⟩),
          .ipClient (.ipChanged ⟨none, some "192.0.2.7", none, none, 0⟩)] ∧
      AllAdmitted exampleBackendDeps.ipClients.credentials {} pool := by
  have ends : ((⟨{}, []⟩ : BackendPool).follow
      (backendService exampleBackendDeps) deletesNothing firstReport).map
        clientEvents = some
        [.ipClient (.registered 0 1 "Unnamed device" "1" 0),
          .ipClient (.ipReportReceived ⟨some "192.0.2.7", none, 0⟩),
          .ipClient (.ipChanged ⟨none, some "192.0.2.7", none, none, 0⟩)] := by
    decide +kernel
  obtain ⟨pool, followed, recorded⟩ := Option.map_eq_some_iff.mp ends
  have run := Pool.run_of_follow (fun _ _ passed => passed) followed
  exact ⟨pool, recorded, cut_off EventStore.empty_sequenced run⟩

end FluxIP
