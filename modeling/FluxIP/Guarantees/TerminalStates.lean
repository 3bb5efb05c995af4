import Mathlib.Data.List.Induction
import FluxIP.Guarantees.PublishedVersions
import FluxIP.Guarantees.CutOff

/-!
# Terminal states

What follows the end of a client or of an action in its stream.  The routes
decide on the state they have loaded; setting the notification preference of a
client and reconfiguring an action do not look whether that state is terminal.
-/

namespace FluxIP

open Async

/-! ## What may follow an end -/

def EventData.decommissions : EventData → Bool
  | .ipClient (.decommissioned _) => true
  | _ => false

def EventData.detaches : EventData → Bool
  | .action (.detached _) => true
  | _ => false

/-- The event enables, disables or reconfigures an action. -/
def EventData.revives : EventData → Bool
  | .action (.enabled _) => true
  | .action (.disabled _) => true
  | .action (.reconfigured _) => true
  | _ => false

def EventData.appliesRule : EventData → Bool
  | .action (.firewallRuleApplied _) => true
  | _ => false

/-- Nothing follows the end of a client. -/
def ClientEnds (events : List StoredEvent) : Prop :=
  events.Pairwise fun earlier _ => earlier.data.decommissions = false

/-- Nothing revives an action after its end. -/
def ActionEnds (events : List StoredEvent) : Prop :=
  events.Pairwise fun earlier later =>
    earlier.data.detaches = true → later.data.revives = false

/-- All that follows the end of an action is an applied rule of an execution
that was under way. -/
def Winds (events : List StoredEvent) : Prop :=
  events.Pairwise fun earlier later =>
    earlier.data.detaches = true → later.data.appliesRule = true

/-- Terminal states are terminal in every stream of the table. -/
def EventStore.Terminal (store : EventStore) : Prop :=
  (∀ ipClientId, ClientEnds (store.stream .ipClient ipClientId)) ∧
    ∀ actionId, ActionEnds (store.stream .action actionId)

/-! ## The condition -/

/-- The request goes on although what it has loaded has ended. -/
def BackendCommand.overlooks (seen : List StoredEvent) :
    BackendCommand → Bool
  | .ipClient _ (.setNotificationPreference _ _) =>
      (ipClientOf seen).status = .decommissioned
  | .action _ (.reconfigure _ _) => (actionOf seen).status = .detached
  | _ => false

/-- An append is made by a request that does not overlook an end, while the
events it has loaded are still in the table. -/
def mindsTheEnd (pool : BackendPool) : Move BackendRequest Choice → Bool
  | .start _ => true
  | .advance index _ =>
      match pool.threads[index]? with
      | some ⟨request, history, .await (.store (.append input)) _⟩ =>
          let seen := request.command.basis (readsOf input.params history)
          !request.command.overlooks seen &&
            decide (seen <+: pool.state.store.readStream input.params)
      | _ => true

def MindsTheEnd (pool : BackendPool) (move : Move BackendRequest Choice) :
    Prop :=
  mindsTheEnd pool move = true

/-! ## What the state tells of the end -/

variable {events seen : List StoredEvent} {event : StoredEvent}

/-- A client that has ended is seen to have ended. -/
theorem ClientEnds.decommissioned (ends : ClientEnds events)
    (member : event ∈ events) (last : event.data.decommissions = true) :
    (ipClientOf events).status = .decommissioned := by
  induction events using List.reverseRecOn with
  | nil => cases member
  | append_singleton earlier final _ =>
      rcases List.mem_append.mp member with before | same
      · have goesOn := (List.pairwise_append.mp ends).2.2 event before final
          (List.mem_singleton_self _)
        rw [last] at goesOn
        cases goesOn
      · rw [List.mem_singleton] at same
        subst same
        unfold ipClientOf
        rw [List.foldl_append]
        unfold EventData.decommissions at last
        split at last
        · rename_i decommissionedAt isEnd
          simp only [List.foldl_cons, List.foldl_nil, ipClientReducer, isEnd]
        · cases last

theorem actionReducer_appliesRule (state : ActionState)
    (applies : event.data.appliesRule = true) :
    (actionReducer state event).status = state.status := by
  unfold EventData.appliesRule at applies
  split at applies
  · rename_i data isRule
    simp only [actionReducer, isRule]
  · cases applies

theorem actionReducer_detaches (state : ActionState)
    (detaches : event.data.detaches = true) :
    (actionReducer state event).status = .detached := by
  unfold EventData.detaches at detaches
  split at detaches
  · rename_i detachedAt isEnd
    simp only [actionReducer, isEnd]
  · cases detaches

/-- An action that has ended is seen to have ended: an applied rule leaves its
status alone. -/
theorem Winds.detached (winds : Winds events) (member : event ∈ events)
    (last : event.data.detaches = true) :
    (actionOf events).status = .detached := by
  induction events using List.reverseRecOn with
  | nil => cases member
  | append_singleton earlier final ih =>
      obtain ⟨windsBefore, -, across⟩ := List.pairwise_append.mp winds
      have folds : actionOf (earlier ++ [final]) =
          actionReducer (actionOf earlier) final := by
        unfold actionOf
        rw [List.foldl_append]
        rfl
      rw [folds]
      rcases List.mem_append.mp member with before | same
      · have applies := across event before final
          (List.mem_singleton_self _) last
        rw [actionReducer_appliesRule _ applies]
        exact ih windsBefore before
      · rw [List.mem_singleton] at same
        subst same
        exact actionReducer_detaches _ last

theorem Winds.ends (winds : Winds events) : ActionEnds events := by
  apply List.Pairwise.imp _ winds
  intro earlier later follows detaches
  have applies := follows detaches
  unfold EventData.appliesRule at applies
  unfold EventData.revives
  split <;> simp_all

/-! ## What is appended after an end -/

variable {credentials : Credentials} {now : Timestamp}
variable {command : BackendCommand} {input : AppendEventInput}

theorem typed_of_ofAccount (kind : input.ofAccount = true) :
    input.aggregateType ≠ .ipClient ∧ input.aggregateType ≠ .action := by
  unfold AppendEventInput.ofAccount AppendEventInput.typed at kind
  split at kind <;> simp_all [EventData.aggregateType]

theorem typed_of_ofProvider (kind : input.ofProvider = true) :
    input.aggregateType ≠ .ipClient ∧ input.aggregateType ≠ .action := by
  unfold AppendEventInput.ofProvider AppendEventInput.typed at kind
  split at kind <;> simp_all [EventData.aggregateType]

theorem typed_of_ofExecution (kind : input.ofExecution = true) :
    input.aggregateType ≠ .ipClient ∧
      (input.aggregateType = .action → input.data.appliesRule = true) := by
  unfold AppendEventInput.ofExecution AppendEventInput.typed at kind
  split at kind <;> simp_all [EventData.aggregateType, EventData.appliesRule]

/-- What is appended to the stream of a client that has not been overlooked to
have ended finds it alive, or is its registration. -/
theorem Appends.clientAlive
    (appends : Appends credentials now command input seen)
    (ofClient : input.aggregateType = .ipClient)
    (atEnd : input.expectedSequenceNumber = seen.length + 1)
    (minds : command.overlooks seen = false) :
    seen = [] ∨ (ipClientOf seen).status ≠ .decommissioned := by
  cases appends with
  | account kind => exact absurd ofClient (typed_of_ofAccount kind).1
  | register =>
      apply Or.inl
      apply List.length_eq_zero_iff.mp
      change 0 + 1 = _ at atEnd
      omega
  | clientStatus change alive => exact Or.inr alive
  | rotate alive => exact Or.inr alive
  | preference => exact Or.inr (of_decide_eq_false minds)
  | report presented authorized =>
      apply Or.inr
      intro ended
      unfold Trigger.authorizes at authorized
      split at authorized
      · cases authorized
      · simp [ended] at authorized
  | settle confirmed =>
      apply Or.inr
      intro ended
      unfold LoadAggregateResult.confirmedChange at confirmed
      split at confirmed
      · rename_i enabled
        exact absurd (enabled.symm.trans ended) (by decide)
      · cases confirmed
  | attach => cases ofClient
  | reconfigure => cases ofClient
  | actionStatus change alive => cases ofClient
  | execute kind => exact absurd ofClient (typed_of_ofExecution kind).1
  | provider kind => exact absurd ofClient (typed_of_ofProvider kind).1

/-- The same for actions, to whose streams executions add what they apply. -/
theorem Appends.actionAlive
    (appends : Appends credentials now command input seen)
    (ofAction : input.aggregateType = .action)
    (atEnd : input.expectedSequenceNumber = seen.length + 1)
    (minds : command.overlooks seen = false) :
    seen = [] ∨ (actionOf seen).status ≠ .detached ∨
      input.data.appliesRule = true := by
  cases appends with
  | account kind => exact absurd ofAction (typed_of_ofAccount kind).2
  | register => cases ofAction
  | clientStatus change alive => cases ofAction
  | rotate alive => cases ofAction
  | preference => cases ofAction
  | report presented authorized => cases ofAction
  | settle confirmed => cases ofAction
  | attach =>
      apply Or.inl
      apply List.length_eq_zero_iff.mp
      change 0 + 1 = _ at atEnd
      omega
  | reconfigure => exact Or.inr (Or.inl (of_decide_eq_false minds))
  | actionStatus change alive => exact Or.inr (Or.inl alive)
  | execute kind =>
      exact Or.inr (Or.inr ((typed_of_ofExecution kind).2 ofAction))
  | provider kind => exact absurd ofAction (typed_of_ofProvider kind).2

/-! ## Every run -/

/-- What holds of the table in every state of a run that minds the ends. -/
structure Terminating (store : EventStore) : Prop where
  sequenced : store.Sequenced
  clients : ∀ ipClientId, ClientEnds (store.stream .ipClient ipClientId)
  actions : ∀ actionId, Winds (store.stream .action actionId)

namespace Terminating

variable {store after : EventStore}

theorem terminal (terminating : Terminating store) : store.Terminal :=
  ⟨terminating.clients, fun actionId => (terminating.actions actionId).ends⟩

theorem delete (terminating : Terminating store) (accountId : Id) :
    Terminating (store.deleteAccount accountId) := by
  have fewer (aggregateType : AggregateType) (aggregateId : Id) :
      ((store.deleteAccount accountId).stream aggregateType
        aggregateId).Sublist (store.stream aggregateType aggregateId) :=
    List.filter_sublist.filter _
  constructor
  · exact terminating.sequenced.deleteAccount accountId
  · intro ipClientId
    exact (terminating.clients ipClientId).sublist (fewer _ _)
  · intro actionId
    exact (terminating.actions actionId).sublist (fewer _ _)

/-- A command that minds the end of what it has loaded keeps to it. -/
theorem insert (terminating : Terminating store)
    (isPrefix : seen <+: store.readStream input.params)
    (follows : input.Follows seen)
    (appends : Appends credentials now command input seen)
    (minds : command.overlooks seen = false)
    (appended : store.append input = (.ok event, after)) :
    Terminating after := by
  obtain ⟨sequenced, whole, -, position⟩ :=
    terminating.sequenced.inserts isPrefix follows.1 follows.2 appended
  have atEnd : input.expectedSequenceNumber = seen.length + 1 := by
    rw [position, whole]
  rcases EventStore.append_cases appended with
    ⟨_, ⟨⟩, ofType, ofId, -, -, data, -, -, rfl⟩ | ⟨conflict, -⟩
  · refine ⟨sequenced, ?_, ?_⟩
    · intro ipClientId
      rw [EventStore.stream_append_event]
      by_cases here : event.isOf .ipClient ipClientId = true
      · obtain ⟨isClient, sameId⟩ := EventStore.isOf_iff.mp here
        rw [ofType] at isClient
        rw [ofId] at sameId
        rw [if_pos here]
        rw [isClient, sameId] at whole
        refine List.pairwise_append.mpr
          ⟨terminating.clients ipClientId, List.pairwise_singleton _ _, ?_⟩
        intro earlier member later _
        rcases appends.clientAlive isClient atEnd minds with none | alive
        · rw [← whole, none] at member
          cases member
        · apply Bool.eq_false_iff.mpr
          intro ended
          rw [whole] at alive
          exact alive
            ((terminating.clients ipClientId).decommissioned member ended)
      · rw [if_neg here, List.append_nil]
        exact terminating.clients ipClientId
    · intro actionId
      rw [EventStore.stream_append_event]
      by_cases here : event.isOf .action actionId = true
      · obtain ⟨isAction, sameId⟩ := EventStore.isOf_iff.mp here
        rw [ofType] at isAction
        rw [ofId] at sameId
        rw [if_pos here]
        rw [isAction, sameId] at whole
        refine List.pairwise_append.mpr
          ⟨terminating.actions actionId, List.pairwise_singleton _ _, ?_⟩
        intro earlier member later last ended
        rw [List.mem_singleton] at last
        rw [last, data]
        rcases appends.actionAlive isAction atEnd minds with
          none | alive | applies
        · rw [← whole, none] at member
          cases member
        · rw [whole] at alive
          exact absurd ((terminating.actions actionId).detached member ended)
            alive
        · exact applies
      · rw [if_neg here, List.append_nil]
        exact terminating.actions actionId
  · cases conflict

end Terminating

variable {deps : BackendDeps} {pool next : BackendPool}

/-- What each command is allowed to append. -/
abbrev AppendsAllowed (deps : BackendDeps) (request : BackendRequest) :
    BackendHistory → Call → Prop :=
  DecidedBy (Appends deps.ipClients.credentials request.now request.command)
    request.command

theorem MindsTheEnd.append {index : Nat} {choice : Choice}
    {request : BackendRequest} {history : BackendHistory}
    {resume : Except Err StoredEvent → Backend (Option Nat)}
    (minds : MindsTheEnd pool (.advance index choice))
    (found : pool.threads[index]? =
      some ⟨request, history, .await (.store (.append input)) resume⟩) :
    request.command.overlooks
        (request.command.basis (readsOf input.params history)) = false ∧
      request.command.basis (readsOf input.params history) <+:
        pool.state.store.readStream input.params := by
  unfold MindsTheEnd mindsTheEnd at minds
  simp only [found, Bool.and_eq_true, Bool.not_eq_true',
    decide_eq_true_eq] at minds
  exact minds

theorem Terminating.step {move : Move BackendRequest Choice}
    (terminating : Terminating pool.state.store)
    (traced : pool.Traced (AppendsAllowed deps))
    (minds : MindsTheEnd pool move)
    (moved : pool.step (backendService deps) move = some next) :
    Terminating next.state.store := by
  cases move with
  | start request =>
      obtain ⟨-, -, rfl⟩ := Pool.step_start moved
      exact terminating
  | advance index choice =>
      obtain ⟨request, history, call, resume, answer, world, found, result,
        rfl⟩ := Pool.step_advance moved
      by_cases deletes : ∃ accountId, call = .store (.deleteAccount accountId)
      · obtain ⟨accountId, rfl⟩ := deletes
        rcases deleteAccount_step result with deleted | same
        · change Terminating world.store
          rw [deleted]
          exact terminating.delete accountId
        · change Terminating world.store
          rw [same]
          exact terminating
      · rcases store_cases (fun accountId same => deletes ⟨accountId, same⟩)
          result with same | ⟨event, input, rfl, appended, -⟩
        · change Terminating world.store
          rw [same]
          exact terminating
        · have allowed : AppendsAllowed deps request history
              (.store (.append input)) :=
            (traced _ (List.mem_of_getElem? found)).1
          obtain ⟨follows, appends⟩ := allowed.1 input rfl
          obtain ⟨notOverlooked, isPrefix⟩ := minds.append found
          exact terminating.insert isPrefix follows appends notOverlooked
            appended

/-- Terminal states are terminal.  In every state of every run of the whole
backend from an empty table in which no append is made by a request that
overlooks the end of what it has loaded, or whose account was closed since it
loaded it: no event follows a decommissioned event in the stream of a client,
and none that revives the action follows a detached event. -/
theorem terminal_states_are_terminal {initial : World}
    (start : initial.store.events = [])
    (run : Pool.Run (backendService deps) MindsTheEnd ⟨initial, []⟩ pool) :
    pool.state.store.Terminal := by
  suffices both : Terminating pool.state.store ∧
      pool.Traced (AppendsAllowed deps) from both.1.terminal
  apply run.invariant
  · have nothing (aggregateType : AggregateType) (aggregateId : Id) :
        initial.store.stream aggregateType aggregateId = [] := by
      unfold EventStore.stream
      rw [start]
      rfl
    refine ⟨⟨?_, ?_, ?_⟩, fun _ member => by cases member⟩
    · constructor
      · intro aggregateType aggregateId
        rw [nothing]
        rfl
      · intro first member
        rw [start] at member
        cases member
      · intro event member
        rw [start] at member
        cases member
      · rw [start]
        exact List.nodup_nil
    · intro ipClientId
      rw [nothing]
      exact List.Pairwise.nil
    · intro actionId
      rw [nothing]
      exact List.Pairwise.nil
  · intro pool move next both minds moved
    refine ⟨both.1.step both.2 minds moved, both.2.step ?_ moved⟩
    exact fun request => command_appends deps request.now request.command

namespace TerminalStates

open CutOff

def disableRequest : BackendRequest :=
  ⟨2, 0, .ipClient 1 (.disable 0)⟩

def decommissionRequest : BackendRequest :=
  ⟨3, 0, .ipClient 1 (.decommission 0)⟩

def preferenceRequest : BackendRequest :=
  ⟨4, 0, .ipClient 1 (.setNotificationPreference 0 (some .all))⟩

/-- A client is registered, disabled and decommissioned. -/
def lifeOfAClient : List (Move BackendRequest Choice) :=
  .start provisionRequest :: backendAdvances 0 2 ++
    .start registerRequest :: backendAdvances 1 7 ++
    .start disableRequest :: backendAdvances 2 2 ++
    .start decommissionRequest :: backendAdvances 3 2

/-- Then its owner asks to be notified. -/
def afterlifeOfAClient : List (Move BackendRequest Choice) :=
  lifeOfAClient ++ .start preferenceRequest :: backendAdvances 4 2

end TerminalStates

open CutOff TerminalStates in
theorem terminal_states_are_terminal_life :
    ∃ pool : BackendPool,
      clientEvents pool =
        [.ipClient (.registered 0 1 "Unnamed device" "1" 0),
          .ipClient (.disabled 0), .ipClient (.decommissioned 0)] ∧
      pool.state.store.Terminal := by
  have ends : ((⟨{}, []⟩ : BackendPool).follow
      (backendService exampleBackendDeps) mindsTheEnd lifeOfAClient).map
        clientEvents = some
        [.ipClient (.registered 0 1 "Unnamed device" "1" 0),
          .ipClient (.disabled 0), .ipClient (.decommissioned 0)] := by
    decide +kernel
  obtain ⟨pool, followed, recorded⟩ := Option.map_eq_some_iff.mp ends
  have run := Pool.run_of_follow (fun _ _ passed => passed) followed
  exact ⟨pool, recorded, terminal_states_are_terminal rfl run⟩

open CutOff TerminalStates in
/-- Setting the notification preference of a decommissioned client records an
event after its end. -/
theorem preference_outlives_the_client :
    ¬ ∀ (deps : BackendDeps) (initial : World) (pool : BackendPool),
      initial.store.events = [] →
      Pool.Run (backendService deps) (fun _ _ => True) ⟨initial, []⟩ pool →
      pool.state.store.Terminal := by
  intro claim
  have ends : ((⟨{}, []⟩ : BackendPool).follow
      (backendService exampleBackendDeps) (fun _ _ => true)
      afterlifeOfAClient).map clientEvents = some
        [.ipClient (.registered 0 1 "Unnamed device" "1" 0),
          .ipClient (.disabled 0), .ipClient (.decommissioned 0),
          .ipClient (.notificationPreferenceSet .all)] := by
    decide +kernel
  obtain ⟨pool, followed, recorded⟩ := Option.map_eq_some_iff.mp ends
  have run := Pool.run_of_follow (fun _ _ _ => trivial) followed
  have terminal := claim exampleBackendDeps {} pool rfl run
  have noneAfter : (clientEvents pool).Pairwise
      fun earlier _ => earlier.decommissions = false :=
    List.pairwise_map.mpr (terminal.1 0)
  rw [recorded] at noneAfter
  simp [EventData.decommissions] at noneAfter

end FluxIP
