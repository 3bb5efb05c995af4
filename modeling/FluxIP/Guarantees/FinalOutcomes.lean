import FluxIP.Adapters.ActionExecutionWorker
import FluxIP.Adapters.Steps
import FluxIP.Async.RelyGuarantee

/-!
# Outcomes of executions

Whether the outcome an execution stream shows can still change.  An execution
job is followed through all its attempts, with an exception possible at every
call and other parties acting in between.
-/

namespace FluxIP

open Async

/-- `started`, `succeeded` and `failed` tell how an execution goes. -/
def ActionExecutionEvent.isOutcome : ActionExecutionEvent → Bool
  | .notificationSent _ _ _ => false
  | _ => true

/-- After `succeeded`, or `failed` without retries left, an execution is
over. -/
def ActionExecutionEvent.isFinal : ActionExecutionEvent → Bool
  | .succeeded _ => true
  | .failed data => data.retriesExhausted
  | _ => false

def StoredEvent.isOutcome (event : StoredEvent) : Bool :=
  match event.data with
  | .actionExecution event => event.isOutcome
  | _ => false

def StoredEvent.isFinal (event : StoredEvent) : Bool :=
  match event.data with
  | .actionExecution event => event.isFinal
  | _ => false

/-- A final event after which an exception still leads to another attempt, or
to the catch block. -/
def ActionExecutionEvent.canReopen (attempts : Nat) :
    ActionExecutionEvent → Bool
  | .succeeded _ => true
  | .failed data => data.retriesExhausted && decide (data.attempt < attempts)
  | _ => false

/-- Calls that do not touch an execution stream and start no executor. -/
def Call.keepsExecution : Call → Bool
  | .store (.append input) => input.aggregateType ≠ .actionExecution
  | .store (.deleteAccount _) => false
  | .process (.invoke _) => false
  | _ => true

/-- Such calls that do not write the projection of executions either. -/
def Call.besideExecution : Call → Bool
  | .redis (.hset (.executions _ _) _ _) => false
  | call => call.keepsExecution

namespace FinalOutcomes

/-- No outcome follows a final event in the stream of the execution, and no
executor was started for it once there was one. -/
structure OutcomesFinal (executionId : Id) (world : World) : Prop where
  stream : (world.store.stream .actionExecution executionId).Pairwise
    fun earlier later => earlier.isFinal = true → later.isOutcome = false
  invocations : ∀ invocation ∈ world.invocations,
    invocation.executionId = executionId →
      ∀ event ∈ invocation.stream, event.isFinal = false

/-- What other parties leave alone: the stream of the execution, and the
executors started for it. -/
def Elsewhere (executionId : Id) (before after : World) : Prop :=
  after.store.stream .actionExecution executionId =
      before.store.stream .actionExecution executionId ∧
    after.invocations.filter (·.executionId = executionId) =
      before.invocations.filter (·.executionId = executionId)

/-- How an answered call changes the outcome that the projection does not show
yet. -/
def track (unshown : Option ActionExecutionEvent)
    (answered : Answered backend Err) : Option ActionExecutionEvent :=
  match answered with
  | ⟨.store (.append input), .ok _⟩ =>
      match input.aggregateType, input.data with
      | .actionExecution, .actionExecution event =>
          if event.isOutcome then some event else unshown
      | _, _ => unshown
  | ⟨.redis (.hset (.executions _ _) _ _), .ok _⟩ => none
  | _ => unshown

/-- The last outcome appended, as long as the projection was not written
after it. -/
def unshownOutcome (history : BackendHistory) : Option ActionExecutionEvent :=
  history.foldl track none

/-- No exception strikes where it could reopen the execution: a final event
that is stored is acknowledged, and the projection refresh that follows it
succeeds. -/
def Acknowledged (attempts : Nat) (history : BackendHistory) (_ : World)
    (call : backend.Call) (choice : Choice) : Prop :=
  match call with
  | .store (.append input) => ∀ event, input.data = .actionExecution event →
      event.canReopen attempts = true → ∀ message, choice.fate ≠ .lost message
  | .store (.readStream params) => params.aggregateType = .actionExecution →
      (unshownOutcome history).any (·.canReopen attempts) = true →
      choice.fate = .ok
  | .redis (.hset (.executions _ _) _ _) =>
      (unshownOutcome history).any (·.canReopen attempts) = true →
      choice.fate = .ok
  | _ => True

/-- A call that is answered is never a strike. -/
theorem acknowledged_of_ok {attempts : Nat} {history : BackendHistory}
    {world : World} {call : backend.Call} {choice : Choice}
    (answered : choice.fate = .ok) :
    Acknowledged attempts history world call choice := by
  unfold Acknowledged
  split
  · intro event _ _ message
    rw [answered]
    exact Fate.noConfusion
  · exact fun _ _ => answered
  · exact fun _ => answered
  · trivial

theorem Elsewhere.refl (executionId : Id) (world : World) :
    Elsewhere executionId world world := ⟨rfl, rfl⟩

theorem Elsewhere.trans {executionId : Id} {first second third : World}
    (earlier : Elsewhere executionId first second)
    (later : Elsewhere executionId second third) :
    Elsewhere executionId first third :=
  ⟨later.1.trans earlier.1, later.2.trans earlier.2⟩

def jobContract (executionId : Id) (attempts : Nat) :
    Contract backend Err Choice World where
  invariant := fun _ => True
  rely := Elsewhere executionId
  guarantee := fun _ _ => True
  allowed := Acknowledged attempts
  reflexive := Elsewhere.refl executionId
  transitive := fun _ _ _ => Elsewhere.trans

/-! ## Assertions -/

/-- No final event yet, and none when an executor was started. -/
structure Running (executionId : Id) (world : World) : Prop where
  stream : ∀ event ∈ world.store.stream .actionExecution executionId,
    event.isFinal = false
  invocations : ∀ invocation ∈ world.invocations,
    invocation.executionId = executionId →
      ∀ event ∈ invocation.stream, event.isFinal = false

/-- The outcome is final, and the projection does not show it yet. -/
structure Unshown (executionId : Id) (attempts : Nat)
    (history : BackendHistory) (world : World) : Prop where
  final : OutcomesFinal executionId world
  unshown : (unshownOutcome history).any (·.canReopen attempts) = true

variable {executionId : Id} {attempts : Nat} {before after : World}

theorem invocations_elsewhere
    (elsewhere : Elsewhere executionId before after)
    {property : Invocation → Prop}
    (holds : ∀ invocation ∈ before.invocations,
      invocation.executionId = executionId → property invocation) :
    ∀ invocation ∈ after.invocations,
      invocation.executionId = executionId → property invocation := by
  intro invocation member own
  have here : invocation ∈
      after.invocations.filter (·.executionId = executionId) :=
    List.mem_filter.mpr ⟨member, by simpa using own⟩
  rw [elsewhere.2] at here
  exact holds invocation (List.mem_filter.mp here).1 own

theorem Running.elsewhere (running : Running executionId before)
    (elsewhere : Elsewhere executionId before after) :
    Running executionId after := by
  refine ⟨?_, invocations_elsewhere elsewhere running.invocations⟩
  rw [elsewhere.1]
  exact running.stream

theorem OutcomesFinal.elsewhere (final : OutcomesFinal executionId before)
    (elsewhere : Elsewhere executionId before after) :
    OutcomesFinal executionId after := by
  refine ⟨?_, invocations_elsewhere elsewhere final.invocations⟩
  rw [elsewhere.1]
  exact final.stream

theorem Running.final (running : Running executionId before) :
    OutcomesFinal executionId before := by
  refine ⟨?_, running.invocations⟩
  refine List.pairwise_of_forall_mem_list ?_
  intro earlier member later _ isFinal
  rw [running.stream earlier member] at isFinal
  cases isFinal

/-! ## Steps -/

variable {call : Call} {choice : Choice} {answer : Except Err call.Answer}

theorem keepsExecution_of_beside (beside : call.besideExecution = true) :
    call.keepsExecution = true := by
  cases call with
  | redis call =>
      cases call with
      | hset key field row => cases key <;> rfl
      | _ => rfl
  | _ => exact beside

theorem elsewhere_of_keepsExecution
    (keeps : call.keepsExecution = true)
    (result : semantics call choice before = some (answer, after)) :
    Elsewhere executionId before after := by
  have sameInvocations : after.invocations = before.invocations := by
    refine invocations_frame result ?_
    cases call with
    | process call => cases call <;> first | rfl | cases keeps
    | _ => rfl
  refine ⟨?_, by rw [sameInvocations]⟩
  cases call with
  | store call =>
      cases call with
      | append input =>
          rcases append_step result with
            ⟨event, store, appended, rfl, -⟩ | ⟨rfl, -⟩
          · exact EventStore.append_stream_other appended fun same =>
              (of_decide_eq_true keeps) same.1
          · rfl
      | deleteAccount accountId => cases keeps
      | _ => rw [store_frame result rfl]
  | _ => rw [store_frame result rfl]

/-- A call beside the execution does not show its outcome. -/
theorem unshownOutcome_beside {history : BackendHistory}
    (beside : call.besideExecution = true) :
    unshownOutcome (history ++ [⟨call, answer⟩]) = unshownOutcome history := by
  have kept : ∀ unshown, track unshown ⟨call, answer⟩ = unshown := by
    intro unshown
    cases call with
    | store call =>
        cases call with
        | append input =>
            cases answer with
            | error error => rfl
            | ok event =>
                have other := of_decide_eq_true beside
                obtain ⟨aggregateType, aggregateId, accountId, position,
                  data⟩ := input
                cases aggregateType <;> first | rfl | exact absurd rfl other
        | _ => cases answer <;> rfl
    | redis call =>
        cases call with
        | hset key field row =>
            cases key with
            | executions accountId actionId => cases beside
            | _ => cases answer <;> rfl
        | _ => cases answer <;> rfl
    | _ => cases answer <;> rfl
  rw [unshownOutcome, List.foldl_append]
  exact kept _

/-- The outcome stays unshown across calls beside the execution. -/
theorem Unshown.beside {history : BackendHistory}
    (unshown : Unshown executionId attempts history before)
    (beside : call.besideExecution = true)
    (result : semantics call choice before = some (answer, after)) :
    Unshown executionId attempts (history ++ [⟨call, answer⟩]) after := by
  refine ⟨unshown.final.elsewhere
    (elsewhere_of_keepsExecution (keepsExecution_of_beside beside) result), ?_⟩
  rw [unshownOutcome_beside beside]
  exact unshown.unshown

/-! ## Specifications -/

variable {history : BackendHistory}

/-- An assertion about the execution's stream and executors survives programs
that do not touch them. -/
theorem keeps_spec {α : Type} {program : Backend α} {holds : World → Prop}
    (calls : program.Calls fun call => Call.keepsExecution call = true)
    (stable : ∀ before after, holds before →
      Elsewhere executionId before after → holds after)
    (here : holds before) :
    program.Ensures semantics (jobContract executionId attempts)
      (ending (fun _ => holds) (fun _ => holds) (fun _ => holds))
      history before :=
  Program.Ensures.frame calls
    (fun _ _ _ here step => stable _ _ here step.2)
    (fun _ _ _ _ _ _ keeps _ here _ result =>
      ⟨⟨trivial, trivial⟩,
        stable _ _ here (elsewhere_of_keepsExecution keeps result)⟩)
    here

theorem beside_unshown {α : Type} {program : Backend α}
    (calls : program.Calls fun call => Call.besideExecution call = true)
    (unshown : Unshown executionId attempts history before) :
    program.Ensures semantics (jobContract executionId attempts)
      (ending (Unshown executionId attempts) (Unshown executionId attempts)
        (Unshown executionId attempts)) history before :=
  Program.Ensures.frame calls
    (fun _ _ _ here step => ⟨here.final.elsewhere step.2, here.unshown⟩)
    (fun _ _ _ _ _ _ beside _ here _ result =>
      ⟨⟨trivial, trivial⟩, here.beside beside result⟩)
    unshown

theorem loadExecution_keeps (accountId : Id) :
    (loadExecution accountId executionId).Calls
      fun call => Call.keepsExecution call = true :=
  Program.Calls.bind ((Backend.calls_call _).mpr rfl) fun _ => trivial

/-- The world after an event was put into the stream of the execution. -/
structure Inserted (executionId : Id) (event : ActionExecutionEvent)
    (before after : World) : Prop where
  stream : ∃ stored : StoredEvent, stored.data = .actionExecution event ∧
    after.store.stream .actionExecution executionId =
      before.store.stream .actionExecution executionId ++ [stored]
  invocations : after.invocations = before.invocations

/-- An append to the execution inserts its event, or throws and inserts
nothing. -/
theorem append_execution_step {input : AppendEventInput}
    {answer : Except Err StoredEvent} {event : ActionExecutionEvent}
    (sameType : input.aggregateType = .actionExecution)
    (sameId : input.aggregateId = executionId)
    (data : input.data = .actionExecution event)
    (result : semantics (.store (.append input)) choice before =
      some (answer, after)) :
    (Inserted executionId event before after ∧
      ((∃ stored, answer = .ok stored) ∨
        (∃ message, choice.fate = .lost message) ∧
          ∃ error, answer = .error error)) ∨
    (Elsewhere executionId before after ∧ ∃ error, answer = .error error) := by
  rcases append_step result with
    ⟨stored, store, appended, rfl, ends⟩ | ⟨rfl, error, threw, -⟩
  · left
    constructor
    · rcases EventStore.append_cases appended with
        ⟨inserted, same, storedType, storedId, -, -, storedData, -, -, rfl⟩ |
        ⟨conflict, -⟩
      · cases same
        refine ⟨⟨stored, storedData.trans data, ?_⟩, rfl⟩
        have isOf : stored.isOf .actionExecution executionId = true := by
          rw [EventStore.isOf_iff, storedType, storedId, sameType, sameId]
          exact ⟨rfl, rfl⟩
        exact (EventStore.stream_append_event _ _).trans (by rw [if_pos isOf])
      · cases conflict
    · rcases ends with ⟨acknowledged, -⟩ | ⟨message, fate, lost⟩
      · exact Or.inl ⟨stored, acknowledged⟩
      · exact Or.inr ⟨⟨message, fate⟩, _, lost⟩
  · exact Or.inr ⟨⟨rfl, rfl⟩, error, threw⟩

/-- The specification of `appendExecutionEvent`: `holds` before the insertion,
`inserted` after it.  An exception after the insertion means that the answer
was lost. -/
theorem appendExecutionEvent_spec {event : ActionExecutionEvent}
    {accountId : Id} {holds : World → Prop} (inserted : World → Prop)
    (holdsStable : ∀ before after, holds before →
      Elsewhere executionId before after → holds after)
    (insertedStable : ∀ before after, inserted before →
      Elsewhere executionId before after → inserted after)
    (inserts : ∀ before after, holds before →
      Inserted executionId event before after → inserted after)
    (here : holds before) :
    (appendExecutionEvent accountId executionId event).Ensures semantics
      (jobContract executionId attempts)
      (ending
        (fun history world => inserted world ∧
          (event.isOutcome = true → unshownOutcome history = some event))
        (fun _ world => holds world ∨
          inserted world ∧ event.canReopen attempts = false)
        (fun _ world => holds world ∨ inserted world)) history before := by
  unfold appendExecutionEvent
  refine Program.Ensures.seq (fun _ _ => holds) trivial ?_ ?_
  · refine (keeps_spec ?_ holdsStable here).weaken (fun _ _ atEnd => atEnd)
      (fun _ _ atEnd => Or.inl atEnd) (fun _ _ atEnd => Or.inl atEnd)
    exact (loadExecution_keeps accountId).bind fun _ => trivial
  · intro position history world _ here
    refine Program.Ensures.seq (fun _ history world => inserted world ∧
      (event.isOutcome = true → unshownOutcome history = some event))
      trivial ?_ ?_
    · refine Backend.call_ensures (.store (.append _)) ?_
      intro waited step
      have here := holdsStable _ _ here step.2
      refine ⟨Or.inl here, ?_⟩
      intro choice answer after allowed result
      refine ⟨⟨trivial, trivial⟩, ?_⟩
      intro final later
      rcases append_execution_step rfl rfl rfl result with
        ⟨insertion, ⟨stored, rfl⟩ | ⟨⟨message, fate⟩, error, rfl⟩⟩ |
        ⟨elsewhere, error, rfl⟩
      · refine ⟨insertedStable _ _ (inserts _ _ here insertion) later.2, ?_⟩
        intro isOutcome
        rw [unshownOutcome, List.foldl_append]
        simp [track, isOutcome]
      · refine Or.inr ⟨insertedStable _ _ (inserts _ _ here insertion)
          later.2, ?_⟩
        rw [← Bool.not_eq_true]
        intro canReopen
        exact allowed event rfl canReopen message fate
      · exact Or.inl (holdsStable _ _ (holdsStable _ _ here elsewhere)
          later.2)
    · intro stored history world _ atEnd
      refine Program.Ensures.done ?_
      intro next step
      exact ⟨insertedStable _ _ atEnd.1 step.2, atEnd.2⟩

theorem Running.inserted {event : ActionExecutionEvent}
    (going : event.isFinal = false) (running : Running executionId before)
    (insertion : Inserted executionId event before after) :
    Running executionId after := by
  obtain ⟨stored, data, grown⟩ := insertion.stream
  refine ⟨?_, insertion.invocations ▸ running.invocations⟩
  rw [grown]
  intro other member
  rcases List.mem_append.mp member with old | new
  · exact running.stream other old
  · rw [List.mem_singleton] at new
    rw [new, StoredEvent.isFinal, data]
    exact going

/-- The first final event. -/
theorem Running.finished {event : ActionExecutionEvent}
    (running : Running executionId before)
    (insertion : Inserted executionId event before after) :
    OutcomesFinal executionId after := by
  obtain ⟨stored, data, grown⟩ := insertion.stream
  refine ⟨?_, insertion.invocations ▸ running.invocations⟩
  rw [grown]
  refine List.pairwise_append.mpr ⟨running.final.stream, by simp, ?_⟩
  intro earlier member later _ isFinal
  rw [running.stream earlier member] at isFinal
  cases isFinal

/-- A notification may follow. -/
theorem OutcomesFinal.notified {event : ActionExecutionEvent}
    (notification : event.isOutcome = false)
    (final : OutcomesFinal executionId before)
    (insertion : Inserted executionId event before after) :
    OutcomesFinal executionId after := by
  obtain ⟨stored, data, grown⟩ := insertion.stream
  refine ⟨?_, insertion.invocations ▸ final.invocations⟩
  rw [grown]
  refine List.pairwise_append.mpr ⟨final.stream, by simp, ?_⟩
  intro earlier member later new isFinal
  rw [List.mem_singleton] at new
  rw [new, StoredEvent.isOutcome, data]
  exact notification

theorem refreshExecutionProjection_keeps (accountId : Id) :
    (refreshExecutionProjection accountId executionId).Calls
      fun call => Call.keepsExecution call = true := by
  refine (loadExecution_keeps accountId).bind fun loaded => ?_
  unfold upsertExecutionProjection
  split
  · trivial
  · exact (Backend.calls_call _).mpr rfl

/-- The refresh after a final event that could be reopened does not throw. -/
theorem refreshExecutionProjection_unshown {accountId : Id}
    (unshown : Unshown executionId attempts history before) :
    (refreshExecutionProjection accountId executionId).Ensures semantics
      (jobContract executionId attempts)
      (ending (fun _ => OutcomesFinal executionId) (fun _ _ => False)
        (fun _ => OutcomesFinal executionId)) history before := by
  have stable : ∀ history before after,
      Unshown executionId attempts history before →
      (jobContract executionId attempts).Environment before after →
      Unshown executionId attempts history after :=
    fun _ _ _ here step => ⟨here.final.elsewhere step.2, here.unshown⟩
  unfold refreshExecutionProjection loadExecution loadAggregate
  refine Program.Ensures.seq (fun _ => Unshown executionId attempts) trivial ?_ ?_
  · refine Program.Ensures.seq (fun _ => Unshown executionId attempts) trivial ?_ ?_
    · refine Backend.call_ensures (.store (.readStream _)) ?_
      intro waited step
      have here := stable _ _ _ unshown step
      refine ⟨here.final, ?_⟩
      intro choice answer after allowed result
      refine ⟨⟨trivial, trivial⟩, ?_⟩
      intro final later
      have kept := here.beside rfl result
      obtain ⟨rfl, rfl | ⟨failed, -⟩⟩ := readStream_step result
      · exact stable _ _ _ kept later
      · exact absurd (allowed rfl here.unshown) failed
    · intro events history world _ here
      exact Program.Ensures.done fun next step => stable _ _ _ here step
  · intro loaded history world _ here
    unfold upsertExecutionProjection
    split
    · exact Program.Ensures.done fun next step => here.final.elsewhere step.2
    · refine Backend.call_ensures (.redis (.hset _ _ _)) ?_
      intro waited step
      have here := stable _ _ _ here step
      refine ⟨here.final, ?_⟩
      intro choice answer after allowed result
      refine ⟨⟨trivial, trivial⟩, ?_⟩
      intro final later
      have acknowledged := allowed here.unshown
      have settled := here.final.elsewhere
        (elsewhere_of_keepsExecution rfl result)
      rcases outside_cases (Option.some.inj result) with
        ⟨-, effect⟩ | ⟨message, fate, -⟩ | ⟨message, fate, -⟩
      · cases effect
        exact settled.elsewhere later.2
      · rw [acknowledged] at fate
        cases fate
      · rw [acknowledged] at fate
        cases fate

section Attempt

variable {deps : ActionExecutionWorkerDeps} {delivery : Delivery}

theorem loadAggregate_beside {State : Type} (params : ReadStreamParams)
    (initialState : State) (reducer : State → StoredEvent → State) :
    (loadAggregate params initialState reducer).Calls
      fun call => Call.besideExecution call = true :=
  Program.Calls.bind ((Backend.calls_call _).mpr rfl) fun _ => trivial

theorem keepsExecution_of_calls {α : Type} {program : Backend α}
    (calls : program.Calls fun call => Call.besideExecution call = true) :
    program.Calls fun call => Call.keepsExecution call = true :=
  calls.mono fun _ => keepsExecution_of_beside

theorem sendNotification_spec (outcome : ExecutionOutcome)
    (final : OutcomesFinal delivery.data.executionId before) :
    (sendNotification deps delivery outcome).Ensures semantics
      (jobContract delivery.data.executionId attempts)
      (ending (fun _ => OutcomesFinal delivery.data.executionId)
        (fun _ => OutcomesFinal delivery.data.executionId)
        (fun _ => OutcomesFinal delivery.data.executionId))
      history before := by
  have stays : ∀ {α : Type} {program : Backend α} {history before},
      (program.Calls fun call => Call.keepsExecution call = true) →
      OutcomesFinal delivery.data.executionId before →
      program.Ensures semantics
        (jobContract delivery.data.executionId attempts)
        (ending (fun _ => OutcomesFinal delivery.data.executionId)
          (fun _ => OutcomesFinal delivery.data.executionId)
          (fun _ => OutcomesFinal delivery.data.executionId))
        history before :=
    fun calls here => keeps_spec calls
      (fun _ _ => OutcomesFinal.elsewhere) here
  unfold sendNotification
  refine Program.Ensures.seq _ trivial
    (stays (keepsExecution_of_calls (loadAggregate_beside _ _ _)) final) ?_
  intro client history world _ final
  split
  · refine Program.Ensures.seq _ trivial
      (stays (keepsExecution_of_calls (loadAggregate_beside _ _ _)) final) ?_
    intro channel history world _ final
    dsimp only
    split
    · exact stays trivial final
    · split
      · refine Program.Ensures.seq _ trivial
          (stays ((Backend.calls_call _).mpr rfl) final) ?_
        intro _ history world _ final
        refine (appendExecutionEvent_spec _ (fun _ _ => OutcomesFinal.elsewhere)
          (fun _ _ => OutcomesFinal.elsewhere)
          (fun _ _ => OutcomesFinal.notified rfl) final).weaken ?_ ?_ ?_
        · exact fun _ _ atEnd => atEnd.1
        · exact fun _ _ atEnd => atEnd.elim id (·.1)
        · exact fun _ _ atEnd => atEnd.elim id id
      · exact stays trivial final
  · exact stays trivial final

/-- A notification never throws. -/
theorem maybeSendNotification_spec (outcome : ExecutionOutcome)
    (final : OutcomesFinal delivery.data.executionId before) :
    (maybeSendNotification deps delivery outcome).Ensures semantics
      (jobContract delivery.data.executionId attempts)
      (ending (fun _ => OutcomesFinal delivery.data.executionId)
        (fun _ _ => False)
        (fun _ => OutcomesFinal delivery.data.executionId))
      history before := by
  refine (sendNotification_spec outcome final).tryCatch trivial ?_ ?_ ?_
  · exact fun _ _ _ final _ step => final.elsewhere step.2
  · exact fun _ _ _ _ final =>
      Program.Ensures.done fun _ step => OutcomesFinal.elsewhere final step.2
  · exact fun _ _ atEnd => atEnd

theorem appendFirewallRuleApplied_beside (ipValues : IpValuesUsed) :
    (appendFirewallRuleApplied delivery ipValues).Calls
      fun call => Call.besideExecution call = true := by
  refine (loadAggregate_beside _ _ _).bind fun loaded => ?_
  exact Program.Calls.bind ((Backend.calls_call _).mpr rfl) fun _ => trivial

/-- The firewall bookkeeping never throws. -/
theorem bookkeeping_spec (ipValues : IpValuesUsed)
    (unshown : Unshown executionId attempts history before) :
    (appendFirewallRuleAppliedEventBestEffort delivery ipValues).Ensures
      semantics (jobContract executionId attempts)
      (ending (Unshown executionId attempts) (fun _ _ => False)
        (Unshown executionId attempts)) history before := by
  have stays : ∀ {α : Type} (value : α) {history : BackendHistory} {before},
      Unshown executionId attempts history before →
      (Program.done value : Backend α).Ensures semantics
        (jobContract executionId attempts)
        (ending (Unshown executionId attempts) (fun _ _ => False)
          (Unshown executionId attempts)) history before :=
    fun _ _ _ here => Program.Ensures.done fun _ step =>
      ⟨OutcomesFinal.elsewhere here.final step.2, here.unshown⟩
  have pass : ∀ {history before},
      Unshown executionId attempts history before →
      (appendFirewallRuleApplied delivery ipValues).attempt.Ensures semantics
        (jobContract executionId attempts)
        (ending (Unshown executionId attempts) (fun _ _ => False)
          (Unshown executionId attempts)) history before := by
    intro history before here
    refine (beside_unshown (appendFirewallRuleApplied_beside ipValues)
      here).attempt.mono ?_
    intro history outcome world atEnd
    rcases outcome with (_ | _) | _ | _ <;> exact atEnd
  unfold appendFirewallRuleAppliedEventBestEffort
  refine Program.Ensures.seq _ trivial (pass unshown) ?_
  intro first history world _ here
  split
  · refine Program.Ensures.seq _ trivial (pass here) ?_
    exact fun _ _ _ _ here => stays () here
  · exact stays () here

theorem resolveExecutorConfig_beside (accountId : Id) (config : ActionConfig)
    (firewallOwnedEntries : FamilyValues) (type : ActionType) :
    (resolveExecutorConfig deps accountId config firewallOwnedEntries
      type).Calls fun call => Call.besideExecution call = true := by
  have token : ∀ credentialId, (resolveApiToken accountId credentialId).Calls
      fun call => Call.besideExecution call = true := by
    intro credentialId
    refine (loadAggregate_beside _ _ _).bind fun credential => ?_
    split <;> trivial
  cases type with
  | hetznerCloudDnsUpdate =>
      simp only [resolveExecutorConfig]
      split
      · exact (token _).bind fun _ => trivial
      · trivial
  | hetznerCloudFirewallRuleUpdate =>
      simp only [resolveExecutorConfig]
      split
      · exact (token _).bind fun _ => trivial
      · trivial
  | traefikConfigDelivery => trivial

theorem keepsExecution_of_ofExecutor (call : Call)
    (external : call.ofExecutor = true) : call.keepsExecution = true := by
  cases call with
  | store call => cases external
  | process call => cases external
  | _ => rfl

/-- Starting an executor before there is a final event is recorded as such. -/
theorem Running.invoked {answer : Except Err Unit}
    (running : Running executionId before)
    (result : semantics (.process (.invoke executionId)) choice before =
      some (answer, after)) :
    Running executionId after := by
  have recorded : ∀ world, Running executionId world →
      Running executionId ((ProcessCall.invoke executionId).effect world) := by
    intro world running
    refine ⟨running.stream, ?_⟩
    intro invocation member own
    rcases List.mem_append.mp member with old | new
    · exact running.invocations invocation old own
    · rw [List.mem_singleton] at new
      rw [new]
      exact running.stream
  have elapsed : Running executionId (before.elapse choice.elapsed) :=
    running.elsewhere ⟨rfl, rfl⟩
  simp only [semantics] at result
  split at result <;> cases result
  · exact recorded _ elapsed
  · exact elapsed
  · exact recorded _ elapsed

/-- The `try` block: it throws only before the execution has succeeded. -/
theorem executeAndRecord_spec (type : ActionType) (config : ActionConfig)
    (action : ActionState) (executor : ActionExecutor type)
    (running : Running delivery.data.executionId before) :
    (executeAndRecord deps delivery type config action executor).Ensures
      semantics (jobContract delivery.data.executionId attempts)
      (ending (fun _ => OutcomesFinal delivery.data.executionId)
        (fun _ => Running delivery.data.executionId)
        (fun _ => OutcomesFinal delivery.data.executionId))
      history before := by
  have stays : ∀ {α : Type} {program : Backend α} {history before},
      (program.Calls fun call => Call.keepsExecution call = true) →
      Running delivery.data.executionId before →
      program.Ensures semantics
        (jobContract delivery.data.executionId attempts)
        (ending (fun _ => Running delivery.data.executionId)
          (fun _ => Running delivery.data.executionId)
          (fun _ => OutcomesFinal delivery.data.executionId))
        history before := by
    intro α program history before calls here
    exact (keeps_spec calls (fun _ _ => Running.elsewhere) here).weaken
      (fun _ _ => id) (fun _ _ => id) (fun _ _ => Running.final)
  unfold executeAndRecord
  refine Program.Ensures.seq _ trivial (stays
    (keepsExecution_of_calls (resolveExecutorConfig_beside _ _ _ _))
    running) ?_
  intro resolvedConfig history world _ running
  refine Program.Ensures.seq (fun _ _ => Running delivery.data.executionId)
    trivial ?_ ?_
  · refine Backend.call_ensures (.process (.invoke _)) ?_
    intro waited step
    have running := Running.elsewhere running step.2
    refine ⟨running.final, ?_⟩
    intro choice answer after _ result
    refine ⟨⟨trivial, trivial⟩, ?_⟩
    intro final later
    have running := (running.invoked result).elsewhere later.2
    cases answer <;> exact running
  intro _ history world _ running
  refine Program.Ensures.seq _ trivial (stays
    ((executor.external _ _).mono keepsExecution_of_ofExecutor) running) ?_
  intro executed history world _ running
  refine Program.Ensures.seq
    (fun _ => Unshown delivery.data.executionId attempts) trivial ?_ ?_
  · refine (appendExecutionEvent_spec _ (fun _ _ => Running.elsewhere)
      (fun _ _ => OutcomesFinal.elsewhere) (fun _ _ => Running.finished)
      running).weaken ?_ ?_ ?_
    · exact fun _ _ atEnd => ⟨atEnd.1, by rw [atEnd.2 rfl]; rfl⟩
    · rintro _ _ (running | ⟨-, impossible⟩)
      · exact running
      · cases impossible
    · rintro _ _ (running | final)
      · exact running.final
      · exact final
  intro _ history world _ unshown
  refine Program.Ensures.seq
    (fun _ => Unshown delivery.data.executionId attempts) trivial ?_ ?_
  · unfold Program.onlyIf
    split
    · exact (bookkeeping_spec _ unshown).weaken (fun _ _ => id)
        (fun _ _ => False.elim) (fun _ _ => Unshown.final)
    · exact Program.Ensures.done fun _ step =>
        ⟨unshown.final.elsewhere step.2, unshown.unshown⟩
  intro _ history world _ unshown
  refine Program.Ensures.seq _ trivial
    ((refreshExecutionProjection_unshown unshown).weaken (fun _ _ => id)
      (fun _ _ => False.elim) (fun _ _ => id)) ?_
  intro _ history world _ final
  exact (maybeSendNotification_spec _ final).weaken (fun _ _ => id)
    (fun _ _ => False.elim) (fun _ _ => id)

/-- What holds before the attempt of a number: as long as there is such an
attempt, no final event. -/
structure Between (executionId : Id) (attempts attempt : Nat)
    (world : World) : Prop where
  final : OutcomesFinal executionId world
  running : attempt ≤ attempts → Running executionId world

theorem Between.of_running {attempt : Nat}
    (running : Running executionId before) :
    Between executionId attempts attempt before :=
  ⟨running.final, fun _ => running⟩

theorem Between.elsewhere {attempt : Nat}
    (between : Between executionId attempts attempt before)
    (elsewhere : Elsewhere executionId before after) :
    Between executionId attempts attempt after :=
  ⟨between.final.elsewhere elsewhere,
    fun more => (between.running more).elsewhere elsewhere⟩

/-- How an attempt ends. -/
abbrev attemptEnding (delivery : Delivery) {α : Type} :
    BackendHistory → Outcome Err α → World → Prop :=
  ending (fun _ => OutcomesFinal delivery.data.executionId)
    (fun _ => Between delivery.data.executionId delivery.maxAttempts
      (delivery.attempt + 1))
    (fun _ => OutcomesFinal delivery.data.executionId)

abbrev attemptContract (delivery : Delivery) :
    Contract backend Err Choice World :=
  jobContract delivery.data.executionId delivery.maxAttempts

theorem final_keeps {α : Type} {program : Backend α}
    {history : BackendHistory}
    (calls : program.Calls fun call => Call.keepsExecution call = true)
    (exhausted : delivery.maxAttempts ≤ delivery.attempt)
    (final : OutcomesFinal delivery.data.executionId before) :
    program.Ensures semantics (attemptContract delivery)
      (attemptEnding delivery) history before :=
  (keeps_spec calls (fun _ _ => OutcomesFinal.elsewhere) final).weaken
    (fun _ _ => id) (fun _ _ final => ⟨final, fun more => by omega⟩)
    (fun _ _ => id)

/-- The specification of an append of a failure, in the catch block or for a
missing family. -/
theorem appendFailed_spec {data : ActionExecutionFailedData}
    {accountId : Id} {history : BackendHistory}
    (attempt : data.attempt = delivery.attempt)
    (running : Running delivery.data.executionId before) :
    (appendExecutionEvent accountId delivery.data.executionId
      (.failed data)).Ensures semantics (attemptContract delivery)
      (ending
        (fun history world =>
          (data.retriesExhausted = false →
            Running delivery.data.executionId world) ∧
          OutcomesFinal delivery.data.executionId world ∧
          unshownOutcome history = some (.failed data))
        (fun _ => Between delivery.data.executionId delivery.maxAttempts
          (delivery.attempt + 1))
        (fun _ => OutcomesFinal delivery.data.executionId))
      history before := by
  let inserted (world : World) : Prop :=
    (data.retriesExhausted = false →
      Running delivery.data.executionId world) ∧
    OutcomesFinal delivery.data.executionId world
  refine (appendExecutionEvent_spec inserted
    (fun _ _ => Running.elsewhere) ?_ ?_ running).weaken ?_ ?_ ?_
  · exact fun _ _ here elsewhere =>
      ⟨fun going => (here.1 going).elsewhere elsewhere,
        here.2.elsewhere elsewhere⟩
  · exact fun _ _ running insertion =>
      ⟨fun going => running.inserted
          (show ActionExecutionEvent.isFinal (.failed data) = false from going)
          insertion,
        running.finished insertion⟩
  · exact fun _ _ atEnd => ⟨atEnd.1.1, atEnd.1.2, atEnd.2 rfl⟩
  · rintro _ _ (running | ⟨⟨going, final⟩, closed⟩)
    · exact .of_running running
    · refine ⟨final, fun more => ?_⟩
      cases exhausted : data.retriesExhausted with
      | false => exact going exhausted
      | true =>
          simp only [ActionExecutionEvent.canReopen, exhausted, attempt,
            Bool.true_and, decide_eq_false_iff_not] at closed
          omega
  · rintro _ _ (running | ⟨-, final⟩)
    · exact running.final
    · exact final

/-- The `catch` block rethrows; an execution that is over by then has no
attempt left. -/
theorem recordFailure_spec {history : BackendHistory} (error : Err)
    (running : Running delivery.data.executionId before) :
    (recordFailure deps delivery error).Ensures semantics
      (attemptContract delivery)
      (ending (fun _ _ => False)
        (fun _ => Between delivery.data.executionId delivery.maxAttempts
          (delivery.attempt + 1))
        (fun _ => OutcomesFinal delivery.data.executionId))
      history before := by
  unfold recordFailure
  refine Program.Ensures.seq (fun _ _ =>
    Between delivery.data.executionId delivery.maxAttempts
      (delivery.attempt + 1)) trivial ?_ ?_
  · refine (appendFailed_spec rfl running).weaken ?_ (fun _ _ => id)
      (fun _ _ => id)
    rintro _ _ ⟨going, final, -⟩
    exact ⟨final, fun more => going (decide_eq_false (by omega))⟩
  intro _ history world _ between
  refine Program.Ensures.seq (fun _ _ =>
    Between delivery.data.executionId delivery.maxAttempts
      (delivery.attempt + 1)) trivial ?_ ?_
  · exact (keeps_spec (refreshExecutionProjection_keeps _)
      (fun _ _ => Between.elsewhere) between).weaken (fun _ _ => id)
      (fun _ _ => id) (fun _ _ => Between.final)
  intro _ history world _ between
  refine Program.Ensures.seq (fun _ _ =>
    Between delivery.data.executionId delivery.maxAttempts
      (delivery.attempt + 1)) trivial ?_ ?_
  · unfold Program.onlyIf
    split
    · rename_i isFinalAttempt
      refine (maybeSendNotification_spec _ between.final).weaken ?_
        (fun _ _ => False.elim) (fun _ _ => id)
      intro _ _ final
      exact ⟨final, fun more => absurd (of_decide_eq_true isFinalAttempt)
        (by omega)⟩
    · exact Program.Ensures.done fun _ step => between.elsewhere step.2
  intro _ history world _ between
  exact Program.Ensures.fail fun _ step => between.elsewhere step.2

theorem failMissingFamily_spec {history : BackendHistory}
    (running : Running delivery.data.executionId before) :
    (failMissingFamily deps delivery).Ensures semantics
      (attemptContract delivery) (attemptEnding delivery) history before := by
  unfold failMissingFamily
  refine Program.Ensures.seq _ trivial (appendFailed_spec rfl running) ?_
  rintro _ history world _ ⟨-, final, unshown⟩
  refine Program.Ensures.seq
    (fun _ _ => OutcomesFinal delivery.data.executionId) trivial ?_ ?_
  · by_cases more : delivery.attempt < delivery.maxAttempts
    · refine (refreshExecutionProjection_unshown ⟨final, ?_⟩).weaken
        (fun _ _ => id) (fun _ _ => False.elim) (fun _ _ => id)
      rw [unshown]
      simpa [ActionExecutionEvent.canReopen] using more
    · exact final_keeps (refreshExecutionProjection_keeps _) (by omega) final
  intro _ history world _ final
  exact (maybeSendNotification_spec _ final).weaken (fun _ _ => id)
    (fun _ _ => False.elim) (fun _ _ => id)

theorem executeAction_spec {history : BackendHistory} (action : ActionState)
    (running : Running delivery.data.executionId before) :
    (executeAction deps delivery action).Ensures semantics
      (attemptContract delivery) (attemptEnding delivery) history before := by
  unfold executeAction
  split
  · split
    · exact failMissingFamily_spec running
    · split
      · exact Program.Ensures.fail fun _ step =>
          .of_running (running.elsewhere step.2)
      · refine (executeAndRecord_spec _ _ _ _ running).tryCatch trivial
          ?_ ?_ ?_
        · exact fun _ _ _ final _ step => final.elsewhere step.2
        · exact fun _ error _ _ running =>
            (recordFailure_spec error running).weaken
              (fun _ _ => False.elim) (fun _ _ => id) (fun _ _ => id)
        · exact fun _ _ final => final
  · exact Program.Ensures.done fun _ step =>
      running.final.elsewhere step.2

/-- One attempt, begun before there is a final event. -/
theorem processExecution_spec (delivery : Delivery) {history : BackendHistory}
    (running : Running delivery.data.executionId before) :
    (processExecution deps delivery).Ensures semantics
      (attemptContract delivery) (attemptEnding delivery) history before := by
  unfold processExecution
  refine Program.Ensures.seq
    (fun _ _ => Running delivery.data.executionId) trivial ?_ ?_
  · refine (appendExecutionEvent_spec _ (fun _ _ => Running.elsewhere)
      (fun _ _ => Running.elsewhere) (fun _ _ => Running.inserted rfl)
      running).weaken ?_ ?_ ?_
    · exact fun _ _ atEnd => atEnd.1
    · rintro _ _ (running | ⟨running, -⟩) <;> exact .of_running running
    · rintro _ _ (running | running) <;> exact running.final
  intro _ history world _ running
  refine Program.Ensures.seq
    (fun _ _ => Running delivery.data.executionId) trivial ?_ ?_
  · exact (keeps_spec (keepsExecution_of_calls (loadAggregate_beside _ _ _))
      (fun _ _ => Running.elsewhere) running).weaken (fun _ _ => id)
      (fun _ _ => .of_running) (fun _ _ => Running.final)
  intro loaded history world _ running
  exact executeAction_spec _ running

end Attempt

/-- All attempts of a job, begun before there is a final event. -/
theorem executionJob_spec {deps : ActionExecutionWorkerDeps}
    {data : ActionExecutionJobData} {clock : Nat → AttemptClock}
    (running : Running data.executionId before) :
    (executionJob deps data attempts clock).Ensures semantics
      (jobContract data.executionId attempts)
      (ending (fun _ => OutcomesFinal data.executionId)
        (fun _ => OutcomesFinal data.executionId)
        (fun _ => OutcomesFinal data.executionId)) [] before := by
  refine Program.Ensures.retrying
    (fun attempt _ => Between data.executionId attempts attempt)
    ?_ ?_ ?_ (Nat.add_comm 1 attempts) trivial (.of_running running)
  · exact fun _ _ _ between step => between.elsewhere step.2
  · intro attempt history world more _ between
    refine (processExecution_spec ⟨data, attempt, attempts, clock attempt⟩
      (between.running (by omega))).mono ?_
    intro history outcome world atEnd
    cases outcome with
    | returned value =>
        exact fun _ step => OutcomesFinal.elsewhere atEnd step.2
    | threw error => exact atEnd
    | cut => exact atEnd
  · exact fun _ _ between => between.final

end FinalOutcomes

open FinalOutcomes in
/-- In every run in which no exception strikes between a final event and the
projection that shows it, what is final stays final. -/
theorem outcomes_are_final {deps : ActionExecutionWorkerDeps}
    {data : ActionExecutionJobData} {attempts : Nat}
    {clock : Nat → AttemptClock} {initial final : World}
    {history : BackendHistory} {outcome : Outcome Err Unit}
    (unwritten : initial.store.stream .actionExecution data.executionId = [])
    (unstarted : ∀ invocation ∈ initial.invocations,
      invocation.executionId ≠ data.executionId)
    (run : Execution semantics (Elsewhere data.executionId)
      (FinalOutcomes.Acknowledged attempts) [] (executionJob deps data attempts clock)
      initial history outcome final) :
    OutcomesFinal data.executionId final := by
  have running : Running data.executionId initial :=
    ⟨by simp [unwritten],
      fun invocation member own => absurd own (unstarted invocation member)⟩
  have atEnd := (executionJob_spec running).sound
    (fun _ _ _ elsewhere => ⟨trivial, elsewhere⟩) trivial run
  cases outcome <;> exact atEnd

namespace FinalOutcomes

/-! ## A projection refresh that fails -/

/-- An enabled DNS action of one account with its credential. -/
def exampleEvents : List StoredEvent :=
  [{ id := 0
     aggregateType := .action
     aggregateId := 10
     sequenceNumber := 1
     accountId := 1
     data := .action (.attached
       { actionId := 10
         accountId := 1
         ipClientId := 20
         type := .hetznerCloudDnsUpdate
         addressFamilies := [.ipv4]
         config := .dns ⟨30, some "example.com", some "home"⟩
         attachedAt := 0 }) },
   { id := 1
     aggregateType := .providerCredential
     aggregateId := 30
     sequenceNumber := 1
     accountId := 1
     data := .providerCredential
       (.stored 30 1 "hetzner" "dns" "token" "oken" 0) }]

def exampleWorld : World where
  store := ⟨exampleEvents, 2⟩
  hetzner.records := fun _ => some "192.0.2.1"

def exampleData : ActionExecutionJobData where
  accountId := 1
  executionId := 40
  actionId := 10
  ipClientId := 20
  causationEventId := 50
  triggeredBy := .ipChange
  ipValues := { ipv4 := some "192.0.2.7" }

def exampleDeps : ActionExecutionWorkerDeps where
  executors := registeredExecutors
  notificationChannels := fun _ => true
  sourceLabel := "fluxip.example"

def exampleJob : Backend Unit :=
  executionJob exampleDeps exampleData 5 fun _ => {}

/-- Everything answers until the refresh after `succeeded` reads the stream. -/
def refreshFails : List Choice :=
  List.replicate 8 .ok ++ [.fail "read failed"] ++ List.replicate 9 .ok

end FinalOutcomes

open FinalOutcomes in
/-- A job that runs without any exception. -/
theorem outcomes_are_final_undisturbed :
    ((exampleJob.run semantics (List.replicate 12 .ok)
        exampleWorld).2.store.stream .actionExecution 40).any
      (·.isFinal) = true ∧
    OutcomesFinal 40
      (exampleJob.run semantics (List.replicate 12 .ok) exampleWorld).2 := by
  refine ⟨by decide, ?_⟩
  obtain ⟨history, run⟩ : ∃ history, Execution semantics (Elsewhere 40)
      (FinalOutcomes.Acknowledged 5) [] exampleJob exampleWorld history _ _ :=
    Program.run_execution semantics (Elsewhere.refl 40) exampleJob
      (List.replicate 12 .ok) exampleWorld []
      fun choice member _ _ _ =>
        acknowledged_of_ok (List.eq_of_mem_replicate member ▸ rfl)
  exact @outcomes_are_final FinalOutcomes.exampleDeps exampleData 5 (fun _ => {})
    exampleWorld _ history _ (by decide) (by decide) run

open FinalOutcomes in
/-- One failed read of the projection refresh is recorded as a failed attempt
after `succeeded`, and the job is run again. -/
theorem refresh_failure_reopens_execution :
    ¬ ∀ (deps : ActionExecutionWorkerDeps) (data : ActionExecutionJobData)
        (attempts : Nat) (clock : Nat → AttemptClock) (initial final : World)
        (history : BackendHistory) (outcome : Outcome Err Unit),
      initial.store.stream .actionExecution data.executionId = [] →
      (∀ invocation ∈ initial.invocations,
        invocation.executionId ≠ data.executionId) →
      Execution semantics (Elsewhere data.executionId)
        (fun _ _ _ _ => True) [] (executionJob deps data attempts clock)
        initial history outcome final →
      OutcomesFinal data.executionId final := by
  intro claim
  obtain ⟨history, run⟩ := Program.run_execution semantics
    (Elsewhere.refl 40) exampleJob refreshFails exampleWorld []
    (fun _ _ _ _ _ => trivial)
  have final := claim FinalOutcomes.exampleDeps exampleData 5 (fun _ => {}) _ _ history _
    (by decide) (by decide) run
  exact absurd final.stream (by decide)

end FluxIP
