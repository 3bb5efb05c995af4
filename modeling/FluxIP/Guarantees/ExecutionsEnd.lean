import FluxIP.Adapters.Decisions
import FluxIP.Guarantees.FinalOutcomes

/-!
# Executions end

Whether an execution still shows `running` when the queue is done with its job.
Each attempt first records its start and then loads the action; the job is
followed with the executor, the credentials, Redis and the notification channel
failing as they like, and other parties changing the action in between.
-/

namespace FluxIP

open Async

/-- What the stream of an execution folds to. -/
def World.executionOf (world : World) (executionId : Id) :
    ActionExecutionState :=
  (world.store.stream .actionExecution executionId).foldl
    actionExecutionReducer initialActionExecutionState

namespace ExecutionsEnd

open FinalOutcomes (Elsewhere)

/-! ## The loads of the attempts -/

/-- The load of the action that follows the start of an attempt. -/
structure AttemptLoad where
  attempt : Nat
  seen : List StoredEvent

/-- The attempt whose start was recorded but whose load is still to come, and
the loads made so far. -/
structure AttemptLoads where
  pending : Option Nat := none
  made : List AttemptLoad := []

/-- The attempt whose start this call has recorded. -/
def startedAttempt : Answered backend Err → Option Nat
  | ⟨.store (.append input), .ok _⟩ =>
      match input.data with
      | .actionExecution (.started data) => some data.attempt
      | _ => none
  | _ => none

def AttemptLoads.note (params : ReadStreamParams) (loads : AttemptLoads)
    (answered : Answered backend Err) : AttemptLoads :=
  match startedAttempt answered with
  | some attempt => { loads with pending := some attempt }
  | none =>
      match loads.pending, readAnswer params answered with
      | some attempt, some seen =>
          ⟨none, loads.made ++ [⟨attempt, seen⟩]⟩
      | _, _ => loads

/-- The stream of the job's action. -/
def actionParams (data : ActionExecutionJobData) : ReadStreamParams :=
  ⟨data.accountId, .action, data.actionId⟩

def loadsOf (data : ActionExecutionJobData) (history : BackendHistory) :
    AttemptLoads :=
  history.foldl (AttemptLoads.note (actionParams data)) {}

/-- The action is attached, enabled and configured; and either an address it
needs was not reported, or there is an executor for its type, or more attempts
follow. -/
def AttemptLoad.goesOn (deps : ActionExecutionWorkerDeps)
    (data : ActionExecutionJobData) (attempts : Nat) (load : AttemptLoad) :
    Bool :=
  let action := load.seen.foldl actionReducer initialActionState
  match action.actionId, action.status, action.config, action.type with
  | some _, .enabled, some _, some type =>
      missingFamily action.addressFamilies data.ipValues ||
        (deps.executors type).isSome || decide (load.attempt < attempts)
  | _, _, _, _ => false

/-- Every attempt made goes on. -/
def AllGoOn (deps : ActionExecutionWorkerDeps) (data : ActionExecutionJobData)
    (attempts : Nat) (history : BackendHistory) : Prop :=
  ∀ load ∈ (loadsOf data history).made, load.goesOn deps data attempts = true

/-- The event store answers, but for the lookup of a credential. -/
def StoreAnswers (_ : BackendHistory) (_ : World) (call : backend.Call)
    (choice : Choice) : Prop :=
  match call with
  | .store (.readStream params) =>
      params.aggregateType ≠ .providerCredential → choice.fate = .ok
  | .store _ => choice.fate = .ok
  | _ => True

/-! ## What the job keeps -/

variable {data : ActionExecutionJobData} {before after : World}

/-- The stream of the execution is numbered in order, and its account's. -/
structure InOrder (data : ActionExecutionJobData) (world : World) : Prop where
  sequence : (world.store.stream .actionExecution data.executionId).map
    (·.sequenceNumber) = List.range' 1
      (world.store.stream .actionExecution data.executionId).length
  account : ∀ event ∈ world.store.stream .actionExecution data.executionId,
    event.accountId = data.accountId

theorem InOrder.elsewhere (inOrder : InOrder data before)
    (elsewhere : Elsewhere data.executionId before after) :
    InOrder data after := by
  obtain ⟨sequence, account⟩ := inOrder
  constructor
  · rw [elsewhere.1]
    exact sequence
  · rw [elsewhere.1]
    exact account

def contract (data : ActionExecutionJobData) :
    Contract backend Err Choice World where
  invariant := InOrder data
  rely := Elsewhere data.executionId
  guarantee := fun _ _ => True
  allowed := StoreAnswers
  reflexive := Elsewhere.refl data.executionId
  transitive := fun _ _ _ => Elsewhere.trans

theorem InOrder.readStream (inOrder : InOrder data before) :
    before.store.readStream
        ⟨data.accountId, .actionExecution, data.executionId⟩ =
      before.store.stream .actionExecution data.executionId := by
  have whole : (before.store.stream .actionExecution data.executionId).filter
      (·.accountId = data.accountId) =
      before.store.stream .actionExecution data.executionId :=
    List.filter_eq_self.mpr fun event member => by
      simpa using inOrder.account event member
  have sorted : ((before.store.stream .actionExecution data.executionId).map
      (·.sequenceNumber)).Pairwise (· ≤ ·) := by
    rw [inOrder.sequence]
    exact List.pairwise_le_range' 1
  unfold EventStore.readStream
  rw [whole]
  exact (List.pairwise_map.mp sorted).insertionSort_eq

/-- The next position of the execution's stream is free. -/
theorem InOrder.free (inOrder : InOrder data before) {event : StoredEvent}
    (member : event ∈ before.store.stream .actionExecution data.executionId) :
    event.sequenceNumber ≠
      (before.store.stream .actionExecution data.executionId).length + 1 := by
  have position : event.sequenceNumber ∈
      (before.store.stream .actionExecution data.executionId).map
        (·.sequenceNumber) := List.mem_map_of_mem member
  rw [inOrder.sequence, List.mem_range'_1] at position
  omega

/-- The append of an execution event at the position that comes next. -/
def nextInput (data : ActionExecutionJobData) (world : World)
    (event : ActionExecutionEvent) : AppendEventInput where
  aggregateType := .actionExecution
  aggregateId := data.executionId
  accountId := data.accountId
  expectedSequenceNumber :=
    (world.store.stream .actionExecution data.executionId).length + 1
  data := .actionExecution event

/-- The event has been appended to the execution's stream. -/
structure Appended (data : ActionExecutionJobData)
    (event : ActionExecutionEvent) (before after : World) : Prop where
  inOrder : InOrder data after
  folds : ∃ stored : StoredEvent, stored.data = .actionExecution event ∧
    after.executionOf data.executionId =
      actionExecutionReducer (before.executionOf data.executionId) stored

theorem append_appended {choice : Choice} {event : ActionExecutionEvent}
    {answer : Except Err StoredEvent} (inOrder : InOrder data before)
    (answers : choice.fate = .ok)
    (result : semantics (.store (.append (nextInput data before event))) choice
      before = some (answer, after)) :
    (∃ stored, answer = .ok stored) ∧ Appended data event before after := by
  have appended := append_answered answers result
  have accepted : ∃ stored,
      (before.store.append (nextInput data before event)).1 = .ok stored :=
    EventStore.append_free fun other member => inOrder.free member
  rw [appended] at accepted
  obtain ⟨stored, rfl⟩ := accepted
  refine ⟨⟨stored, rfl⟩, ?_⟩
  rcases EventStore.append_cases appended with
    ⟨_, ⟨⟩, ofType, ofId, position, account, written, -, -, table⟩ |
    ⟨conflict, -⟩
  · have isOf : stored.isOf .actionExecution data.executionId = true :=
      EventStore.isOf_iff.mpr ⟨ofType, ofId⟩
    have grown : after.store.stream .actionExecution data.executionId =
        before.store.stream .actionExecution data.executionId ++ [stored] := by
      rw [table, EventStore.stream_append_event, if_pos isOf]
    refine ⟨⟨?_, ?_⟩, stored, written, ?_⟩
    · rw [grown, List.map_append, inOrder.sequence, List.length_append,
        List.length_singleton, List.range'_1_concat, Nat.add_comm 1]
      exact congrArg (_ ++ [·]) position
    · rw [grown]
      intro event member
      rcases List.mem_append.mp member with old | new
      · exact inOrder.account event old
      · rw [List.mem_singleton] at new
        rw [new]
        exact account
    · unfold World.executionOf
      rw [grown, List.foldl_append]
      rfl
  · cases conflict

/-! ## Calls that spare the execution -/

/-- The call neither touches an execution's stream nor records a start. -/
def Call.sparesExecution : Call → Bool
  | .store (.append input) =>
      match input.aggregateType, input.data with
      | .action, .action _ => true
      | _, _ => false
  | .store (.deleteAccount _) => false
  | _ => true

variable {call : Call} {answer : Except Err call.Answer} {choice : Choice}
variable {history : BackendHistory}

theorem spares_of_keepsStore (keeps : call.keepsStore = true) :
    Call.sparesExecution call = true := by
  cases call with
  | store call => cases call <;> first | rfl | cases keeps
  | _ => rfl

theorem spares_of_reads (isRead : Backend.reads call = true) :
    Call.sparesExecution call = true := by
  cases call with
  | store call => cases call <;> first | rfl | cases isRead
  | _ => rfl

theorem stream_spared (spares : Call.sparesExecution call = true)
    (result : semantics call choice before = some (answer, after)) :
    after.store.stream .actionExecution data.executionId =
      before.store.stream .actionExecution data.executionId := by
  cases call with
  | store call =>
      cases call with
      | append input =>
          rcases append_step result with
            ⟨event, store, appended, rfl, -⟩ | ⟨rfl, -⟩
          · apply EventStore.append_stream_other appended
            rintro ⟨isExecution, -⟩
            unfold Call.sparesExecution at spares
            simp [isExecution] at spares
          · rfl
      | deleteAccount accountId => cases spares
      | _ => rw [store_frame result rfl]
  | _ => rw [store_frame result rfl]

theorem startedAttempt_spared (spares : Call.sparesExecution call = true) :
    startedAttempt ⟨call, answer⟩ = none := by
  cases call with
  | store call =>
      cases call with
      | append input =>
          cases answer with
          | error error => rfl
          | ok stored =>
              unfold startedAttempt
              dsimp only
              split
              · rename_i written
                unfold Call.sparesExecution at spares
                simp [written] at spares
              · rfl
      | _ => cases answer <;> rfl
  | _ => cases answer <;> rfl

/-! ## Assertions -/

/-- These loads were made, and this one is pending; the execution's state
satisfies `holds`. -/
structure At (data : ActionExecutionJobData) (loads : AttemptLoads)
    (holds : ActionExecutionState → Prop) (history : BackendHistory)
    (world : World) : Prop where
  loads : loadsOf data history = loads
  state : holds (world.executionOf data.executionId)

variable {loads : AttemptLoads} {made : List AttemptLoad}
variable {holds : ActionExecutionState → Prop}

theorem loadsOf_append (history : BackendHistory)
    (answered : Answered backend Err) :
    loadsOf data (history ++ [answered]) =
      (loadsOf data history).note (actionParams data) answered := by
  unfold loadsOf
  rw [List.foldl_append]
  rfl

theorem At.elsewhere (here : At data loads holds history before)
    (elsewhere : Elsewhere data.executionId before after) :
    At data loads holds history after := by
  refine ⟨here.loads, ?_⟩
  unfold World.executionOf
  rw [elsewhere.1]
  exact here.state

theorem At.mono {weaker : ActionExecutionState → Prop}
    (here : At data loads holds history before)
    (implies : ∀ state, holds state → weaker state) :
    At data loads weaker history before :=
  ⟨here.loads, implies _ here.state⟩

theorem InOrder.same (inOrder : InOrder data before)
    (same : after.store.stream .actionExecution data.executionId =
      before.store.stream .actionExecution data.executionId) :
    InOrder data after := by
  obtain ⟨sequence, account⟩ := inOrder
  constructor
  · rw [same]
    exact sequence
  · rw [same]
    exact account

/-- Between loads, calls that spare the execution change nothing. -/
theorem At.spared (here : At data ⟨none, made⟩ holds history before)
    (spares : Call.sparesExecution call = true)
    (result : semantics call choice before = some (answer, after)) :
    At data ⟨none, made⟩ holds (history ++ [⟨call, answer⟩]) after := by
  constructor
  · rw [loadsOf_append, here.loads, AttemptLoads.note,
      startedAttempt_spared spares]
  · unfold World.executionOf
    rw [stream_spared spares result]
    exact here.state

/-! ## Specifications -/

/-- How a program ends that leaves the loads as they are. -/
abbrev staying (data : ActionExecutionJobData) (made : List AttemptLoad)
    (returned threw : ActionExecutionState → Prop) {α : Type} :
    BackendHistory → Outcome Err α → World → Prop :=
  ending (At data ⟨none, made⟩ returned) (At data ⟨none, made⟩ threw)
    fun _ _ => True

theorem spared_spec {α : Type} {program : Backend α}
    (calls : program.Calls fun call => Call.sparesExecution call = true)
    (here : At data ⟨none, made⟩ holds history before) :
    program.Ensures semantics (contract data) (staying data made holds holds)
      history before := by
  have kept : program.Ensures semantics (contract data)
      (ending (At data ⟨none, made⟩ holds) (At data ⟨none, made⟩ holds)
        (At data ⟨none, made⟩ holds)) history before := by
    apply Program.Ensures.frame calls
    · exact fun _ _ _ here step => here.elsewhere step.2
    · intro history world call choice answer after spares inOrder here _ result
      exact ⟨⟨inOrder.same (stream_spared spares result), trivial⟩,
        here.spared spares result⟩
    · exact here
  exact kept.weaken (fun _ _ => id) (fun _ _ => id) fun _ _ _ => trivial

/-- The attempt whose load is pending after this event. -/
def pendingAfter : ActionExecutionEvent → Option Nat
  | .started started => some started.attempt
  | _ => none

/-- A state in which `holds`, after this event. -/
def After (event : ActionExecutionEvent)
    (holds : ActionExecutionState → Prop) (state : ActionExecutionState) :
    Prop :=
  ∃ (earlier : ActionExecutionState) (stored : StoredEvent),
    holds earlier ∧ stored.data = .actionExecution event ∧
      state = actionExecutionReducer earlier stored

theorem loadsOf_appended {input : AppendEventInput} {stored : StoredEvent}
    {event : ActionExecutionEvent}
    (written : input.data = .actionExecution event)
    (loads : loadsOf data history = ⟨none, made⟩) :
    loadsOf data (history ++
        [@Answered.mk backend Err (.store (.append input)) (.ok stored)]) =
      ⟨pendingAfter event, made⟩ := by
  rw [loadsOf_append, loads]
  simp only [AttemptLoads.note, startedAttempt, written]
  cases event <;> rfl

theorem append_spec {event : ActionExecutionEvent} {position : Nat}
    (here : At data ⟨none, made⟩ holds history before)
    (next : position = (before.store.stream .actionExecution
      data.executionId).length + 1) :
    (Backend.append
      { aggregateType := .actionExecution
        aggregateId := data.executionId
        accountId := data.accountId
        expectedSequenceNumber := position
        data := .actionExecution event }).Ensures semantics (contract data)
      (ending (At data ⟨pendingAfter event, made⟩ (After event holds))
        (fun _ _ => False) fun _ _ => True) history before := by
  apply Backend.call_ensures (.store (.append _))
  intro waited step
  have here := here.elsewhere step.2
  refine ⟨trivial, ?_⟩
  intro choice answer after answers result
  have same : position =
      (waited.store.stream .actionExecution data.executionId).length + 1 := by
    rw [step.2.1]
    exact next
  subst same
  obtain ⟨⟨stored, rfl⟩, appended⟩ :=
    append_appended step.1 answers result
  refine ⟨⟨appended.inOrder, trivial⟩, ?_⟩
  intro final later
  obtain ⟨stored', written, folds⟩ := appended.folds
  refine At.elsewhere ⟨loadsOf_appended rfl here.loads, ?_⟩ later.2
  exact ⟨_, stored', here.state, written, folds⟩

/-- A read of the store answers. -/
theorem read_spec {params : ReadStreamParams}
    (answers : params.aggregateType ≠ .providerCredential)
    (here : At data loads holds history before) :
    (Backend.readStream params).Ensures semantics (contract data)
      (yielding
        (fun seen history world =>
          At data (loads.note (actionParams data)
            (@Answered.mk backend Err (.store (.readStream params))
              (.ok seen))) holds history world ∧
          ∃ earlier : World, InOrder data earlier ∧
            Elsewhere data.executionId earlier world ∧
            seen = earlier.store.readStream params)
        (fun _ _ => False) fun _ _ => True) history before := by
  apply Backend.call_ensures (.store (.readStream params))
  intro waited step
  have here := here.elsewhere step.2
  refine ⟨trivial, ?_⟩
  intro choice answer after allowed result
  have inOrder : InOrder data after :=
    step.1.same (stream_spared rfl result)
  refine ⟨⟨inOrder, trivial⟩, ?_⟩
  intro final later
  obtain ⟨rfl, rfl | ⟨failed, -⟩⟩ := readStream_step result
  · constructor
    · refine At.elsewhere ⟨?_, here.state⟩ later.2
      rw [loadsOf_append, here.loads]
      rfl
    · exact ⟨_, step.1, later.2, rfl⟩
  · exact absurd (allowed answers) failed

theorem nextSequence_spec (inOrder : InOrder data before)
    (here : At data ⟨none, made⟩ holds history before) :
    (nextSequence data.accountId data.executionId).Ensures semantics
      (contract data)
      (yielding
        (fun position history world =>
          At data ⟨none, made⟩ holds history world ∧
          position = (world.store.stream .actionExecution
            data.executionId).length + 1)
        (fun _ _ => False) fun _ _ => True) history before := by
  unfold nextSequence loadExecution loadAggregate
  refine Program.Ensures.seq
    (fun loaded history world => At data ⟨none, made⟩ holds history world ∧
      loaded.version = (world.store.stream .actionExecution
        data.executionId).length) inOrder ?_ ?_
  · apply Program.Ensures.seq _ inOrder (read_spec (by simp) here)
    rintro seen history world _ ⟨here, earlier, inOrder, elsewhere, rfl⟩
    apply Program.Ensures.done
    intro next step
    refine ⟨here.elsewhere step.2, ?_⟩
    rw [inOrder.readStream, step.2.1, elsewhere.1]
    rfl
  · rintro loaded history world _ ⟨here, version⟩
    apply Program.Ensures.done
    intro next step
    refine ⟨here.elsewhere step.2, ?_⟩
    rw [version, step.2.1]

theorem appendExecutionEvent_spec {event : ActionExecutionEvent}
    (inOrder : InOrder data before)
    (here : At data ⟨none, made⟩ holds history before) :
    (appendExecutionEvent data.accountId data.executionId event).Ensures
      semantics (contract data)
      (ending (At data ⟨pendingAfter event, made⟩ (After event holds))
        (fun _ _ => False) fun _ _ => True) history before := by
  unfold appendExecutionEvent
  apply Program.Ensures.seq _ inOrder (nextSequence_spec inOrder here)
  intro position history world _ next
  refine Program.Ensures.seq _ ‹_› (append_spec next.1 next.2) ?_
  intro stored history world _ here
  exact Program.Ensures.done fun _ step => here.elsewhere step.2

/-- The load that follows the start of an attempt. -/
theorem loadAction_spec {attempt : Nat} (inOrder : InOrder data before)
    (here : At data ⟨some attempt, made⟩ holds history before) :
    (loadAction data.accountId data.actionId).Ensures semantics
      (contract data)
      (yielding
        (fun loaded history world => ∃ seen,
          loaded = replayed initialActionState actionReducer seen ∧
          At data ⟨none, made ++ [⟨attempt, seen⟩]⟩ holds history world)
        (fun _ _ => False) fun _ _ => True) history before := by
  unfold loadAction loadAggregate
  apply Program.Ensures.seq _ inOrder (read_spec (by simp) here)
  rintro seen history world _ ⟨here, -⟩
  apply Program.Ensures.done
  intro next step
  refine ⟨seen, rfl, ?_⟩
  have noted : AttemptLoads.note (actionParams data) ⟨some attempt, made⟩
      (@Answered.mk backend Err
        (.store (.readStream (actionParams data))) (.ok seen)) =
      ⟨none, made ++ [⟨attempt, seen⟩]⟩ := by
    simp [AttemptLoads.note, startedAttempt, readAnswer]
  rw [← noted]
  exact here.elsewhere step.2

/-! ## The outcome of an attempt -/

/-- The execution shows how it ended. -/
def Ended (state : ActionExecutionState) : Prop :=
  state.status = .succeeded ∨ state.status = .failed

theorem Ended.of_succeeded {succeeded : ActionExecutionSucceededData}
    {state : ActionExecutionState}
    (after : After (.succeeded succeeded) holds state) : Ended state := by
  obtain ⟨earlier, stored, -, written, rfl⟩ := after
  rw [Ended, actionExecutionReducer, written]
  exact Or.inl rfl

theorem Ended.of_failed {failed : ActionExecutionFailedData}
    {state : ActionExecutionState}
    (after : After (.failed failed) holds state) : Ended state := by
  obtain ⟨earlier, stored, -, written, rfl⟩ := after
  rw [Ended, actionExecutionReducer, written]
  exact Or.inr rfl

theorem Ended.of_notificationSent {channelId : Id}
    {outcome : ExecutionOutcome} {sentAt : Timestamp}
    {state : ActionExecutionState}
    (after : After (.notificationSent channelId outcome sentAt) Ended state) :
    Ended state := by
  obtain ⟨earlier, stored, ended, written, rfl⟩ := after
  rw [Ended, actionExecutionReducer, written]
  exact ended

section Attempt

variable {deps : ActionExecutionWorkerDeps} {delivery : Delivery}

theorem loadAggregate_spares {State : Type} (params : ReadStreamParams)
    (initialState : State) (reducer : State → StoredEvent → State) :
    (loadAggregate params initialState reducer).Calls
      fun call => Call.sparesExecution call = true :=
  (loadAggregate_reads params initialState reducer).mono
    fun _ => spares_of_reads

theorem refreshExecutionProjection_spares (accountId executionId : Id) :
    (refreshExecutionProjection accountId executionId).Calls
      fun call => Call.sparesExecution call = true := by
  apply (loadAggregate_spares _ _ _).bind
  intro loaded
  unfold upsertExecutionProjection
  split
  · trivial
  · exact (Backend.calls_call _).mpr rfl

theorem sendNotification_spec (outcome : ExecutionOutcome)
    (inOrder : InOrder delivery.data before)
    (here : At delivery.data ⟨none, made⟩ Ended history before) :
    (sendNotification deps delivery outcome).Ensures semantics
      (contract delivery.data) (staying delivery.data made Ended Ended)
      history before := by
  have stays : ∀ {α : Type} {program : Backend α} {history before},
      (program.Calls fun call => Call.sparesExecution call = true) →
      At delivery.data ⟨none, made⟩ Ended history before →
      program.Ensures semantics (contract delivery.data)
        (staying delivery.data made Ended Ended) history before :=
    fun calls here => spared_spec calls here
  unfold sendNotification
  apply Program.Ensures.seq _ inOrder (stays (loadAggregate_spares _ _ _) here)
  intro client history world inOrder here
  split
  · apply Program.Ensures.seq _ inOrder
      (stays (loadAggregate_spares _ _ _) here)
    intro channel history world inOrder here
    dsimp only
    split
    · exact stays trivial here
    · split
      · apply Program.Ensures.seq _ inOrder
          (stays ((Backend.calls_call _).mpr rfl) here)
        intro _ history world inOrder here
        apply (appendExecutionEvent_spec inOrder here).weaken
        · exact fun _ _ atEnd =>
            atEnd.mono fun _ => Ended.of_notificationSent
        · exact fun _ _ => False.elim
        · exact fun _ _ => id
      · exact stays trivial here
  · exact stays trivial here

/-- A notification never throws, and leaves the outcome as it is. -/
theorem maybeSendNotification_spec (outcome : ExecutionOutcome)
    (inOrder : InOrder delivery.data before)
    (here : At delivery.data ⟨none, made⟩ Ended history before) :
    (maybeSendNotification deps delivery outcome).Ensures semantics
      (contract delivery.data)
      (ending (At delivery.data ⟨none, made⟩ Ended) (fun _ _ => False)
        fun _ _ => True) history before := by
  apply (sendNotification_spec outcome inOrder here).tryCatch inOrder
  · exact fun _ _ _ ended _ step => At.elsewhere ended step.2
  · intro history error world _ ended
    exact Program.Ensures.done fun _ step => At.elsewhere ended step.2
  · exact fun _ _ _ => trivial

theorem appendFirewallRuleApplied_spares (ipValues : IpValuesUsed) :
    (appendFirewallRuleApplied delivery ipValues).Calls
      fun call => Call.sparesExecution call = true := by
  apply (loadAggregate_spares _ _ _).bind
  intro loaded
  apply Program.Calls.bind
  · exact (Backend.calls_call _).mpr rfl
  · exact fun _ => trivial

theorem bookkeeping_spares (ipValues : IpValuesUsed) :
    (appendFirewallRuleAppliedEventBestEffort delivery ipValues).Calls
      fun call => Call.sparesExecution call = true := by
  have pass : (appendFirewallRuleApplied delivery ipValues).attempt.Calls
      fun call => Call.sparesExecution call = true :=
    (appendFirewallRuleApplied_spares ipValues).attempt
  apply pass.bind
  intro first
  split
  · exact pass.bind fun _ => trivial
  · trivial

theorem spares_of_ofExecutor (call : Call)
    (external : call.ofExecutor = true) :
    Call.sparesExecution call = true := by
  cases call with
  | store call => cases external
  | _ => rfl

/-- The `try` block: if it does not throw, the execution has succeeded. -/
theorem executeAndRecord_spec (type : ActionType) (config : ActionConfig)
    (action : ActionState) (executor : ActionExecutor type)
    (inOrder : InOrder delivery.data before)
    (here : At delivery.data ⟨none, made⟩ holds history before) :
    (executeAndRecord deps delivery type config action executor).Ensures
      semantics (contract delivery.data)
      (staying delivery.data made Ended fun _ => True) history before := by
  have stays : ∀ {α : Type} {program : Backend α} {holds} {history before},
      (program.Calls fun call => Call.sparesExecution call = true) →
      At delivery.data ⟨none, made⟩ holds history before →
      program.Ensures semantics (contract delivery.data)
        (staying delivery.data made holds fun _ => True) history before := by
    intro α program holds history before calls here
    apply (spared_spec calls here).weaken
    · exact fun _ _ => id
    · exact fun _ _ atEnd => atEnd.mono fun _ _ => trivial
    · exact fun _ _ => id
  unfold executeAndRecord
  apply Program.Ensures.seq _ inOrder
    (stays ((resolveExecutorConfig_reads _ _ _ _).mono
      fun _ => spares_of_reads) here)
  intro resolvedConfig history world inOrder here
  apply Program.Ensures.seq _ inOrder
    (stays ((Backend.calls_call _).mpr rfl) here)
  intro _ history world inOrder here
  apply Program.Ensures.seq _ inOrder
    (stays ((executor.external _ _).mono spares_of_ofExecutor) here)
  intro executed history world inOrder here
  refine Program.Ensures.seq
    (fun _ => At delivery.data ⟨none, made⟩ Ended) inOrder ?_ ?_
  · apply (appendExecutionEvent_spec inOrder here).weaken
    · exact fun _ _ atEnd => atEnd.mono fun _ => Ended.of_succeeded
    · exact fun _ _ => False.elim
    · exact fun _ _ => id
  intro _ history world inOrder ended
  have recorded : (Program.onlyIf (type = .hetznerCloudFirewallRuleUpdate)
      (appendFirewallRuleAppliedEventBestEffort delivery
        (relevantIpValues action.addressFamilies
          delivery.data.ipValues))).Calls
      fun call => Call.sparesExecution call = true := by
    unfold Program.onlyIf
    split
    · exact bookkeeping_spares _
    · trivial
  apply Program.Ensures.seq _ inOrder (stays recorded ended)
  intro _ history world inOrder ended
  apply Program.Ensures.seq _ inOrder
    (stays (refreshExecutionProjection_spares _ _) ended)
  intro _ history world inOrder ended
  apply (maybeSendNotification_spec _ inOrder ended).weaken
  · exact fun _ _ => id
  · exact fun _ _ => False.elim
  · exact fun _ _ => id

theorem appendFailed_spec {failed : ActionExecutionFailedData}
    (inOrder : InOrder delivery.data before)
    (here : At delivery.data ⟨none, made⟩ holds history before) :
    (appendExecutionEvent delivery.data.accountId delivery.data.executionId
      (.failed failed)).Ensures semantics (contract delivery.data)
      (staying delivery.data made Ended Ended) history before := by
  apply (appendExecutionEvent_spec inOrder here).weaken
  · exact fun _ _ atEnd => atEnd.mono fun _ => Ended.of_failed
  · exact fun _ _ => False.elim
  · exact fun _ _ => id

/-- The `catch` block records the failure before it rethrows. -/
theorem recordFailure_spec (error : Err)
    (inOrder : InOrder delivery.data before)
    (here : At delivery.data ⟨none, made⟩ holds history before) :
    (recordFailure deps delivery error).Ensures semantics
      (contract delivery.data) (staying delivery.data made Ended Ended)
      history before := by
  unfold recordFailure
  apply Program.Ensures.seq _ inOrder (appendFailed_spec inOrder here)
  intro _ history world inOrder ended
  apply Program.Ensures.seq _ inOrder
    (spared_spec (refreshExecutionProjection_spares _ _) ended)
  intro _ history world inOrder ended
  refine Program.Ensures.seq
    (fun _ => At delivery.data ⟨none, made⟩ Ended) inOrder ?_ ?_
  · unfold Program.onlyIf
    split
    · apply (maybeSendNotification_spec _ inOrder ended).weaken
      · exact fun _ _ => id
      · exact fun _ _ => False.elim
      · exact fun _ _ => id
    · exact Program.Ensures.done fun _ step => ended.elsewhere step.2
  · intro _ history world _ ended
    exact Program.Ensures.fail fun _ step => ended.elsewhere step.2

theorem failMissingFamily_spec (inOrder : InOrder delivery.data before)
    (here : At delivery.data ⟨none, made⟩ holds history before) :
    (failMissingFamily deps delivery).Ensures semantics
      (contract delivery.data) (staying delivery.data made Ended Ended)
      history before := by
  unfold failMissingFamily
  apply Program.Ensures.seq _ inOrder (appendFailed_spec inOrder here)
  intro _ history world inOrder ended
  apply Program.Ensures.seq _ inOrder
    (spared_spec (refreshExecutionProjection_spares _ _) ended)
  intro _ history world inOrder ended
  apply (maybeSendNotification_spec _ inOrder ended).weaken
  · exact fun _ _ => id
  · exact fun _ _ => False.elim
  · exact fun _ _ => id

/-- The load of this attempt decides how it ends: if it goes on, an outcome is
recorded, unless an exception leads to another attempt. -/
abbrev decided (deps : ActionExecutionWorkerDeps) (delivery : Delivery)
    (made : List AttemptLoad) (load : AttemptLoad) {α : Type} :
    BackendHistory → Outcome Err α → World → Prop :=
  staying delivery.data (made ++ [load])
    (fun state =>
      load.goesOn deps delivery.data delivery.maxAttempts = true ↔ Ended state)
    fun state =>
      (delivery.attempt < delivery.maxAttempts →
        load.goesOn deps delivery.data delivery.maxAttempts = true) ∧
      (delivery.maxAttempts ≤ delivery.attempt →
        (load.goesOn deps delivery.data delivery.maxAttempts = true ↔
          Ended state))

/-- An attempt that goes on and records an outcome however it ends. -/
theorem decided_of_ended {α : Type} {program : Backend α} {load : AttemptLoad}
    (goesOn : load.goesOn deps delivery.data delivery.maxAttempts = true)
    (ends : program.Ensures semantics (contract delivery.data)
      (staying delivery.data (made ++ [load]) Ended Ended) history before) :
    program.Ensures semantics (contract delivery.data)
      (decided deps delivery made load) history before := by
  apply ends.weaken
  · exact fun _ _ atEnd =>
      atEnd.mono fun _ ended => iff_of_true goesOn ended
  · exact fun _ _ atEnd =>
      atEnd.mono fun _ ended =>
        ⟨fun _ => goesOn, fun _ => iff_of_true goesOn ended⟩
  · exact fun _ _ => id

theorem not_ended {state : ActionExecutionState}
    (running : state.status = .running) : ¬ Ended state := by
  rintro (succeeded | failed)
  · rw [running] at succeeded
    cases succeeded
  · rw [running] at failed
    cases failed

theorem executeAction_spec {seen : List StoredEvent}
    (inOrder : InOrder delivery.data before)
    (here : At delivery.data ⟨none, made ++ [⟨delivery.attempt, seen⟩]⟩
      (·.status = .running) history before) :
    (executeAction deps delivery
      (seen.foldl actionReducer initialActionState)).Ensures semantics
      (contract delivery.data)
      (decided deps delivery made ⟨delivery.attempt, seen⟩)
      history before := by
  unfold executeAction
  split
  · rename_i actionId config type attached enabled configured typed
    have goesOn : AttemptLoad.goesOn deps delivery.data delivery.maxAttempts
        ⟨delivery.attempt, seen⟩ =
        (missingFamily (seen.foldl actionReducer
            initialActionState).addressFamilies delivery.data.ipValues ||
          (deps.executors type).isSome ||
          decide (delivery.attempt < delivery.maxAttempts)) := by
      simp only [AttemptLoad.goesOn, attached, enabled, configured, typed]
    split
    · rename_i missing
      apply decided_of_ended
      · rw [goesOn, missing]
        rfl
      · exact failMissingFamily_spec inOrder here
    · rename_i reported
      split
      · rename_i unregistered
        apply Program.Ensures.fail
        intro next step
        apply (here.elsewhere step.2).mono
        intro state running
        have more : AttemptLoad.goesOn deps delivery.data
            delivery.maxAttempts ⟨delivery.attempt, seen⟩ =
            decide (delivery.attempt < delivery.maxAttempts) := by
          rw [goesOn, unregistered, eq_false_of_ne_true reported]
          rfl
        rw [more]
        constructor
        · exact fun follows => decide_eq_true follows
        · intro last
          exact iff_of_false (by simpa using last) (not_ended running)
      · rename_i executor registered
        apply decided_of_ended
        · rw [goesOn, registered]
          simp
        · apply (executeAndRecord_spec _ _ _ _ inOrder here).tryCatch inOrder
          · exact fun _ _ _ ended _ step => At.elsewhere ended step.2
          · exact fun _ error _ inOrder threw =>
              recordFailure_spec error inOrder threw
          · exact fun _ _ _ => trivial
  · rename_i unready
    apply Program.Ensures.done
    intro next step
    apply (here.elsewhere step.2).mono
    intro state running
    have stops : AttemptLoad.goesOn deps delivery.data delivery.maxAttempts
        ⟨delivery.attempt, seen⟩ = false := by
      unfold AttemptLoad.goesOn
      dsimp only
      split
      · rename_i attached enabled configured typed
        exact (unready _ _ _ attached enabled configured typed).elim
      · rfl
    rw [stops]
    exact iff_of_false (by simp) (not_ended running)

/-- One attempt. -/
theorem processExecution_spec (inOrder : InOrder delivery.data before)
    (here : At delivery.data ⟨none, made⟩ holds history before) :
    (processExecution deps delivery).Ensures semantics
      (contract delivery.data)
      (fun history outcome world =>
        ∃ seen, decided deps delivery made ⟨delivery.attempt, seen⟩
          history outcome world) history before := by
  unfold processExecution
  refine Program.Ensures.bind (appendExecutionEvent_spec inOrder here)
    inOrder ?_ ?_ ?_
  · intro history _ world inOrder started
    have running : At delivery.data ⟨some delivery.attempt, made⟩
        (·.status = .running) history world := by
      apply started.mono
      rintro _ ⟨earlier, stored, -, written, rfl⟩
      rw [actionExecutionReducer, written]
    refine Program.Ensures.bind (loadAction_spec inOrder running)
      inOrder ?_ ?_ ?_
    · rintro history _ world inOrder ⟨seen, rfl, here⟩
      apply (executeAction_spec inOrder here).mono
      exact fun _ _ _ atEnd => ⟨seen, atEnd⟩
    · exact fun _ _ _ => False.elim
    · exact fun _ _ _ => ⟨[], trivial⟩
  · exact fun _ _ _ => False.elim
  · exact fun _ _ _ => ⟨[], trivial⟩

end Attempt

/-! ## All attempts -/

variable {deps : ActionExecutionWorkerDeps} {attempts attempt : Nat}

/-- What holds before the attempt of a number: as long as there is such an
attempt, those before it went on; after the last, that decides the outcome. -/
structure Between (deps : ActionExecutionWorkerDeps)
    (data : ActionExecutionJobData) (attempts attempt : Nat)
    (history : BackendHistory) (world : World) : Prop where
  loaded : (loadsOf data history).pending = none
  going : attempt ≤ attempts → AllGoOn deps data attempts history
  settled : attempts < attempt →
    (Ended (world.executionOf data.executionId) ↔
      AllGoOn deps data attempts history)

theorem Between.elsewhere
    (between : Between deps data attempts attempt history before)
    (elsewhere : Elsewhere data.executionId before after) :
    Between deps data attempts attempt history after := by
  refine ⟨between.loaded, between.going, ?_⟩
  unfold World.executionOf
  rw [elsewhere.1]
  exact between.settled

/-- If the attempts before it went on, the load of the last attempt tells
whether all did. -/
theorem At.allGoOn {load : AttemptLoad}
    (went : ∀ earlier ∈ made, earlier.goesOn deps data attempts = true)
    (here : At data ⟨none, made ++ [load]⟩ holds history before) :
    AllGoOn deps data attempts history ↔
      load.goesOn deps data attempts = true := by
  unfold AllGoOn
  rw [here.loads]
  constructor
  · exact fun all => all load (by simp)
  · intro goesOn earlier member
    rcases List.mem_append.mp member with old | new
    · exact went earlier old
    · rw [List.mem_singleton] at new
      rw [new]
      exact goesOn

/-- A job is over with an outcome exactly if all its attempts went on. -/
theorem executionJob_spec {clock : Nat → AttemptClock}
    (some : 0 < attempts) (inOrder : InOrder data before) :
    (executionJob deps data attempts clock).Ensures semantics (contract data)
      (fun history outcome world => outcome = .returned () →
        (Ended (world.executionOf data.executionId) ↔
          AllGoOn deps data attempts history)) [] before := by
  refine Program.Ensures.retrying (Between deps data attempts)
    ?_ ?_ ?_ (Nat.add_comm 1 attempts) inOrder ?_
  · exact fun _ _ _ between step => between.elsewhere step.2
  · intro attempt history world more inOrder between
    have went := between.going (by omega)
    let delivery : Delivery := ⟨data, attempt, attempts, clock attempt⟩
    have inOrder : InOrder delivery.data world := inOrder
    have here : At delivery.data ⟨none, (loadsOf data history).made⟩
        (fun _ => True) history world := ⟨by rw [← between.loaded], trivial⟩
    apply (processExecution_spec inOrder here).mono
    rintro history outcome world ⟨seen, atEnd⟩
    cases outcome with
    | returned value =>
        intro final step _
        have atEnd := At.elsewhere atEnd step.2
        exact atEnd.state.symm.trans (atEnd.allGoOn went).symm
    | threw error =>
        have all := At.allGoOn went atEnd
        refine ⟨?_, ?_, ?_⟩
        · rw [atEnd.loads]
        · intro follows
          exact all.mpr (atEnd.state.1 follows)
        · intro last
          exact (atEnd.state.2 (Nat.le_of_lt_succ last)).symm.trans all.symm
    | cut => exact fun cut => by cases cut
  · exact fun _ _ between _ => between.settled (by omega)
  · refine ⟨rfl, ?_, ?_⟩
    · intro _ load member
      cases member
    · intro last
      omega

end ExecutionsEnd

namespace ExecutionsEnd

/-! ## An action disabled before the job starts -/

theorem storeAnswers_of_ok {history : BackendHistory} {world : World}
    {call : backend.Call} {choice : Choice} (answered : choice.fate = .ok) :
    StoreAnswers history world call choice := by
  unfold StoreAnswers
  split
  · exact fun _ => answered
  · exact answered
  · trivial

/-- The action has been disabled since its job was queued. -/
def disabledWorld : World where
  store := ⟨FinalOutcomes.exampleEvents ++
    [{ id := 2
       aggregateType := .action
       aggregateId := 10
       sequenceNumber := 2
       accountId := 1
       data := .action (.disabled 10) }], 3⟩

end ExecutionsEnd

end FluxIP
