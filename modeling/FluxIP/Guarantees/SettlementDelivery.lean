import FluxIP.Adapters.DebounceWorker
import FluxIP.Adapters.Folds
import FluxIP.Adapters.Steps

/-!
# Delivery of confirmed IP changes

Whether every confirmed change reaches the action execution queue.  The
settlement job of one client is delivered any number of times, each delivery
may be struck by an exception or a crash at any call, and other parties act
during and between the deliveries.
-/

namespace FluxIP

open Async

/-- The event is an `ip_changed` event of the client. -/
def StoredEvent.confirms (event : StoredEvent) (ipClientId : Id) : Bool :=
  event.isOf .ipClient ipClientId &&
    match event.data with
    | .ipClient (.ipChanged _) => true
    | _ => false

/-- The action received executions of the client's changes when the event came
after the events `prior`. -/
def ReceivedAt (job : DebounceJobData) (prior : List StoredEvent)
    (actionId : Id) : Prop :=
  (actionIn ⟨prior, 0⟩ job.accountId actionId).receives job.ipClientId = true

/-- For every change confirmed since `initial`, every action that received
executions at that time has exactly one job. -/
def EveryChangeDelivered (job : DebounceJobData) (initial final : World) :
    Prop :=
  ∀ prior event later, final.store.events = prior ++ event :: later →
    initial.store.events.length ≤ prior.length →
    event.confirms job.ipClientId = true →
    ∀ actionId, ReceivedAt job prior actionId →
      (final.queues.executions.filter
        (·.jobId = .exec event.id actionId)).length = 1

namespace SettlementDelivery

/-- The store is sequenced and no job id is in the queue twice. -/
structure Orderly (world : World) : Prop where
  sequenced : world.store.Sequenced
  distinct : (world.queues.executions.map (·.jobId)).Nodup

/-- What parties other than the settlement of this client do: they append no
`ip_changed` event to it and add no execution of its changes. -/
structure Others (job : DebounceJobData) (before after : World) : Prop where
  orderly : Orderly before → Orderly after
  store : before.store.Extends after.store
  jobs : before.queues.executions <+: after.queues.executions
  changes : ∀ event ∈ after.store.events,
    event.confirms job.ipClientId = true → event ∈ before.store.events
  foreign : ∀ added ∈ after.queues.executions,
    added ∈ before.queues.executions ∨
      ∀ event ∈ after.store.events, event.confirms job.ipClientId = true →
        ∀ actionId, added.jobId ≠ .exec event.id actionId

/-- During a delivery they leave the actions of the account alone, too. -/
structure Beside (job : DebounceJobData) (before after : World) : Prop
    extends Others job before after where
  actions : ∀ actionId, actionIn after.store job.accountId actionId =
    actionIn before.store job.accountId actionId

/-- One delivery of the job: where it began, how it ended, and where. -/
structure Delivered where
  before : World
  outcome : Outcome Err Unit
  after : World

/-- Deliveries of the job with the acts of other parties in between. -/
inductive Run (job : DebounceJobData) (initial : World) :
    List Delivered → World → Prop where
  | start : Run job initial [] initial
  | others {deliveries : List Delivered} {world next : World} :
      Run job initial deliveries world → Others job world next →
      Run job initial deliveries next
  | delivery {deliveries : List Delivered} {deps : DebounceWorkerDeps}
      {world next : World} {history : BackendHistory}
      {outcome : Outcome Err Unit} :
      Run job initial deliveries world →
      Execution semantics (Beside job) (fun _ _ _ _ => True) []
        (settle deps job) world history outcome next →
      Run job initial (deliveries ++ [⟨world, outcome, next⟩]) next

/-- Some action that received executions at a change confirmed since `initial`
has no job for it. -/
def Lost (job : DebounceJobData) (initial final : World) : Prop :=
  ∃ prior event later, final.store.events = prior ++ event :: later ∧
    initial.store.events.length ≤ prior.length ∧
    event.confirms job.ipClientId = true ∧
    ∃ actionId, ReceivedAt job prior actionId ∧
      ¬ final.queues.HasJob (.exec event.id actionId)

/-- The delivery confirmed a change and was struck before the last job of its
fan-out was in the queue. -/
def Delivered.Struck (job : DebounceJobData) (delivered : Delivered) : Prop :=
  (∀ value, delivered.outcome ≠ .returned value) ∧
    Lost job delivered.before delivered.after

/-! ## Growth -/

/-- The world has grown, without new executions of the changes it already
had. -/
structure Grown (job : DebounceJobData) (before after : World) : Prop where
  store : before.store.Extends after.store
  jobs : before.queues.executions <+: after.queues.executions
  foreign : ∀ added ∈ after.queues.executions,
    added ∈ before.queues.executions ∨
      ∀ event ∈ before.store.events, event.confirms job.ipClientId = true →
        ∀ actionId, added.jobId ≠ .exec event.id actionId

variable {job : DebounceJobData} {initial world next first second third : World}

theorem Others.grown (others : Others job first second) :
    Grown job first second := by
  refine ⟨others.store, others.jobs, ?_⟩
  intro added member
  refine (others.foreign added member).imp id ?_
  exact fun foreign event old => foreign event (others.store.1.subset old)

theorem Grown.trans (earlier : Grown job first second)
    (later : Grown job second third) : Grown job first third := by
  refine ⟨earlier.store.trans later.store, earlier.jobs.trans later.jobs, ?_⟩
  intro added member
  rcases later.foreign added member with old | foreign
  · exact earlier.foreign added old
  · exact Or.inr fun event old =>
      foreign event (earlier.store.1.subset old)

theorem Beside.refl (job : DebounceJobData) (world : World) :
    Beside job world world where
  orderly := id
  store := EventStore.Extends.refl _
  jobs := List.prefix_refl _
  changes := fun _ member _ => member
  foreign := fun _ member => Or.inl member
  actions := fun _ => rfl

theorem Beside.trans (earlier : Beside job first second)
    (later : Beside job second third) : Beside job first third where
  orderly := later.orderly ∘ earlier.orderly
  store := earlier.store.trans later.store
  jobs := earlier.jobs.trans later.jobs
  changes := fun event member confirms =>
    earlier.changes event (later.changes event member confirms) confirms
  foreign := by
    intro added member
    rcases later.foreign added member with old | foreign
    · refine (earlier.foreign added old).imp id ?_
      exact fun foreign event present confirms => foreign event
        (later.changes event present confirms) confirms
    · exact Or.inr foreign
  actions := fun actionId =>
    (later.actions actionId).trans (earlier.actions actionId)

theorem hasJob_mono {jobId : JobId}
    (jobs : first.queues.executions <+: second.queues.executions)
    (has : first.queues.HasJob jobId) : second.queues.HasJob jobId := by
  obtain ⟨added, member, same⟩ := has
  exact ⟨added, jobs.subset member, same⟩

/-- A split of a list splits every beginning of it that is long enough. -/
theorem split_shorter {α : Type} {short prior later : List α} {event : α}
    (isPrefix : short <+: prior ++ event :: later)
    (long : prior.length < short.length) :
    ∃ rest, short = prior ++ event :: rest := by
  have start : prior ++ [event] <+: prior ++ event :: later :=
    ⟨later, by simp⟩
  have within : prior ++ [event] <+: short :=
    List.prefix_of_prefix_length_le start isPrefix
      (by rw [List.length_append, List.length_singleton]; omega)
  obtain ⟨rest, whole⟩ := within
  exact ⟨rest, by rw [← whole]; simp⟩

/-- In a store without repeated ids, an event of an earlier table has its
position there. -/
theorem position_lt {prior later : List StoredEvent} {event : StoredEvent}
    (sequenced : second.store.Sequenced)
    (grows : first.store.events <+: second.store.events)
    (split : second.store.events = prior ++ event :: later)
    (member : event ∈ first.store.events) :
    prior.length < first.store.events.length := by
  by_contra short
  have within : first.store.events <+: prior := by
    refine List.prefix_of_prefix_length_le grows ?_ (by omega)
    rw [split]
    exact List.prefix_append _ _
  have distinct := sequenced.distinct
  rw [split, List.map_append, List.nodup_append] at distinct
  exact distinct.2.2 event.id
    (List.mem_map_of_mem (within.subset member)) event.id (by simp) rfl

/-! ## What is lost stays lost -/

theorem Lost.grown (lost : Lost job initial first)
    (grown : Grown job first second) : Lost job initial second := by
  obtain ⟨prior, event, later, split, start, confirms, actionId, received,
    missing⟩ := lost
  obtain ⟨more, whole⟩ := grown.store.1
  refine ⟨prior, event, later ++ more, ?_, start, confirms, actionId,
    received, ?_⟩
  · rw [← whole, split]
    simp
  · rintro ⟨added, member, same⟩
    rcases grown.foreign added member with old | foreign
    · exact missing ⟨added, old, same⟩
    · exact foreign event (by rw [split]; simp) confirms actionId same

theorem Lost.of_others (lost : Lost job initial second)
    (orderly : Orderly second) (others : Others job first second) :
    Lost job initial first := by
  obtain ⟨prior, event, later, split, start, confirms, actionId, received,
    missing⟩ := lost
  have old := others.changes event (by rw [split]; simp) confirms
  obtain ⟨rest, whole⟩ := split_shorter (split ▸ others.store.1)
    (position_lt orderly.sequenced others.store.1 split old)
  exact ⟨prior, event, rest, whole, start, confirms, actionId, received,
    fun has => missing (hasJob_mono others.jobs has)⟩

/-- What is lost at the end of a delivery was lost before it, or by it. -/
theorem Lost.of_grown (lost : Lost job initial second)
    (grown : Grown job first second) :
    Lost job initial first ∨ Lost job first second := by
  obtain ⟨prior, event, later, split, start, confirms, actionId, received,
    missing⟩ := lost
  by_cases old : prior.length < first.store.events.length
  · left
    obtain ⟨rest, whole⟩ := split_shorter (split ▸ grown.store.1) old
    exact ⟨prior, event, rest, whole, start, confirms, actionId, received,
      fun has => missing (hasJob_mono grown.jobs has)⟩
  · right
    exact ⟨prior, event, later, split, by omega, confirms, actionId,
      received, missing⟩

/-- Under distinct job ids, exactly one is at least one. -/
theorem one_job_iff {jobId : JobId}
    (distinct : (world.queues.executions.map (·.jobId)).Nodup) :
    (world.queues.executions.filter (·.jobId = jobId)).length = 1 ↔
      world.queues.HasJob jobId := by
  have counted : (world.queues.executions.filter (·.jobId = jobId)).length =
      (world.queues.executions.map (·.jobId)).count jobId := by
    rw [List.count, List.countP_map, List.countP_eq_length_filter]
    simp [Function.comp_def, beq_eq_decide]
  have has : world.queues.HasJob jobId ↔
      jobId ∈ world.queues.executions.map (·.jobId) := by
    simp [Queues.HasJob]
  rw [counted, has]
  constructor
  · intro one
    exact List.count_pos_iff.mp (by omega)
  · exact List.count_eq_one_of_mem distinct

theorem everyChangeDelivered_iff (orderly : Orderly world) :
    EveryChangeDelivered job initial world ↔ ¬ Lost job initial world := by
  constructor
  · rintro delivered ⟨prior, event, later, split, start, confirms, actionId,
      received, missing⟩
    exact missing ((one_job_iff orderly.distinct).mp
      (delivered prior event later split start confirms actionId received))
  · intro kept prior event later split start confirms actionId received
    rw [one_job_iff orderly.distinct]
    by_contra missing
    exact kept ⟨prior, event, later, split, start, confirms, actionId,
      received, missing⟩

/-! ## The contract of a delivery -/

def contract (job : DebounceJobData) : Contract backend Err Choice World where
  invariant := Orderly
  rely := Beside job
  guarantee := fun _ _ => True
  allowed := fun _ _ _ _ => True
  reflexive := Beside.refl job
  transitive := fun _ _ _ => Beside.trans

/-- An assertion other parties cannot break. -/
def Stable (job : DebounceJobData) (holds : World → Prop) : Prop :=
  ∀ before after, holds before → Beside job before after → holds after

/-- Calls that change neither the events nor the execution jobs. -/
def Call.quiet (call : Call) : Bool :=
  call.keepsStore && call.keepsExecutions

theorem beside_of_same (store : second.store = first.store)
    (jobs : second.queues.executions = first.queues.executions) :
    Beside job first second where
  orderly := fun orderly =>
    ⟨store ▸ orderly.sequenced, jobs ▸ orderly.distinct⟩
  store := store ▸ EventStore.Extends.refl _
  jobs := jobs ▸ List.prefix_refl _
  changes := fun _ member _ => store ▸ member
  foreign := fun _ member => Or.inl (jobs ▸ member)
  actions := fun _ => by rw [store]

variable {before after : World} {call : Call} {choice : Choice}
variable {answer : Except Err call.Answer} {history : BackendHistory}
variable {holds : World → Prop}

theorem quiet_step (quiet : Call.quiet call = true)
    (orderly : Orderly before)
    (result : semantics call choice before = some (answer, after)) :
    Orderly after ∧ Beside job before after := by
  obtain ⟨keepsStore, keepsExecutions⟩ := Bool.and_eq_true_iff.mp quiet
  have store := store_frame result keepsStore
  have jobs := executions_frame result keepsExecutions
  exact ⟨⟨store ▸ orderly.sequenced, jobs ▸ orderly.distinct⟩,
    beside_of_same store jobs⟩

theorem quiet_spec {α : Type} {program : Backend α}
    (calls : program.Calls fun call => Call.quiet call = true)
    (stable : Stable job holds) (here : holds before) :
    program.Ensures semantics (contract job)
      (ending (fun _ => holds) (fun _ => holds) (fun _ => holds))
      history before :=
  Program.Ensures.frame calls
    (fun _ _ _ here step => stable _ _ here step.2)
    (fun _ _ _ _ _ _ quiet orderly here _ result =>
      have step := quiet_step quiet orderly result
      ⟨⟨step.1, trivial⟩, stable _ _ here step.2⟩)
    here

/-- What a load has read: the stream as it was at some moment of it. -/
structure ReadAt (job : DebounceJobData) (holds : World → Prop)
    (params : ReadStreamParams) (events : List StoredEvent)
    (world read : World) : Prop where
  orderly : Orderly read
  holds : holds read
  since : Beside job read world
  events : events = read.store.readStream params

theorem loadAggregate_spec {State : Type} {params : ReadStreamParams}
    {initialState : State} {reducer : State → StoredEvent → State}
    (stable : Stable job holds) (orderly : Orderly before)
    (here : holds before) :
    (loadAggregate params initialState reducer).Ensures semantics
      (contract job)
      (yielding
        (fun loaded _ world => holds world ∧
          ∃ events read, loaded = replayed initialState reducer events ∧
            ReadAt job holds params events world read)
        (fun _ => holds) (fun _ => holds)) history before := by
  refine Program.Ensures.seq
    (fun events _ world => holds world ∧
      ∃ read, ReadAt job holds params events world read) orderly ?_ ?_
  · refine Backend.call_ensures (.store (.readStream params)) ?_
    intro waited step
    have here := stable _ _ here step.2
    refine ⟨here, ?_⟩
    intro choice answer after _ result
    obtain ⟨orderly, beside⟩ := quiet_step rfl step.1 result
    refine ⟨⟨orderly, trivial⟩, ?_⟩
    intro final later
    have atEnd := stable _ _ (stable _ _ here beside) later.2
    obtain ⟨-, rfl | ⟨-, message, rfl⟩⟩ := readStream_step result
    · exact ⟨atEnd, waited, step.1, here, beside.trans later.2, rfl⟩
    · exact atEnd
  · rintro events history world _ ⟨here, read, readAt⟩
    refine Program.Ensures.done ?_
    intro next step
    exact ⟨stable _ _ here step.2, events, read, rfl, readAt.orderly,
      readAt.holds, readAt.since.trans step.2, readAt.events⟩

/-! ## The fan-out -/

/-- A delivery that began in `start` has appended its `ip_changed` event after
the events `prior`. -/
structure Fanning (job : DebounceJobData) (start : World)
    (prior : List StoredEvent) (event : StoredEvent) (world : World) :
    Prop where
  grown : Grown job start world
  started : start.store.events <+: prior
  inserted : prior ++ [event] <+: world.store.events
  only : ∀ other ∈ world.store.events,
    other.confirms job.ipClientId = true →
      other ∈ start.store.events ∨ other = event
  actions : ∀ actionId, actionIn world.store job.accountId actionId =
    actionIn ⟨prior, 0⟩ job.accountId actionId

variable {start : World} {prior : List StoredEvent} {event : StoredEvent}

theorem Fanning.stable : Stable job (Fanning job start prior event) := by
  intro before after fanning beside
  refine ⟨fanning.grown.trans beside.grown, fanning.started,
    fanning.inserted.trans beside.store.1, ?_, ?_⟩
  · exact fun other member confirms => fanning.only other
      (beside.changes other member confirms) confirms
  · exact fun actionId =>
      (beside.actions actionId).trans (fanning.actions actionId)

/-- The event of the delivery is not one the delivery began with. -/
theorem Fanning.event_new (orderly : Orderly world)
    (fanning : Fanning job start prior event world)
    {other : StoredEvent} (old : other ∈ start.store.events) :
    other.id ≠ event.id := by
  have distinct := (List.IsPrefix.map (·.id) fanning.inserted).sublist.nodup
    orderly.sequenced.distinct
  rw [List.map_append, List.nodup_append] at distinct
  exact distinct.2.2 other.id
    (List.mem_map_of_mem (fanning.started.subset old)) event.id (by simp)

/-- The jobs of the delivery's event for these actions are in the queue. -/
def Handled (job : DebounceJobData) (prior : List StoredEvent)
    (event : StoredEvent) (actionIds : List Id) (world : World) : Prop :=
  ∀ actionId ∈ actionIds, ReceivedAt job prior actionId →
    world.queues.HasJob (.exec event.id actionId)

/-- The fan-out after some of its passes. -/
structure FannedTo (job : DebounceJobData) (start : World)
    (prior : List StoredEvent) (event : StoredEvent) (actionIds : List Id)
    (world : World) : Prop where
  fanning : Fanning job start prior event world
  handled : Handled job prior event actionIds world

theorem FannedTo.stable {actionIds : List Id} :
    Stable job (FannedTo job start prior event actionIds) := by
  intro before after fanned beside
  exact ⟨fanned.fanning.stable _ _ beside, fun actionId member received =>
    hasJob_mono beside.jobs (fanned.handled actionId member received)⟩

/-- An action that has no events receives nothing. -/
theorem not_receives_initial (ipClientId : Id) :
    initialActionState.receives ipClientId = false := by
  simp [ActionState.receives, initialActionState]

/-- The listing names every action that received executions. -/
theorem mem_listAggregateIds_of_received {actionId : Id} {rows : List Id}
    (actions : actionIn world.store job.accountId actionId =
      actionIn ⟨prior, 0⟩ job.accountId actionId)
    (received : ReceivedAt job prior actionId) :
    actionId ∈ world.store.listAggregateIds job.accountId .action rows := by
  by_contra unlisted
  rw [ReceivedAt, ← actions, actionIn_unlisted unlisted,
    not_receives_initial] at received
  cases received

/-- Adding a job of the delivery's event. -/
theorem FannedTo.added {actionIds : List Id} {actionId : Id}
    {data : ActionExecutionJobData} {elapsed : Nat}
    (orderly : Orderly before)
    (fanned : FannedTo job start prior event actionIds before)
    (adding : after = { before.elapse elapsed with
      queues := before.queues.addExecution
        ⟨.exec event.id actionId, data⟩ }) :
    Orderly after ∧
      FannedTo job start prior event (actionId :: actionIds) after := by
  subst adding
  have longer := before.queues.addExecution_prefix
    ⟨.exec event.id actionId, data⟩
  have fanning := fanned.fanning
  refine ⟨⟨orderly.sequenced,
    Queues.addExecution_distinct orderly.distinct _⟩, ⟨⟨?_, ?_, ?_⟩,
      fanning.started, fanning.inserted, fanning.only, fanning.actions⟩, ?_⟩
  · exact fanning.grown.store
  · exact fanning.grown.jobs.trans longer
  · intro added member
    rcases Queues.mem_addExecution member with old | new
    · exact fanning.grown.foreign added old
    · right
      intro other old _ otherAction same
      rw [new, JobId.exec.injEq] at same
      exact fanning.event_new orderly old same.1.symm
  · intro other member received
    rcases List.mem_cons.mp member with rfl | old
    · exact Queues.addExecution_hasJob _ _
    · exact hasJob_mono longer (fanned.handled other old received)

/-- The parameters a delivery hands to the fan-out. -/
def Params (job : DebounceJobData) (event : StoredEvent)
    (params : FanOutParams) : Prop :=
  params.accountId = job.accountId ∧ params.ipClientId = job.ipClientId ∧
    params.causationEventId = event.id

theorem fanOutTo_spec {params : FanOutParams} {actionIds : List Id}
    {actionId : Id} (same : Params job event params)
    (orderly : Orderly before)
    (fanned : FannedTo job start prior event actionIds before) :
    (fanOutTo params actionId).Ensures semantics (contract job)
      (ending
        (fun _ => FannedTo job start prior event (actionId :: actionIds))
        (fun _ => Grown job start) (fun _ => Grown job start))
      history before := by
  obtain ⟨accountId, ipClientId, causationEventId, triggeredBy, ipValues⟩ :=
    params
  obtain ⟨rfl, rfl, rfl⟩ := same
  have grown : ∀ (history : BackendHistory) world,
      FannedTo job start prior event actionIds world →
      Grown job start world :=
    fun _ _ fanned => fanned.fanning.grown
  unfold fanOutTo
  refine Program.Ensures.seq _ orderly
    ((loadAggregate_spec FannedTo.stable orderly fanned).relax
      (fun _ _ _ => id) grown grown) ?_
  rintro loaded history world orderly ⟨fanned, events, read, rfl, readAt⟩
  have state : (replayed initialActionState actionReducer events).state =
      actionIn ⟨prior, 0⟩ job.accountId actionId := by
    rw [readAt.events]
    exact readAt.holds.fanning.actions actionId
  split
  · refine Program.Ensures.seq
      (fun _ _ => FannedTo job start prior event actionIds) orderly
      ((quiet_spec ((Backend.calls_call _).mpr rfl) FannedTo.stable
        fanned).weaken (fun _ _ => id) grown grown) ?_
    intro executionId history world orderly fanned
    refine Backend.call_ensures (.queue (.addExecution _ _)) ?_
    intro waited step
    have fanned := fanned.stable _ _ step.2
    refine ⟨fanned.fanning.grown, ?_⟩
    intro choice answer after _ result
    rcases addExecution_step result with
      ⟨adding, rfl | ⟨message, rfl⟩⟩ | ⟨rfl, message, rfl⟩
    · have added := fanned.added step.1 adding
      exact ⟨⟨added.1, trivial⟩,
        fun final later => added.2.stable _ _ later.2⟩
    · have added := fanned.added step.1 adding
      exact ⟨⟨added.1, trivial⟩, fun final later =>
        (added.2.stable _ _ later.2).fanning.grown⟩
    · have quiet : Beside job waited (waited.elapse choice.elapsed) :=
        beside_of_same rfl rfl
      exact ⟨⟨⟨step.1.sequenced, step.1.distinct⟩, trivial⟩,
        fun final later =>
          (fanned.stable _ _ (quiet.trans later.2)).fanning.grown⟩
  · rename_i skipped
    refine Program.Ensures.done ?_
    intro next step
    have fanned := fanned.stable _ _ step.2
    refine ⟨fanned.fanning, ?_⟩
    intro other member received
    rcases List.mem_cons.mp member with rfl | old
    · rw [ReceivedAt, ← state] at received
      exact absurd received skipped
    · exact fanned.handled other old received

theorem fanOutToAll_spec {params : FanOutParams} {actionIds done : List Id}
    (same : Params job event params) (orderly : Orderly before)
    (fanned : FannedTo job start prior event done before) :
    (fanOutToAll params actionIds).Ensures semantics (contract job)
      (ending
        (fun _ => FannedTo job start prior event (actionIds.reverse ++ done))
        (fun _ => Grown job start) (fun _ => Grown job start))
      history before := by
  induction actionIds generalizing done history before with
  | nil =>
      exact Program.Ensures.done fun _ step => fanned.stable _ _ step.2
  | cons actionId actionIds ih =>
      unfold fanOutToAll
      refine Program.Ensures.seq _ orderly
        (fanOutTo_spec same orderly fanned) ?_
      intro _ history world orderly fanned
      rw [List.reverse_cons, List.append_assoc]
      exact ih orderly fanned

/-- The fan-out of a delivery adds every job its event needs. -/
theorem fanOutActionExecutions_spec {params : FanOutParams}
    (same : Params job event params) (orderly : Orderly before)
    (fanning : Fanning job start prior event before) :
    (fanOutActionExecutions params).Ensures semantics (contract job)
      (ending
        (fun _ world => Fanning job start prior event world ∧
          ∀ actionId, ReceivedAt job prior actionId →
            world.queues.HasJob (.exec event.id actionId))
        (fun _ => Grown job start) (fun _ => Grown job start))
      history before := by
  unfold fanOutActionExecutions
  refine Program.Ensures.seq
    (fun actionIds _ world => Fanning job start prior event world ∧
      ∀ actionId, ReceivedAt job prior actionId → actionId ∈ actionIds)
    orderly ?_ ?_
  · refine Backend.call_ensures (.store (.listAggregateIds _ _)) ?_
    intro waited step
    have fanning := fanning.stable _ _ step.2
    refine ⟨fanning.grown, ?_⟩
    intro choice answer after _ result
    obtain ⟨orderly, beside⟩ := quiet_step rfl step.1 result
    refine ⟨⟨orderly, trivial⟩, ?_⟩
    intro final later
    have atEnd := (fanning.stable _ _ beside).stable _ _ later.2
    obtain ⟨-, rfl | ⟨message, rfl⟩⟩ := listAggregateIds_step result
    · refine ⟨atEnd, fun actionId received => ?_⟩
      rw [same.1]
      exact mem_listAggregateIds_of_received (fanning.actions actionId)
        received
    · exact atEnd.grown
  · rintro actionIds history world orderly ⟨fanning, named⟩
    have begun : FannedTo job start prior event [] world :=
      ⟨fanning, fun _ member => (List.not_mem_nil member).elim⟩
    refine (fanOutToAll_spec same orderly begun).weaken ?_
      (fun _ _ => id) (fun _ _ => id)
    intro _ world fanned
    refine ⟨fanned.fanning, fun actionId received =>
      fanned.handled actionId ?_ received⟩
    simpa using named actionId received

/-! ## The delivery -/

theorem not_lost_self (job : DebounceJobData) (world : World) :
    ¬ Lost job world world := by
  rintro ⟨prior, event, later, split, start, -⟩
  have := congrArg List.length split
  simp only [List.length_append, List.length_cons] at this
  omega

/-- A delivery that confirms nothing loses nothing. -/
theorem Beside.not_lost (beside : Beside job start world)
    (orderly : Orderly world) : ¬ Lost job start world :=
  fun lost => not_lost_self job start (lost.of_others orderly beside.toOthers)

/-- A delivery whose fan-out is complete loses nothing. -/
theorem Fanning.not_lost (orderly : Orderly world)
    (fanning : Fanning job start prior event world)
    (complete : ∀ actionId, ReceivedAt job prior actionId →
      world.queues.HasJob (.exec event.id actionId)) :
    ¬ Lost job start world := by
  rintro ⟨prior', event', later, split, began, confirms, actionId, received,
    missing⟩
  have member : event' ∈ world.store.events := by rw [split]; simp
  rcases fanning.only event' member confirms with old | rfl
  · have := position_lt orderly.sequenced fanning.grown.store.1 split old
    omega
  · -- an event occurs once, so both splits are at the same position
    obtain ⟨rest, whole⟩ := fanning.inserted
    rw [List.append_assoc, List.singleton_append, split] at whole
    have distinct := orderly.sequenced.distinct.of_map
    rw [split, List.nodup_append, List.nodup_cons] at distinct
    have samePosition := (List.append_cons_inj_of_notMem
      (fun before => distinct.2.2 _ before _ (by simp) rfl)
      distinct.2.1.1).mp whole.symm
    exact missing (complete actionId (samePosition.1 ▸ received))

/-- The append of `ip_changed`: acknowledged, the fan-out begins. -/
theorem Beside.confirmed {read : World} {change : IpClientIpChangedData}
    {inserted : StoredEvent} {store : EventStore} {elapsed : Nat}
    {version : Nat}
    (beside : Beside job start before) (orderly : Orderly before)
    (orderlyRead : Orderly read) (since : Beside job read before)
    (position : version = (read.store.readStream
      ⟨job.accountId, .ipClient, job.ipClientId⟩).length)
    (appended : before.store.append (ipChangedInput job version change) =
      (.ok inserted, store))
    (same : after = { before.elapse elapsed with store }) :
    Orderly after ∧
      Fanning job start before.store.events inserted after := by
  subst same
  have sequenced : store.Sequenced :=
    EventStore.Sequenced.append_loaded
      ⟨job.accountId, .ipClient, job.ipClientId⟩ orderly.sequenced
      orderlyRead.sequenced since.store rfl rfl rfl
      (by rw [← position]; rfl) appended
  have otherStreams : ∀ actionId, store.stream .action actionId =
      before.store.stream .action actionId :=
    fun actionId => EventStore.append_stream_other appended (by
      rintro ⟨impossible, -⟩
      cases impossible)
  have grown := beside.grown
  refine ⟨⟨sequenced, orderly.distinct⟩, ⟨?_, grown.jobs, grown.foreign⟩,
    grown.store.1, ?_, ?_, ?_⟩
  · exact grown.store.trans (EventStore.append_extends appended)
  · rcases EventStore.append_cases appended with
      ⟨event, same, -, -, -, -, -, -, -, rfl⟩ | ⟨conflict, -⟩
    · cases same
      exact List.prefix_refl _
    · cases conflict
  · intro other member confirms
    rcases EventStore.append_cases appended with
      ⟨event, same, -, -, -, -, -, -, -, rfl⟩ | ⟨conflict, -⟩
    · cases same
      rcases List.mem_append.mp member with old | new
      · exact Or.inl (beside.changes other old confirms)
      · exact Or.inr (List.mem_singleton.mp new)
    · cases conflict
  · intro actionId
    simp only [actionIn, EventStore.readStream, otherStreams]
    rfl

theorem upsertIpClientProjection_quiet (accountId : Id)
    (state : IpClientState) :
    (upsertIpClientProjection accountId state).Calls
      fun call => Call.quiet call = true := by
  unfold upsertIpClientProjection
  split
  · trivial
  · split <;> exact (Backend.calls_call _).mpr rfl

theorem quiet_of_reads {call : Call} (reads : Backend.reads call = true) :
    Call.quiet call = true := by
  cases call with
  | store call => cases call <;> first | rfl | cases reads
  | _ => cases reads

theorem scheduleSnapshots_quiet (accountId ipClientId causationId : Id) :
    (scheduleSnapshots accountId ipClientId causationId).Calls
      fun call => Call.quiet call = true := by
  apply Program.Calls.bind
  · exact (providersOfDevice_reads accountId ipClientId).mono
      fun _ => quiet_of_reads
  · intro providerIds
    unfold Program.onlyIf
    split
    · exact (Backend.calls_call _).mpr rfl
    · trivial

/-- How a delivery that began in `start` ends: it has grown the world, and if
it returned, nothing is lost. -/
abbrev deliveryEnding (job : DebounceJobData) (start : World) :
    BackendHistory → Outcome Err Unit → World → Prop :=
  ending (fun _ world => Grown job start world ∧ ¬ Lost job start world)
    (fun _ => Grown job start) (fun _ => Grown job start)

theorem publishChange_spec {deps : DebounceWorkerDeps}
    {state : IpClientState} {change : IpClientIpChangedData}
    (orderly : Orderly before)
    (fanning : Fanning job start prior event before) :
    (publishChange deps job state change event).Ensures semantics
      (contract job) (deliveryEnding job start) history before := by
  have grown : ∀ (history : BackendHistory) world,
      Fanning job start prior event world → Grown job start world :=
    fun _ _ fanning => fanning.grown
  unfold publishChange
  refine Program.Ensures.seq _ orderly
    ((quiet_spec (upsertIpClientProjection_quiet _ _) Fanning.stable
      fanning).weaken (fun _ _ => id) grown grown) ?_
  intro _ history world orderly fanning
  refine Program.Ensures.seq
    (fun _ _ => Fanning job start prior event) orderly ?_ ?_
  · unfold Program.onlyIf
    split
    · exact (quiet_spec (scheduleSnapshots_quiet _ _ _) Fanning.stable
        fanning).weaken (fun _ _ => id) grown grown
    · exact Program.Ensures.done fun _ step => fanning.stable _ _ step.2
  intro _ history world orderly fanning
  refine (fanOutActionExecutions_spec ⟨rfl, rfl, rfl⟩ orderly
    fanning).keeping.mono ?_
  rintro history outcome final ⟨orderly, atEnd⟩
  cases outcome with
  | returned value =>
      exact ⟨atEnd.1.grown, atEnd.1.not_lost orderly atEnd.2⟩
  | threw error => exact atEnd
  | cut => exact atEnd

theorem settle_spec {deps : DebounceWorkerDeps} (orderly : Orderly before) :
    (settle deps job).Ensures semantics (contract job)
      (deliveryEnding job before) history before := by
  have stable : Stable job (Beside job before) :=
    fun _ _ earlier later => earlier.trans later
  have grown : ∀ (history : BackendHistory) world, Beside job before world →
      Grown job before world := fun _ _ beside => beside.toOthers.grown
  unfold settle
  refine Program.Ensures.seq _ orderly
    ((loadAggregate_spec stable orderly (Beside.refl job before)).relax
      (fun _ _ _ => id) grown grown) ?_
  rintro loaded history world orderly ⟨beside, events, read, rfl, readAt⟩
  split
  · refine (quiet_spec (Program.calls_done ()) stable
      beside).keeping.mono ?_
    rintro history outcome final ⟨orderly, atEnd⟩
    cases outcome with
    | returned value => exact ⟨atEnd.toOthers.grown, atEnd.not_lost orderly⟩
    | threw error => exact atEnd.toOthers.grown
    | cut => exact atEnd.toOthers.grown
  · rename_i change _
    unfold confirmChange
    refine Program.Ensures.seq
      (fun causationEvent _ world =>
        ∃ prior, Fanning job before prior causationEvent world)
      orderly ?_ ?_
    · refine Backend.call_ensures (.store (.append _)) ?_
      intro waited step
      have besideNow := beside.trans step.2
      refine ⟨besideNow.toOthers.grown, ?_⟩
      intro choice answer after _ result
      rcases append_step result with
        ⟨inserted, store, appended, same, ends⟩ | ⟨rfl, error, rfl, -⟩
      · obtain ⟨orderly, fanning⟩ := besideNow.confirmed step.1
          readAt.orderly (readAt.since.trans step.2)
          (by rw [readAt.events]; rfl) appended same
        refine ⟨⟨orderly, trivial⟩, ?_⟩
        intro final later
        have fanning := fanning.stable _ _ later.2
        rcases ends with ⟨rfl, -⟩ | ⟨message, -, rfl⟩
        · exact ⟨_, fanning⟩
        · exact fanning.grown
      · have quiet : Beside job waited (waited.elapse choice.elapsed) :=
          beside_of_same rfl rfl
        exact ⟨⟨⟨step.1.sequenced, step.1.distinct⟩, trivial⟩,
          fun final later =>
            (besideNow.trans (quiet.trans later.2)).toOthers.grown⟩
    · rintro causationEvent history world orderly ⟨prior, fanning⟩
      exact publishChange_spec orderly fanning

/-- How one delivery ends. -/
theorem delivery_ends {deps : DebounceWorkerDeps} {lastHistory : BackendHistory}
    {outcome : Outcome Err Unit} (orderly : Orderly first)
    (execution : Execution semantics (Beside job) (fun _ _ _ _ => True) []
      (settle deps job) first lastHistory outcome second) :
    Orderly second ∧ Grown job first second ∧
      ∀ value, outcome = .returned value → ¬ Lost job first second := by
  have atEnd := (settle_spec orderly).keeping.sound
    (fun _ _ orderly beside => ⟨beside.orderly orderly, beside⟩) orderly
    execution
  cases outcome with
  | returned value => exact ⟨atEnd.1, atEnd.2.1, fun _ _ => atEnd.2.2⟩
  | threw error =>
      exact ⟨atEnd.1, atEnd.2, fun _ impossible => by cases impossible⟩
  | cut => exact ⟨atEnd.1, atEnd.2, fun _ impossible => by cases impossible⟩

theorem Run.orderly {deliveries : List Delivered} (start : Orderly initial)
    (run : Run job initial deliveries world) : Orderly world := by
  induction run with
  | start => exact start
  | others _ others ih => exact others.orderly ih
  | delivery _ execution ih => exact (delivery_ends ih execution).1

theorem Run.extends {deliveries : List Delivered} (start : Orderly initial)
    (run : Run job initial deliveries world) :
    initial.store.Extends world.store := by
  induction run with
  | start => exact EventStore.Extends.refl _
  | others _ others ih => exact ih.trans others.store
  | delivery run execution ih =>
      exact ih.trans (delivery_ends (run.orderly start) execution).2.1.store

/-- A job is lost by a run exactly when a strike of one of its deliveries
lost it. -/
theorem Run.lost_iff {deliveries : List Delivered} (start : Orderly initial)
    (run : Run job initial deliveries world) :
    Lost job initial world ↔
      ∃ delivered ∈ deliveries, delivered.Struck job := by
  induction run with
  | start =>
      constructor
      · exact fun lost => absurd lost (not_lost_self job initial)
      · rintro ⟨delivered, member, -⟩
        exact (List.not_mem_nil member).elim
  | others run others ih =>
      rw [← ih]
      exact ⟨fun lost =>
          lost.of_others (others.orderly (run.orderly start)) others,
        fun lost => lost.grown others.grown⟩
  | @delivery deliveries deps world next history outcome run execution ih =>
      obtain ⟨-, grown, complete⟩ :=
        delivery_ends (run.orderly start) execution
      constructor
      · intro lost
        rcases lost.of_grown grown with earlier | here
        · obtain ⟨delivered, member, struck⟩ := ih.mp earlier
          exact ⟨delivered, List.mem_append_left _ member, struck⟩
        · exact ⟨_, List.mem_append_right _ (List.mem_singleton_self _),
            fun value returned => complete value returned here, here⟩
      · rintro ⟨delivered, member, struck⟩
        rcases List.mem_append.mp member with earlier | here
        · exact (ih.mpr ⟨delivered, earlier, struck⟩).grown grown
        · rw [List.mem_singleton] at here
          subst here
          obtain ⟨prior, event, later, split, began, rest⟩ := struck.2
          have longer := (run.extends start).1.length_le
          exact ⟨prior, event, later, split, longer.trans began, rest⟩

end SettlementDelivery

namespace SettlementDelivery

/-- An account with one client that has reported an address, and one DNS
action attached to it. -/
def exampleStore : EventStore :=
  EventStore.recorded 1
    [(.ipClient, 20, .ipClient (.registered 20 1 "router" "hash" 0)),
     (.action, 10, .action (.attached
        { actionId := 10
          accountId := 1
          ipClientId := 20
          type := .hetznerCloudDnsUpdate
          addressFamilies := [.ipv4]
          config := .dns ⟨30, some "example.com", some "home"⟩
          attachedAt := 0 })),
     (.ipClient, 20, .ipClient (.ipReportReceived
        { reportedIPv4 := some "192.0.2.7"
          reportedIPv6 := none
          receivedAt := 1 }))]

def exampleWorld : World where
  store := exampleStore

def exampleJob : DebounceJobData where
  ipClientId := 20
  accountId := 1

def exampleDeps : DebounceWorkerDeps where
  snapshots := true
  settledAt := 2

theorem exampleWorld_orderly : Orderly exampleWorld :=
  ⟨EventStore.recorded_sequenced 1 _, List.nodup_nil⟩

/-- One delivery under these choices, with no other party about. -/
def delivered (choices : List Choice) (before : World) : Delivered :=
  let result := (settle exampleDeps exampleJob).run semantics choices before
  ⟨before, result.1, result.2⟩

theorem Run.delivered {deliveries : List Delivered}
    (run : Run exampleJob initial deliveries world) (choices : List Choice) :
    Run exampleJob initial
      (deliveries ++ [SettlementDelivery.delivered choices world])
      (SettlementDelivery.delivered choices world).after := by
  obtain ⟨history, execution⟩ := Program.run_execution semantics
    (Beside.refl exampleJob) (settle exampleDeps exampleJob) choices world []
    (fun _ _ _ _ _ => trivial)
  exact run.delivery execution

end SettlementDelivery

end FluxIP
