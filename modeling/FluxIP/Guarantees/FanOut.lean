import FluxIP.Adapters.DebounceWorker
import FluxIP.Adapters.Folds
import FluxIP.Adapters.Steps
import FluxIP.Async.Pool

/-!
# The jobs a fan-out leaves in the queue

A fan-out for one event may run any number of times, one after the other, at the
same time, and to any point.  The id of a job follows from the event and the
action, so once a run has completed, the queue holds one job for each action
that receives executions, and no others of the event.
-/

namespace FluxIP

open Async

namespace EventStore

variable {store next : EventStore} {params : ReadStreamParams}

/-- An insertion leaves the streams of other types and accounts alone. -/
theorem append_readStream_other {input : AppendEventInput}
    {answer : Except Err StoredEvent}
    (appended : store.append input = (answer, next))
    (other : ¬ (input.aggregateType = params.aggregateType ∧
      input.accountId = params.accountId)) :
    next.readStream params = store.readStream params := by
  rcases append_cases appended with inserted | refused
  · obtain ⟨event, -, sameType, -, -, sameAccount, -, -, -, rfl⟩ := inserted
    unfold readStream
    rw [stream_append_event, List.filter_append]
    have apart : (if event.isOf params.aggregateType params.aggregateId = true
        then [event] else []).filter (·.accountId = params.accountId) = [] := by
      apply List.filter_eq_nil_iff.mpr
      intro found member
      split at member
      · rename_i isOf
        rw [List.mem_singleton.mp member]
        intro own
        exact other ⟨sameType.symm.trans (isOf_iff.mp isOf).1,
          sameAccount.symm.trans (of_decide_eq_true own)⟩
      · cases member
    rw [apart, List.append_nil]
  · obtain ⟨-, rfl⟩ := refused
    rfl

theorem deleteAccount_readStream_other {accountId : Id}
    (other : accountId ≠ params.accountId) :
    (store.deleteAccount accountId).readStream params =
      store.readStream params := by
  unfold readStream stream deleteAccount
  simp only [List.filter_filter]
  congr 1
  apply List.filter_congr
  intro event _
  by_cases own : event.accountId = params.accountId
  · simp [own, Ne.symm other]
  · simp [own]

end EventStore

namespace FanOut

/-! ## The jobs of an event -/

/-- The id names the event. -/
def isCausedBy (causationEventId : Id) : JobId → Bool
  | .exec cause _ => cause = causationEventId
  | .manual _ => false

/-- The job is one of the event, by its id or by its data. -/
def isFor (causationEventId : Id) (job : ExecutionJob) : Bool :=
  isCausedBy causationEventId job.jobId ||
    job.data.causationEventId = causationEventId

def jobsFor (causationEventId : Id) (queues : Queues) : List ExecutionJob :=
  queues.executions.filter (isFor causationEventId)

/-- The job a fan-out adds for an action, under an id it has drawn. -/
def jobFor (params : FanOutParams) (actionId executionId : Id) :
    ExecutionJob where
  jobId := .exec params.causationEventId actionId
  data :=
    { accountId := params.accountId
      executionId
      actionId
      ipClientId := params.ipClientId
      causationEventId := params.causationEventId
      triggeredBy := params.triggeredBy
      ipValues := params.ipValues }

/-- At the beginning the action is attached to the device, enabled, and run as
an execution. -/
def Receives (params : FanOutParams) (start : EventStore) (actionId : Id) :
    Prop :=
  (actionIn start params.accountId actionId).receives params.ipClientId = true

/-! ## The invariant -/

variable {params : FanOutParams} {start : EventStore}
variable {known : ExecutionJob → Prop} {before after world : World}

/-- The actions are those of the beginning, and the jobs of the event are some
of those it needs, each once; any other job is `known`. -/
structure Exact (params : FanOutParams) (start : EventStore)
    (known : ExecutionJob → Prop) (world : World) : Prop where
  actions : ∀ actionId,
    world.store.readStream ⟨params.accountId, .action, actionId⟩ =
      start.readStream ⟨params.accountId, .action, actionId⟩
  distinct : ((jobsFor params.causationEventId world.queues).map
    (·.jobId)).Nodup
  jobs : ∀ job ∈ jobsFor params.causationEventId world.queues,
    ∃ actionId executionId, job = jobFor params actionId executionId ∧
      Receives params start actionId
  others : ∀ job ∈ world.queues.executions,
    isFor params.causationEventId job = false → known job

/-- The jobs of the event stay in the queue. -/
def Keeps (params : FanOutParams) (before after : World) : Prop :=
  ∀ actionId,
    before.queues.HasJob (.exec params.causationEventId actionId) →
    after.queues.HasJob (.exec params.causationEventId actionId)

/-- What the runs of a fan-out and the programs beside them owe each other. -/
def contract (params : FanOutParams) (start : EventStore)
    (known : ExecutionJob → Prop) : Contract backend Err Choice World where
  invariant := Exact params start known
  rely := Keeps params
  guarantee := Keeps params
  allowed := fun _ _ _ _ => True
  reflexive := fun _ _ has => has
  transitive := fun _ _ _ first second actionId has =>
    second actionId (first actionId has)

theorem Keeps.of_subset
    (jobs : before.queues.executions ⊆ after.queues.executions) :
    Keeps params before after := by
  intro actionId has
  obtain ⟨job, member, same⟩ := has
  exact ⟨job, jobs member, same⟩

/-- The same jobs, and the actions of the beginning. -/
theorem Exact.of_same (exact : Exact params start known before)
    (sameActions : ∀ actionId,
      after.store.readStream ⟨params.accountId, .action, actionId⟩ =
        before.store.readStream ⟨params.accountId, .action, actionId⟩)
    (sameJobs : after.queues.executions = before.queues.executions) :
    Exact params start known after := by
  have sameFor : jobsFor params.causationEventId after.queues =
      jobsFor params.causationEventId before.queues := by
    unfold jobsFor
    rw [sameJobs]
  constructor
  · exact fun actionId => (sameActions actionId).trans (exact.actions actionId)
  · rw [sameFor]
    exact exact.distinct
  · rw [sameFor]
    exact exact.jobs
  · rw [sameJobs]
    exact exact.others

theorem isFor_jobFor (actionId executionId : Id) :
    isFor params.causationEventId (jobFor params actionId executionId) =
      true := by
  simp [isFor, jobFor]

/-- Adding a job adds it at the end, or nothing if its id is known. -/
theorem addExecution_cases (queues : Queues) (job : ExecutionJob) :
    queues.addExecution job = queues ∨
      ¬ queues.HasJob job.jobId ∧
        (queues.addExecution job).executions = queues.executions ++ [job] := by
  unfold Queues.addExecution Queues.HasJob
  split
  · exact .inl rfl
  · rename_i absent
    refine .inr ⟨?_, rfl⟩
    simpa using absent

/-- A run adds the job of an action that receives it. -/
theorem Exact.adds {actionId executionId : Id}
    (exact : Exact params start known before)
    (receives : Receives params start actionId)
    (sameStore : after.store = before.store)
    (adding : after.queues =
      before.queues.addExecution (jobFor params actionId executionId)) :
    Exact params start known after := by
  have sameActions : ∀ actionId,
      after.store.readStream ⟨params.accountId, .action, actionId⟩ =
        before.store.readStream ⟨params.accountId, .action, actionId⟩ := by
    intro actionId
    rw [sameStore]
  rcases addExecution_cases before.queues
    (jobFor params actionId executionId) with same | more
  · exact exact.of_same sameActions (by rw [adding, same])
  · obtain ⟨fresh, longer⟩ := more
    have jobs : after.queues.executions = before.queues.executions ++
        [jobFor params actionId executionId] := by rw [adding, longer]
    have oneMore : jobsFor params.causationEventId after.queues =
        jobsFor params.causationEventId before.queues ++
          [jobFor params actionId executionId] := by
      unfold jobsFor
      rw [jobs, List.filter_append,
        List.filter_cons_of_pos (isFor_jobFor actionId executionId)]
      rfl
    constructor
    · exact fun other => (sameActions other).trans (exact.actions other)
    · rw [oneMore, List.map_append]
      refine List.nodup_append.mpr
        ⟨exact.distinct, List.nodup_singleton _, ?_⟩
      intro jobId present other isNew same
      obtain ⟨job, member, isJob⟩ := List.mem_map.mp present
      refine fresh ⟨job, (List.mem_filter.mp member).1, ?_⟩
      rw [isJob, same]
      exact List.mem_singleton.mp isNew
    · rw [oneMore]
      intro job member
      rcases List.mem_append.mp member with old | new
      · exact exact.jobs job old
      · exact ⟨actionId, executionId, List.mem_singleton.mp new, receives⟩
    · rw [jobs]
      intro job member notFor
      rcases List.mem_append.mp member with old | new
      · exact exact.others job old notFor
      · rw [List.mem_singleton.mp new, isFor_jobFor] at notFor
        cases notFor

/-! ## What runs beside -/

/-- The call changes no action of the account and no job of the event; the jobs
it adds are known. -/
def Spares (params : FanOutParams) (known : ExecutionJob → Prop) :
    Call → Prop
  | .store (.append input) =>
      ¬ (input.aggregateType = .action ∧ input.accountId = params.accountId)
  | .store (.deleteAccount accountId) => accountId ≠ params.accountId
  | .queue (.addExecution jobId data) =>
      isFor params.causationEventId ⟨jobId, data⟩ = false ∧ known ⟨jobId, data⟩
  | .queue (.removeExecution jobId) =>
      isCausedBy params.causationEventId jobId = false
  | _ => True

theorem Spares.mono {weaker : ExecutionJob → Prop} {call : Call}
    (spares : Spares params known call)
    (implies : ∀ job, known job → weaker job) : Spares params weaker call := by
  cases call with
  | store call =>
      cases call with
      | append input => exact spares
      | deleteAccount accountId => exact spares
      | _ => trivial
  | queue call =>
      cases call with
      | addExecution jobId data => exact ⟨spares.1, implies _ spares.2⟩
      | removeExecution jobId => exact spares
      | _ => trivial
  | _ => trivial

variable {call : Call} {choice : Choice} {answer : Except Err call.Answer}

theorem step_of_same (exact : Exact params start known before)
    (sameActions : ∀ actionId,
      after.store.readStream ⟨params.accountId, .action, actionId⟩ =
        before.store.readStream ⟨params.accountId, .action, actionId⟩)
    (sameJobs : after.queues.executions = before.queues.executions) :
    (contract params start known).Own before after :=
  ⟨exact.of_same sameActions sameJobs,
    .of_subset (sameJobs ▸ List.Subset.refl _)⟩

theorem quiet_step (exact : Exact params start known before)
    (keepsStore : call.keepsStore = true)
    (keepsExecutions : call.keepsExecutions = true)
    (result : semantics call choice before = some (answer, after)) :
    (contract params start known).Own before after := by
  refine step_of_same exact ?_ (executions_frame result keepsExecutions)
  intro actionId
  rw [store_frame result keepsStore]

/-- The jobs of the event stay, those that are not of it are known. -/
theorem Exact.of_jobsFor (exact : Exact params start known before)
    (sameStore : after.store = before.store)
    (sameFor : jobsFor params.causationEventId after.queues =
      jobsFor params.causationEventId before.queues)
    (others : ∀ job ∈ after.queues.executions,
      isFor params.causationEventId job = false → known job) :
    (contract params start known).Own before after := by
  refine ⟨⟨?_, sameFor ▸ exact.distinct, sameFor ▸ exact.jobs, others⟩, ?_⟩
  · intro actionId
    rw [sameStore]
    exact exact.actions actionId
  · intro actionId has
    obtain ⟨job, member, same⟩ := has
    have isJob : job ∈ jobsFor params.causationEventId before.queues := by
      refine List.mem_filter.mpr ⟨member, ?_⟩
      simp [isFor, isCausedBy, same]
    rw [← sameFor] at isJob
    exact ⟨job, (List.mem_filter.mp isJob).1, same⟩

/-- A job that is not one of the event. -/
theorem Exact.adds_other {job : ExecutionJob}
    (exact : Exact params start known before)
    (notFor : isFor params.causationEventId job = false) (isKnown : known job)
    (sameStore : after.store = before.store)
    (adding : after.queues = before.queues.addExecution job) :
    (contract params start known).Own before after := by
  rcases addExecution_cases before.queues job with same | more
  · refine step_of_same exact ?_ (by rw [adding, same])
    intro actionId
    rw [sameStore]
  · have jobs : after.queues.executions =
        before.queues.executions ++ [job] := by rw [adding, more.2]
    apply exact.of_jobsFor sameStore
    · unfold jobsFor
      rw [jobs, List.filter_append,
        List.filter_cons_of_neg (Bool.eq_false_iff.mp notFor)]
      exact List.append_nil _
    · rw [jobs]
      intro other member isOther
      rcases List.mem_append.mp member with old | new
      · exact exact.others other old isOther
      · rw [List.mem_singleton.mp new]
        exact isKnown

/-- Every job of the event has an id that names it. -/
theorem Exact.removes {jobId : JobId}
    (exact : Exact params start known before)
    (notFor : isCausedBy params.causationEventId jobId = false)
    (sameStore : after.store = before.store)
    (removing : after.queues = before.queues.removeExecution jobId) :
    (contract params start known).Own before after := by
  apply exact.of_jobsFor sameStore
  · unfold jobsFor
    rw [removing, Queues.removeExecution, List.filter_filter]
    apply List.filter_congr
    intro job member
    cases isJob : isFor params.causationEventId job with
    | false => rfl
    | true =>
        obtain ⟨actionId, executionId, rfl, -⟩ := exact.jobs job
          (List.mem_filter.mpr ⟨member, isJob⟩)
        have different : (jobFor params actionId executionId).jobId ≠
            jobId := by
          intro same
          rw [← same] at notFor
          simp [isCausedBy, jobFor] at notFor
        simp [different]
  · rw [removing]
    intro job member isOther
    exact exact.others job (List.mem_filter.mp member).1 isOther

theorem removeExecution_step {jobId : JobId} {answer : Except Err Unit}
    (result : semantics (.queue (.removeExecution jobId)) choice before =
      some (answer, after)) :
    (after.store = before.store ∧
      after.queues = before.queues.removeExecution jobId) ∨
    after = before.elapse choice.elapsed := by
  rcases outside_cases (Option.some.inj result) with
    ⟨-, effect⟩ | ⟨message, -, -, unchanged⟩ | ⟨message, -, -, effect⟩
  · cases effect
    exact .inl ⟨rfl, rfl⟩
  · exact .inr unchanged
  · rw [effect]
    exact .inl ⟨rfl, rfl⟩

theorem spares_step (exact : Exact params start known before)
    (spares : Spares params known call)
    (result : semantics call choice before = some (answer, after)) :
    (contract params start known).Own before after := by
  cases call with
  | store call =>
      cases call with
      | append input =>
          refine step_of_same exact ?_ (executions_frame result rfl)
          intro actionId
          rcases append_step result with inserted | refused
          · obtain ⟨event, store, appended, rfl, -⟩ := inserted
            exact EventStore.append_readStream_other appended spares
          · obtain ⟨rfl, -⟩ := refused
            rfl
      | deleteAccount accountId =>
          refine step_of_same exact ?_ (executions_frame result rfl)
          intro actionId
          rcases deleteAccount_step result with deleted | same
          · rw [deleted]
            exact EventStore.deleteAccount_readStream_other spares
          · rw [same]
      | readStream asked => exact quiet_step exact rfl rfl result
      | listAggregateIds accountId aggregateType =>
          exact quiet_step exact rfl rfl result
      | resolveAccountId aggregateType aggregateId =>
          exact quiet_step exact rfl rfl result
  | queue call =>
      cases call with
      | addExecution jobId data =>
          rcases addExecution_step result with adding | unchanged
          · obtain ⟨rfl, -⟩ := adding
            exact exact.adds_other spares.1 spares.2 rfl rfl
          · obtain ⟨rfl, -⟩ := unchanged
            exact step_of_same exact (fun _ => rfl) rfl
      | removeExecution jobId =>
          rcases removeExecution_step result with removing | unchanged
          · obtain ⟨sameStore, removing⟩ := removing
            exact exact.removes spares sameStore removing
          · subst unchanged
            exact step_of_same exact (fun _ => rfl) rfl
      | addSettlement data => exact quiet_step exact rfl rfl result
      | getExecutions => exact quiet_step exact rfl rfl result
      | getSettlements => exact quiet_step exact rfl rfl result
      | removeSettlement data => exact quiet_step exact rfl rfl result
  | redis call => exact quiet_step exact rfl rfl result
  | hetzner call => exact quiet_step exact rfl rfl result
  | send channelType message => exact quiet_step exact rfl rfl result
  | clock call => exact quiet_step exact rfl rfl result
  | process call => exact quiet_step exact rfl rfl result
  | memory call => exact quiet_step exact rfl rfl result

/-! ## A run -/

/-- The jobs of these actions are in the queue, as far as they receive any. -/
def Handled (params : FanOutParams) (start : EventStore) (actionIds : List Id)
    (world : World) : Prop :=
  ∀ actionId ∈ actionIds, Receives params start actionId →
    world.queues.HasJob (.exec params.causationEventId actionId)

variable {actionIds done : List Id} {actionId : Id} {history : BackendHistory}

theorem Handled.stable (handled : Handled params start actionIds before)
    (keeps : Keeps params before after) :
    Handled params start actionIds after :=
  fun actionId member receives =>
    keeps actionId (handled actionId member receives)

/-- Nothing is said of a run that throws or is cut off. -/
def completing {α : Type} (onReturn : α → World → Prop) :
    BackendHistory → Outcome Err α → World → Prop :=
  yielding (fun value _ world => onReturn value world) (fun _ _ => True)
    fun _ _ => True

theorem load_spec (exact : Exact params start known world)
    (handled : Handled params start done world) :
    (loadAction params.accountId actionId).Ensures semantics
      (contract params start known)
      (completing fun loaded world => Handled params start done world ∧
        loaded.state = actionIn start params.accountId actionId)
      history world := by
  unfold loadAction loadAggregate
  refine Program.Ensures.seq (fun events _ world =>
    Handled params start done world ∧ events = start.readStream
      ⟨params.accountId, .action, actionId⟩) exact ?_ ?_
  · refine Backend.call_ensures (.store (.readStream _)) ?_
    intro waited step
    refine ⟨trivial, ?_⟩
    intro choice answer after _ result
    refine ⟨quiet_step step.1 rfl rfl result, ?_⟩
    intro final later
    obtain ⟨rfl, isAnswer⟩ := readStream_step result
    rcases isAnswer with read | failed
    · subst read
      exact ⟨(handled.stable step.2).stable later.2, step.1.actions actionId⟩
    · obtain ⟨-, message, rfl⟩ := failed
      trivial
  · intro events history world _ read
    obtain ⟨handled, rfl⟩ := read
    exact Program.Ensures.done fun next step => ⟨handled.stable step.2, rfl⟩

theorem fanOutTo_spec (exact : Exact params start known world)
    (handled : Handled params start done world) :
    (fanOutTo params actionId).Ensures semantics (contract params start known)
      (completing fun _ => Handled params start (actionId :: done))
      history world := by
  unfold fanOutTo
  refine Program.Ensures.seq _ exact (load_spec exact handled) ?_
  intro loaded history world exact read
  obtain ⟨handled, state⟩ := read
  split
  · rename_i isReceived
    have receives : Receives params start actionId := by
      rw [Receives, ← state]
      exact isReceived
    refine Program.Ensures.seq
      (fun _ _ world => Handled params start done world) exact ?_ ?_
    · refine Backend.call_ensures (.clock .randomUUID) ?_
      intro waited step
      refine ⟨trivial, ?_⟩
      intro choice answer after _ result
      have own := quiet_step step.1 rfl rfl result
      refine ⟨own, ?_⟩
      intro final later
      have kept := ((handled.stable step.2).stable own.2).stable later.2
      cases answer with
      | ok value => exact kept
      | error error => trivial
    intro executionId history world exact handled
    refine Backend.call_ensures (.queue (.addExecution _ _)) ?_
    intro waited step
    refine ⟨trivial, ?_⟩
    intro choice answer after _ result
    rcases addExecution_step result with adding | unchanged
    · obtain ⟨rfl, answered⟩ := adding
      have added : Exact params start known { waited.elapse choice.elapsed with
          queues := waited.queues.addExecution
            (jobFor params actionId executionId) } :=
        step.1.adds receives rfl rfl
      have keeps : Keeps params waited { waited.elapse choice.elapsed with
          queues := waited.queues.addExecution
            (jobFor params actionId executionId) } :=
        .of_subset (Queues.addExecution_prefix _ _).subset
      refine ⟨⟨added, keeps⟩, ?_⟩
      intro final later
      rcases answered with rfl | failed
      · intro other member receives
        rcases List.mem_cons.mp member with here | earlier
        · subst here
          exact later.2 other (Queues.addExecution_hasJob _ _)
        · exact (((handled.stable step.2).stable keeps).stable later.2) other
            earlier receives
      · obtain ⟨message, rfl⟩ := failed
        trivial
    · obtain ⟨rfl, message, rfl⟩ := unchanged
      exact ⟨step_of_same step.1 (fun _ => rfl) rfl, fun _ _ => trivial⟩
  · rename_i skipped
    refine Program.Ensures.done ?_
    intro next step other member receives
    rcases List.mem_cons.mp member with here | later
    · subst here
      rw [state] at skipped
      exact absurd receives skipped
    · exact handled.stable step.2 other later receives

theorem fanOutToAll_spec (exact : Exact params start known world)
    (handled : Handled params start done world) :
    (fanOutToAll params actionIds).Ensures semantics
      (contract params start known)
      (completing fun _ => Handled params start (actionIds.reverse ++ done))
      history world := by
  induction actionIds generalizing done history world with
  | nil => exact Program.Ensures.done fun next step => handled.stable step.2
  | cons actionId actionIds induction =>
      unfold fanOutToAll
      refine Program.Ensures.seq _ exact (fanOutTo_spec exact handled) ?_
      intro _ history world exact handled
      rw [List.reverse_cons, List.append_assoc]
      exact induction exact handled

/-- An action that receives executions is listed. -/
theorem listed_of_receives {rows : List Id}
    (exact : Exact params start known world)
    (receives : Receives params start actionId) :
    actionId ∈ world.store.listAggregateIds params.accountId .action rows := by
  by_contra unlisted
  have empty : start.readStream ⟨params.accountId, .action, actionId⟩ = [] :=
    (exact.actions actionId).symm.trans (readStream_unlisted unlisted)
  unfold Receives actionIn at receives
  rw [empty] at receives
  simp [replayed, ActionState.receives, initialActionState] at receives

/-- A run that completes has seen to every action. -/
theorem fanOut_spec (exact : Exact params start known world) :
    (fanOutActionExecutions params).Ensures semantics
      (contract params start known)
      (completing fun _ world => ∀ actionId, Receives params start actionId →
        world.queues.HasJob (.exec params.causationEventId actionId))
      history world := by
  unfold fanOutActionExecutions
  refine Program.Ensures.seq (fun actionIds _ _ => ∀ actionId,
    Receives params start actionId → actionId ∈ actionIds) exact ?_ ?_
  · refine Backend.call_ensures (.store (.listAggregateIds _ _)) ?_
    intro waited step
    refine ⟨trivial, ?_⟩
    intro choice answer after _ result
    refine ⟨quiet_step step.1 rfl rfl result, ?_⟩
    intro final later
    obtain ⟨rfl, isAnswer⟩ := listAggregateIds_step result
    rcases isAnswer with listed | failed
    · subst listed
      exact fun actionId receives => listed_of_receives step.1 receives
    · obtain ⟨message, rfl⟩ := failed
      trivial
  · intro actionIds history world exact listed
    have nothing : Handled params start [] world :=
      fun _ member => absurd member List.not_mem_nil
    refine (fanOutToAll_spec exact nothing).relax ?_ (fun _ _ => id)
      (fun _ _ => id)
    intro _ history world handled actionId receives
    refine handled actionId ?_ receives
    simpa using listed actionId receives

/-! ## Any number of runs -/

/-- A run of the fan-out, or one of the programs beside. -/
inductive Asked where
  | fanOut (number : Nat)
  | other (number : Nat)
  deriving DecidableEq

/-- The fan-outs for one event, and what runs beside them. -/
def service (params : FanOutParams) (others : Nat → Backend Unit) :
    Service backend Err Asked Unit Choice World where
  semantics := semantics
  program
    | .fanOut _ => fanOutActionExecutions params
    | .other number => others number
  admits := fun _ _ => true

/-- What the end of a run of the fan-out says. -/
def post (params : FanOutParams) (start : EventStore) :
    Asked → BackendHistory → Outcome Err Unit → World → Prop
  | .fanOut _ => completing fun _ world => ∀ actionId,
      Receives params start actionId →
      world.queues.HasJob (.exec params.causationEventId actionId)
  | .other _ => fun _ _ _ => True

variable {others : Nat → Backend Unit}

theorem program_spec (spares : ∀ number,
      (others number).Calls (Spares params known)) (asked : Asked)
    (exact : Exact params start known world) :
    ((service params others).program asked).Ensures semantics
      (contract params start known) (post params start asked) [] world := by
  cases asked with
  | fanOut number => exact fanOut_spec exact
  | other number =>
      have framed : (others number).Ensures semantics
          (contract params start known)
          (ending (fun _ _ => True) (fun _ _ => True) fun _ _ => True) []
          world := by
        apply Program.Ensures.frame (spares number)
        · exact fun _ _ _ _ _ => trivial
        · intro history before call choice answer after spared exact _ _ result
          exact ⟨spares_step exact spared result, trivial⟩
        · trivial
      exact framed.mono fun _ _ _ _ => trivial

theorem compatible :
    Pool.Compatible (fun _ : Asked => contract params start known)
      (Exact params start known) where
  invariant_iff := fun _ _ => Iff.rfl
  covered := fun _ _ _ _ _ keeps => keeps

/-- Every run keeps its contract. -/
theorem within_contracts {pool : Pool backend Err Asked Unit World}
    (spares : ∀ number, (others number).Calls (Spares params known))
    (exact : Exact params start known world)
    (run : Pool.Run (service params others) (fun _ _ => True) ⟨world, []⟩
      pool) :
    Pool.WithinContracts (fun _ => contract params start known)
      (post params start) (service params others) (Exact params start known)
      pool := by
  have begins : Pool.WithinContracts (fun _ => contract params start known)
      (post params start) (service params others) (Exact params start known)
      ⟨world, []⟩ :=
    ⟨exact, List.nodup_nil, List.forall_mem_nil _⟩
  apply begins.run compatible
  · exact fun asked _ exact _ => program_spec spares asked exact
  · apply run.mono
    intro pool move _
    cases move with
    | start asked => trivial
    | advance index choice => exact fun _ _ _ _ _ => trivial

/-- Before the first run there is no job of the event. -/
theorem Exact.begins
    (fresh : ∀ job ∈ world.queues.executions,
      isFor params.causationEventId job = false) (known : ExecutionJob → Prop)
    (others : ∀ job ∈ world.queues.executions, known job) :
    Exact params world.store known world := by
  have empty : jobsFor params.causationEventId world.queues = [] :=
    List.filter_eq_nil_iff.mpr fun job member => by simp [fresh job member]
  refine ⟨fun _ => rfl, ?_, ?_, fun job member _ => others job member⟩
  · rw [empty]
    exact List.nodup_nil
  · rw [empty]
    exact List.forall_mem_nil _

/-- The jobs of one action: there is exactly one, and it is the right one. -/
theorem Exact.one_job (exact : Exact params start known world)
    (has : world.queues.HasJob (.exec params.causationEventId actionId)) :
    ∃ executionId,
      (jobsFor params.causationEventId world.queues).filter
        (·.data.actionId = actionId) =
      [jobFor params actionId executionId] := by
  obtain ⟨job, member, sameId⟩ := has
  have isJob : job ∈ jobsFor params.causationEventId world.queues :=
    List.mem_filter.mpr ⟨member, by simp [isFor, isCausedBy, sameId]⟩
  obtain ⟨action, executionId, rfl, -⟩ := exact.jobs job isJob
  have sameAction : action = actionId := (JobId.exec.inj sameId).2
  subst sameAction
  have nodup : (jobsFor params.causationEventId world.queues).Nodup :=
    exact.distinct.of_map
  refine ⟨executionId, List.perm_singleton.mp ?_⟩
  refine (List.perm_ext_iff_of_nodup (nodup.filter _)
    (List.nodup_singleton _)).mpr ?_
  intro other
  constructor
  · intro found
    obtain ⟨isOther, ofAction⟩ := List.mem_filter.mp found
    obtain ⟨otherAction, otherId, rfl, -⟩ := exact.jobs other isOther
    have same : otherAction = action := of_decide_eq_true ofAction
    subst same
    rw [List.inj_on_of_nodup_map exact.distinct isOther isJob rfl]
    exact List.mem_singleton_self _
  · intro here
    rw [List.mem_singleton.mp here]
    exact List.mem_filter.mpr ⟨isJob, decide_eq_true rfl⟩

end FanOut

open FanOut

/-- However many runs of a fan-out there are, complete, aborted or overlapping,
once one has completed the queue holds exactly one job of the event for each
action that receives executions, and no other job of the event.  What runs
beside changes no action of the account and no job of the event. -/
theorem fan_out_is_exact (params : FanOutParams)
    (others : Nat → Backend Unit) (added : ExecutionJob → Prop)
    (spares : ∀ number, (others number).Calls (Spares params added))
    (world : World)
    (fresh : ∀ job ∈ world.queues.executions,
      isFor params.causationEventId job = false)
    (pool : Pool backend Err Asked Unit World)
    (run : Pool.Run (service params others) (fun _ _ => True) ⟨world, []⟩ pool)
    (completed : ∃ number history,
      ⟨.fanOut number, history, .done ()⟩ ∈ pool.threads) :
    (∀ actionId, Receives params world.store actionId →
      ∃ executionId,
        (jobsFor params.causationEventId pool.state.queues).filter
          (·.data.actionId = actionId) =
        [jobFor params actionId executionId]) ∧
    (∀ job ∈ jobsFor params.causationEventId pool.state.queues,
      Receives params world.store job.data.actionId) ∧
    ∀ job ∈ pool.state.queues.executions,
      isFor params.causationEventId job = false →
      job ∈ world.queues.executions ∨ added job := by
  have spared : ∀ number, (others number).Calls (Spares params fun job =>
      job ∈ world.queues.executions ∨ added job) := by
    intro number
    apply (spares number).mono
    exact fun _ spares => spares.mono fun _ => .inr
  have begins := Exact.begins fresh
    (fun job => job ∈ world.queues.executions ∨ added job)
    (fun _ member => .inl member)
  have within := within_contracts spared begins run
  obtain ⟨number, history, member⟩ := completed
  have here : (contract params world.store fun job =>
      job ∈ world.queues.executions ∨ added job).Environment pool.state
        pool.state :=
    ⟨within.keeps, fun _ has => has⟩
  have handled := within.threads _ member pool.state here
  refine ⟨?_, ?_, within.keeps.others⟩
  · intro actionId receives
    exact within.keeps.one_job (handled actionId receives)
  · intro job isJob
    obtain ⟨actionId, executionId, rfl, receives⟩ :=
      within.keeps.jobs job isJob
    exact receives

/-! ## Two runs, one of them aborted -/

namespace FanOut

/-- A device with one DNS action. -/
def attachedStore : EventStore :=
  EventStore.recorded 1
    [(.ipClient, 20, .ipClient (.registered 20 1 "router" "hash" 0)),
     (.action, 10, .action (.attached
        { actionId := 10
          accountId := 1
          ipClientId := 20
          type := .hetznerCloudDnsUpdate
          addressFamilies := [.ipv4]
          config := .dns ⟨30, some "example.com", some "home"⟩
          attachedAt := 0 }))]

def exampleParams : FanOutParams where
  accountId := 1
  ipClientId := 20
  causationEventId := 40
  triggeredBy := .ipChange
  ipValues := ⟨some "192.0.2.7", none⟩

/-- The first run lists the actions and goes no further. -/
def abortedFirst : List (Move Asked Choice) :=
  [.start (.fanOut 0), .advance 0 .ok, .start (.fanOut 1)] ++
    List.replicate 4 (.advance 1 .ok)

end FanOut

theorem fan_out_is_exact_once :
    ∃ pool : Pool backend Err Asked Unit World, ∃ executionId,
      (jobsFor 40 pool.state.queues).filter (·.data.actionId = 10) =
        [jobFor exampleParams 10 executionId] := by
  have ends : ((⟨{ store := attachedStore }, []⟩ :
      Pool backend Err Asked Unit World).follow
        (service exampleParams fun _ => pure ()) (fun _ _ => true)
        abortedFirst).map (·.returned 1) =
      some (some (.fanOut 1, ())) := by decide
  obtain ⟨pool, followed, returned⟩ := Option.map_eq_some_iff.mp ends
  obtain ⟨history, member⟩ := Pool.mem_of_returned returned
  have run : Pool.Run (service exampleParams fun _ => pure ())
      (fun _ _ => True) ⟨{ store := attachedStore }, []⟩ pool :=
    Pool.run_of_follow (fun _ _ _ => trivial) followed
  refine ⟨pool, (fan_out_is_exact exampleParams (fun _ => pure ())
    (fun _ => False) (fun _ => trivial) { store := attachedStore }
    (List.forall_mem_nil _) pool run ⟨1, history, member⟩).1 10 ?_⟩
  unfold Receives
  decide

end FluxIP
