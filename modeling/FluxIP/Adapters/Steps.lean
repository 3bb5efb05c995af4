import FluxIP.Adapters.World
import FluxIP.Async.Crash
import FluxIP.Async.RelyGuarantee

/-!
# What one call does

The effect of each call, once for the calls a proof follows and as frame
lemmas for everything a call leaves alone.
-/

namespace FluxIP

open Async

variable {world next : World} {choice : Choice}

/-- The ways a call of an outside system can end. -/
theorem outside_cases {α : Type} {effect : Effect α}
    {answer : Except Err α}
    (result : outside choice effect world = (answer, next)) :
    (choice.fate = .ok ∧ effect world = (answer, next)) ∨
    (∃ message, choice.fate = .failed message ∧
      answer = .error (.thrown message) ∧ next = world) ∨
    (∃ message, choice.fate = .lost message ∧
      answer = .error (.thrown message) ∧ next = (effect world).2) := by
  unfold outside at result
  cases fate : choice.fate with
  | ok =>
      simp only [fate] at result
      exact Or.inl ⟨rfl, result⟩
  | failed message =>
      simp only [fate, Prod.mk.injEq] at result
      exact Or.inr (Or.inl ⟨message, rfl, result.1.symm, result.2.symm⟩)
  | lost message =>
      simp only [fate, Prod.mk.injEq] at result
      exact Or.inr (Or.inr ⟨message, rfl, result.1.symm, result.2.symm⟩)

/-! ## The event store -/

/-- An append inserts its event, and is then acknowledged or loses its answer;
or it inserts nothing and throws. -/
theorem append_step {input : AppendEventInput}
    {answer : Except Err StoredEvent}
    (result : semantics (.store (.append input)) choice world =
      some (answer, next)) :
    (∃ event store, world.store.append input = (.ok event, store) ∧
      next = { world.elapse choice.elapsed with store } ∧
      (answer = .ok event ∧ choice.fate = .ok ∨
        ∃ message, choice.fate = .lost message ∧
          answer = .error (.thrown message))) ∨
    (next = world.elapse choice.elapsed ∧ ∃ error, answer = .error error ∧
      ((∃ message, error = .thrown message) ∨
        world.store.append input = (.error error, world.store))) := by
  have ends := outside_cases (Option.some.inj result)
  cases appended : world.store.append input with
  | mk inserted store =>
    rcases ends with ⟨fate, effect⟩ | ⟨message, -, failed, unchanged⟩ |
        ⟨message, fate, lost, effect⟩
    · have sameAnswer : inserted = answer :=
        (congrArg Prod.fst appended).symm.trans (congrArg Prod.fst effect)
      have sameWorld : { world.elapse choice.elapsed with store } = next :=
        (congrArg (fun result =>
          { world.elapse choice.elapsed with store := result.2 })
          appended).symm.trans (congrArg Prod.snd effect)
      subst sameAnswer
      rcases EventStore.append_cases appended with
        ⟨event, rfl, -⟩ | ⟨rfl, rfl⟩
      · exact Or.inl ⟨event, store, rfl, sameWorld.symm, Or.inl ⟨rfl, fate⟩⟩
      · exact Or.inr ⟨sameWorld.symm, _, rfl, Or.inr rfl⟩
    · exact Or.inr ⟨unchanged, _, failed, Or.inl ⟨message, rfl⟩⟩
    · have sameWorld : next = { world.elapse choice.elapsed with store } := by
        rw [effect]
        exact congrArg (fun result =>
          { world.elapse choice.elapsed with store := result.2 }) appended
      rcases EventStore.append_cases appended with
        ⟨event, rfl, -⟩ | ⟨-, rfl⟩
      · exact Or.inl ⟨event, store, rfl, sameWorld,
          Or.inr ⟨message, fate, lost⟩⟩
      · exact Or.inr ⟨sameWorld, _, lost, Or.inl ⟨message, rfl⟩⟩

/-- An append that is answered has the store's own answer. -/
theorem append_answered {input : AppendEventInput}
    {answer : Except Err StoredEvent} (answers : choice.fate = .ok)
    (result : semantics (.store (.append input)) choice world =
      some (answer, next)) :
    world.store.append input = (answer, next.store) := by
  rcases outside_cases (Option.some.inj result) with
    ⟨-, effect⟩ | ⟨message, failed, -⟩ | ⟨message, lost, -⟩
  · cases effect
    rfl
  · rw [answers] at failed
    cases failed
  · rw [answers] at lost
    cases lost

theorem deleteAccount_step {accountId : Id} {answer : Except Err Unit}
    (result : semantics (.store (.deleteAccount accountId)) choice world =
      some (answer, next)) :
    next.store = world.store.deleteAccount accountId ∨
      next.store = world.store := by
  rcases outside_cases (Option.some.inj result) with
    ⟨-, effect⟩ | ⟨message, -, -, unchanged⟩ | ⟨message, -, -, effect⟩
  · cases effect
    exact Or.inl rfl
  · rw [unchanged]
    exact Or.inr rfl
  · rw [effect]
    exact Or.inl rfl

theorem readStream_step {params : ReadStreamParams}
    {answer : Except Err (List StoredEvent)}
    (result : semantics (.store (.readStream params)) choice world =
      some (answer, next)) :
    next = world.elapse choice.elapsed ∧
      (answer = .ok (world.store.readStream params) ∨
        choice.fate ≠ .ok ∧ ∃ message, answer = .error (.thrown message)) := by
  rcases outside_cases (Option.some.inj result) with
    ⟨-, effect⟩ | ⟨message, fate, failed, unchanged⟩ |
    ⟨message, fate, lost, effect⟩
  · exact ⟨(congrArg Prod.snd effect).symm,
      Or.inl (congrArg Prod.fst effect).symm⟩
  · exact ⟨unchanged, Or.inr ⟨by simp [fate], message, failed⟩⟩
  · exact ⟨effect, Or.inr ⟨by simp [fate], message, lost⟩⟩

theorem listAggregateIds_step {accountId : Id} {aggregateType : AggregateType}
    {answer : Except Err (List Id)}
    (result : semantics (.store (.listAggregateIds accountId aggregateType))
      choice world = some (answer, next)) :
    next = world.elapse choice.elapsed ∧
      (answer = .ok (world.store.listAggregateIds accountId aggregateType
          choice.rows) ∨
        ∃ message, answer = .error (.thrown message)) := by
  rcases outside_cases (Option.some.inj result) with
    ⟨-, effect⟩ | ⟨message, -, failed, unchanged⟩ | ⟨message, -, lost, effect⟩
  · exact ⟨(congrArg Prod.snd effect).symm,
      Or.inl (congrArg Prod.fst effect).symm⟩
  · exact ⟨unchanged, Or.inr ⟨message, failed⟩⟩
  · exact ⟨effect, Or.inr ⟨message, lost⟩⟩

/-! ## The queue -/

theorem addExecution_step {jobId : JobId} {data : ActionExecutionJobData}
    {answer : Except Err Unit}
    (result : semantics (.queue (.addExecution jobId data)) choice world =
      some (answer, next)) :
    (next = { world.elapse choice.elapsed with
        queues := world.queues.addExecution ⟨jobId, data⟩ } ∧
      (answer = .ok () ∨ ∃ message, answer = .error (.thrown message))) ∨
    (next = world.elapse choice.elapsed ∧
      ∃ message, answer = .error (.thrown message)) := by
  rcases outside_cases (Option.some.inj result) with
    ⟨-, effect⟩ | ⟨message, -, failed, unchanged⟩ | ⟨message, -, lost, effect⟩
  · exact Or.inl ⟨(congrArg Prod.snd effect).symm,
      Or.inl (congrArg Prod.fst effect).symm⟩
  · exact Or.inr ⟨unchanged, message, failed⟩
  · exact Or.inl ⟨effect, Or.inr ⟨message, lost⟩⟩

/-- The queue holds a job with this id. -/
def Queues.HasJob (queues : Queues) (jobId : JobId) : Prop :=
  ∃ job ∈ queues.executions, job.jobId = jobId

theorem Queues.addExecution_hasJob (queues : Queues) (job : ExecutionJob) :
    (queues.addExecution job).HasJob job.jobId := by
  unfold addExecution
  split
  · rename_i known
    obtain ⟨other, member, same⟩ := List.any_eq_true.mp known
    exact ⟨other, member, of_decide_eq_true same⟩
  · exact ⟨job, by simp, rfl⟩

theorem Queues.addExecution_prefix (queues : Queues) (job : ExecutionJob) :
    queues.executions <+: (queues.addExecution job).executions := by
  unfold addExecution
  split
  · exact List.prefix_refl _
  · exact List.prefix_append _ _

theorem Queues.mem_addExecution {queues : Queues} {job other : ExecutionJob}
    (member : other ∈ (queues.addExecution job).executions) :
    other ∈ queues.executions ∨ other = job := by
  unfold addExecution at member
  split at member
  · exact Or.inl member
  · simpa using member

/-- Job ids stay distinct: that is what the queue's test is for. -/
theorem Queues.addExecution_distinct {queues : Queues}
    (distinct : (queues.executions.map (·.jobId)).Nodup)
    (job : ExecutionJob) :
    ((queues.addExecution job).executions.map (·.jobId)).Nodup := by
  unfold addExecution
  split
  · exact distinct
  · rename_i unknown
    rw [List.map_append]
    refine List.nodup_append.mpr ⟨distinct, by simp, ?_⟩
    intro jobId member other new same
    obtain ⟨known, present, rfl⟩ := List.mem_map.mp member
    simp only [List.map_cons, List.map_nil, List.mem_singleton] at new
    exact unknown (List.any_eq_true.mpr
      ⟨known, present, decide_eq_true (same.trans new)⟩)

/-! ## Frames -/

/-- A component the effect of a call leaves alone is left alone however the
call ends. -/
theorem outside_frame {α β : Type} {effect : Effect α}
    {answer : Except Err α} (component : World → β)
    (keeps : ∀ world, component (effect world).2 = component world)
    (result : outside choice effect world = (answer, next)) :
    component next = component world := by
  rcases outside_cases result with
    ⟨-, same⟩ | ⟨message, -, -, same⟩ | ⟨message, -, -, same⟩
  · exact (congrArg (component ·.2) same).symm.trans (keeps world)
  · rw [same]
  · rw [same]
    exact keeps world

/-- A component that neither the passing of time nor the effect of a call
changes is the same after the call. -/
theorem semantics_frame {call : Call} {answer : Except Err call.Answer}
    {β : Type} (component : World → β)
    (elapses : ∀ world elapsed,
      component (World.elapse world elapsed) = component world)
    (keeps : match call with
      | .store call => ∀ world,
          component (call.effect choice world).2 = component world
      | .redis call => ∀ world,
          component (call.effect world).2 = component world
      | .queue call => ∀ world,
          component (call.effect world).2 = component world
      | .hetzner call => ∀ world,
          component (call.effect world).2 = component world
      | .send channelType message => ∀ world : World,
          component { world with sent := world.sent ++ [⟨channelType, message⟩] }
            = component world
      | .clock call => ∀ world answer next,
          call.effect world = some (answer, next) →
          component next = component world
      | .process call => ∀ world,
          component (call.effect world) = component world
      | .memory call => ∀ world answer next,
          call.effect world = some (answer, next) →
          component next = component world)
    (result : semantics call choice world = some (answer, next)) :
    component next = component world := by
  rw [← elapses world choice.elapsed]
  cases call with
  | store call => exact outside_frame component keeps (Option.some.inj result)
  | redis call => exact outside_frame component keeps (Option.some.inj result)
  | queue call => exact outside_frame component keeps (Option.some.inj result)
  | hetzner call => exact outside_frame component keeps (Option.some.inj result)
  | send channelType message =>
      exact outside_frame component keeps (Option.some.inj result)
  | clock call => exact keeps _ _ _ result
  | process call =>
      simp only [semantics] at result
      split at result
      · cases result
        exact keeps _
      · cases result
        rfl
      · cases result
        exact keeps _
  | memory call =>
      obtain ⟨⟨value, after⟩, effect, same⟩ := Option.map_eq_some_iff.mp result
      cases same
      exact keeps _ _ _ effect

/-- The call does not change the event table. -/
def Call.keepsStore : Call → Bool
  | .store (.append _) => false
  | .store (.deleteAccount _) => false
  | _ => true

theorem keepsStore_of_read {call : Call} (isRead : Backend.reads call = true) :
    Call.keepsStore call = true := by
  cases call with
  | store call => cases call <;> first | rfl | cases isRead
  | _ => rfl

theorem keepsStore_of_reads {α : Type} {program : Backend α}
    (reads : program.Calls fun call => Backend.reads call = true) :
    program.Calls fun call => Call.keepsStore call = true :=
  reads.mono fun _ => keepsStore_of_read

theorem keepsStore_of_quiet {α : Type} {program : Backend α}
    (quiet : program.Calls fun call => Backend.quiet call = true) :
    program.Calls fun call => Call.keepsStore call = true := by
  apply quiet.mono
  intro call isQuiet
  cases call with
  | store call => cases call <;> first | rfl | cases isQuiet
  | _ => rfl

/-- The call does not add an execution job. -/
def Call.keepsExecutions : Call → Bool
  | .queue (.addExecution _ _) => false
  | .queue (.removeExecution _) => false
  | _ => true

/-- The call does not start an executor. -/
def Call.startsNoExecutor : Call → Bool
  | .process (.invoke _) => false
  | _ => true

theorem RedisCall.effect_keeps {β : Type} (component : World → β)
    (keeps : ∀ world redis,
      component { world with redis } = component world)
    (call : RedisCall) (world : World) :
    component (call.effect world).2 = component world := by
  cases call with
  | set key token ttlMs =>
      simp only [RedisCall.effect]
      split
      · rfl
      · exact keeps _ _
  | compareAndDelete key token =>
      simp only [RedisCall.effect]
      split
      · exact keeps _ _
      · rfl
  | getCounter source => rfl
  | incr source => exact keeps _ _
  | expire source seconds => exact keeps _ _
  | hset key field row => exact keeps _ _
  | hdel key field => exact keeps _ _
  | «exists» key => rfl
  | del key => exact keeps _ _
  | hgetall key => rfl
  | purgeProjections accountId => exact keeps _ _

theorem HetznerCall.effect_keeps {β : Type} (component : World → β)
    (keeps : ∀ world hetzner,
      component { world with hetzner } = component world)
    (call : HetznerCall) (world : World) :
    component (call.effect world).2 = component world := by
  cases call with
  | getFirewall apiToken firewallId => rfl
  | setFirewallRules apiToken firewallId rules => exact keeps _ _
  | setRecords apiToken zoneName recordName type value =>
      simp only [HetznerCall.effect]
      split
      · rfl
      · exact keeps _ _

theorem ClockCall.effect_keeps {β : Type} (component : World → β)
    (keeps : ∀ world nextUUID,
      component { world with nextUUID } = component world)
    {call : ClockCall} {answer : Except Err call.Answer}
    (result : call.effect world = some (answer, next)) :
    component next = component world := by
  cases call with
  | dateNow => cases result; rfl
  | sleepUntil wakeAt =>
      simp only [ClockCall.effect] at result
      split at result
      · cases result; rfl
      · cases result
  | randomUUID => cases result; exact keeps _ _

theorem MemoryCall.effect_keeps {β : Type} (component : World → β)
    (mutexes : ∀ world mutexes,
      component { world with mutexes } = component world)
    (agents : ∀ world nextUUID agents,
      component { world with nextUUID, agents } = component world)
    {call : MemoryCall} {answer : call.Answer}
    (result : call.effect world = some (answer, next)) :
    component next = component world := by
  cases call with
  | turn key ticket =>
      simp only [MemoryCall.effect] at result
      split at result
      · cases result; rfl
      · cases result
  | closed sessionId =>
      simp only [MemoryCall.effect] at result
      split at result
      · cases result
      · cases result; rfl
  | join key => cases result; exact mutexes _ _
  | leave key ticket => cases result; exact mutexes _ _
  | openSession providerId accountId tokenId now => cases result; exact agents _ _ _
  | process sessionId message now => cases result; exact agents _ _ _
  | recordConnected sessionId => cases result; exact agents _ _ _
  | sendAgent sessionId message => cases result; exact agents _ _ _
  | startHeartbeat sessionId seconds => cases result; exact agents _ _ _
  | heartbeat sessionId now => cases result; exact agents _ _ _
  | terminate sessionId reason => cases result; exact agents _ _ _
  | finish sessionId => cases result; exact agents _ _ _
  | claimDisconnect sessionId => cases result; exact agents _ _ _
  | push providerId message => cases result; exact agents _ _ _
  | terminateByToken providerId tokenId reason =>
      cases result; exact agents _ _ _
  | terminateByProvider providerId reason => cases result; exact agents _ _ _
  | terminateByAccount accountId reason => cases result; exact agents _ _ _

section

variable {call : Call} {answer : Except Err call.Answer}

theorem store_frame
    (result : semantics call choice world = some (answer, next))
    (quiet : call.keepsStore = true) :
    next.store = world.store := by
  refine semantics_frame World.store (fun _ _ => rfl) ?_ result
  cases call with
  | store call =>
      cases call with
      | append input => cases quiet
      | deleteAccount accountId => cases quiet
      | readStream params => exact fun _ => rfl
      | listAggregateIds accountId aggregateType => exact fun _ => rfl
      | resolveAccountId aggregateType aggregateId => exact fun _ => rfl
  | redis call => exact call.effect_keeps _ fun _ _ => rfl
  | queue call => cases call <;> exact fun _ => rfl
  | hetzner call => exact call.effect_keeps _ fun _ _ => rfl
  | send channelType message => exact fun _ => rfl
  | clock call => exact fun _ _ _ => ClockCall.effect_keeps _ fun _ _ => rfl
  | process call => cases call <;> exact fun _ => rfl
  | memory call =>
      exact fun _ _ _ => MemoryCall.effect_keeps _ (fun _ _ => rfl)
        fun _ _ _ => rfl

/-- A run alone of a program that appends and deletes nothing. -/
theorem run_keepsStore {α : Type} {program : Backend α}
    (calls : program.Calls fun call => Call.keepsStore call = true)
    (choices : List Choice) (world : World) :
    (program.run semantics choices world).2.store = world.store := by
  have keeps : ∀ (call : Call) (choice : Choice)
      (answer : Except Err call.Answer) (before after : World),
      Call.keepsStore call = true → before.store = world.store →
      semantics call choice before = some (answer, after) →
      after.store = world.store :=
    fun _ _ _ _ _ quiet here result => (store_frame result quiet).trans here
  exact ((Program.Survives.frame calls keeps rfl).sound choices).everywhere
    fun _ => id

theorem executions_frame
    (result : semantics call choice world = some (answer, next))
    (quiet : call.keepsExecutions = true) :
    next.queues.executions = world.queues.executions := by
  refine semantics_frame (·.queues.executions) (fun _ _ => rfl) ?_ result
  cases call with
  | store call => cases call <;> exact fun _ => rfl
  | redis call => exact call.effect_keeps (·.queues.executions) fun _ _ => rfl
  | queue call =>
      cases call with
      | addExecution jobId data => cases quiet
      | removeExecution jobId => cases quiet
      | addSettlement data => exact fun _ => rfl
      | getExecutions => exact fun _ => rfl
      | getSettlements => exact fun _ => rfl
      | removeSettlement data => exact fun _ => rfl
  | hetzner call => exact call.effect_keeps (·.queues.executions) fun _ _ => rfl
  | send channelType message => exact fun _ => rfl
  | clock call =>
      exact fun _ _ _ => ClockCall.effect_keeps (·.queues.executions)
        fun _ _ => rfl
  | process call => cases call <;> exact fun _ => rfl
  | memory call =>
      exact fun _ _ _ => MemoryCall.effect_keeps (·.queues.executions)
        (fun _ _ => rfl) fun _ _ _ => rfl

theorem invocations_frame
    (result : semantics call choice world = some (answer, next))
    (quiet : call.startsNoExecutor = true) :
    next.invocations = world.invocations := by
  refine semantics_frame World.invocations (fun _ _ => rfl) ?_ result
  cases call with
  | store call => cases call <;> exact fun _ => rfl
  | redis call => exact call.effect_keeps _ fun _ _ => rfl
  | queue call => cases call <;> exact fun _ => rfl
  | hetzner call => exact call.effect_keeps _ fun _ _ => rfl
  | send channelType message => exact fun _ => rfl
  | clock call => exact fun _ _ _ => ClockCall.effect_keeps _ fun _ _ => rfl
  | process call =>
      cases call with
      | invoke executionId => cases quiet
      | schedule accountId providerIds causationId => exact fun _ => rfl
  | memory call =>
      exact fun _ _ _ => MemoryCall.effect_keeps _ (fun _ _ => rfl)
        fun _ _ _ => rfl

end

/-- The rule for one call of the backend. -/
theorem Backend.call_ensures {contract : Contract backend Err Choice World}
    (awaited : Call) {history : BackendHistory} {state : World}
    {post : BackendHistory → Outcome Err awaited.Answer → World → Prop}
    (step : ∀ before, contract.Environment state before →
      post history .cut before ∧
        ∀ (choice : Choice) (answer : Except Err awaited.Answer)
          (after : World),
          contract.allowed history before awaited choice →
          semantics awaited choice before = some (answer, after) →
          contract.Own before after ∧
            ∀ final, contract.Environment after final →
              post (history ++ [⟨awaited, answer⟩]) (.ofExcept answer)
                final) :
    (Backend.call awaited).Ensures semantics contract post history state :=
  Program.Ensures.perform step

/-- The same for a program that may be stopped anywhere. -/
theorem Backend.call_survives (awaited : Call) {world : World}
    {post : Except Err awaited.Answer → World → Prop} {crash : World → Prop}
    (stopped : crash world)
    (answered : ∀ (choice : Choice) (answer : Except Err awaited.Answer)
      (after : World), semantics awaited choice world = some (answer, after) →
      post answer after) :
    (Backend.call awaited).Survives semantics post crash world :=
  Program.Survives.perform stopped answered

end FluxIP
