import FluxIP.Adapters.ProviderService
import FluxIP.Adapters.Steps
import FluxIP.Async.Knowledge

/-!
# Blocked sources

A failed attempt is counted by one command, and the counter it creates is given
its expiry by another one.  Nobody but the call that has created a counter ever
sets its expiry: a counter is there for good if and only if the expiry fails,
the answer of the first count is lost, or the process stops between the two.
-/

namespace FluxIP

open Async
open RedisAuthThrottle

/-- A stream that is to be authenticated; `number` tells equal ones apart. -/
structure Attempt where
  number : Nat
  call : SessionCall
  deriving DecidableEq, Repr

def authenticationService (deps : GrpcAgentServerDeps) :
    Service backend Err Attempt Authentication Choice World where
  semantics := semantics
  program attempt := GrpcAgentServer.authenticate deps attempt.call
  admits _ _ := true

abbrev AuthenticationPool := Pool backend Err Attempt Authentication World

/-- A call goes on; or the process stops, and another one is started. -/
inductive ProcessMove where
  | go (move : Move Attempt Choice)
  | stop
  deriving DecidableEq, Repr

def AuthenticationPool.live (deps : GrpcAgentServerDeps)
    (pool : AuthenticationPool) : ProcessMove → Option AuthenticationPool
  | .go move => pool.step (authenticationService deps) move
  | .stop => some ⟨pool.state, []⟩

/-- What happens to one process after the other. -/
inductive Lives (deps : GrpcAgentServerDeps)
    (allowed : AuthenticationPool → ProcessMove → Prop)
    (initial : AuthenticationPool) : AuthenticationPool → Prop where
  | refl : Lives deps allowed initial initial
  | step {pool next : AuthenticationPool} {move : ProcessMove} :
      Lives deps allowed initial pool → allowed pool move →
      pool.live deps move = some next → Lives deps allowed initial next

def windowMs : Nat := THROTTLE_WINDOW_SECONDS * 1000

/-- The program is about to set the expiry of a counter. -/
def awaitsExpiry : Backend Authentication → Bool
  | .await (.redis (.expire _ _)) _ => true
  | _ => false

/-- The counter of a source that is there is told to its caller, or was there
before; and an expiry takes effect. -/
def Call.settles (choice : Choice) (world : World) : Call → Bool
  | .redis (.incr source) =>
      match choice.fate with
      | .lost _ => (world.redis.failureCounter source
          (world.now + choice.elapsed)).isSome
      | _ => true
  | .redis (.expire _ _) => choice.fate.takesEffect
  | _ => true

/-- No call that has created a counter is cut off from setting its expiry. -/
def setsExpiries (pool : AuthenticationPool) : ProcessMove → Bool
  | .stop => pool.threads.all fun thread => !awaitsExpiry thread.program
  | .go (.start _) => true
  | .go (.advance index choice) =>
      match pool.threads[index]? with
      | some ⟨_, _, .await call _⟩ => Call.settles choice pool.state call
      | _ => true

/-- Every counter that is there expires within a window from now. -/
def HasExpiry (world : World) : Prop :=
  ∀ source counter,
    world.redis.failureCounter source world.now = some counter →
    ∃ expiresAt, counter.expiresAt = some expiresAt ∧
      expiresAt ≤ world.now + windowMs

/-- The counter of the source never expires. -/
def Unlimited (source : String) (world : World) : Prop :=
  ∃ counter, world.redis.failures source = some counter ∧
    counter.expiresAt = none

/-- The first failure of the source was counted last. -/
def JustCreated (source : String) (history : BackendHistory) : Prop :=
  history.getLast? =
    some (@Answered.mk backend Err (.redis (.incr source)) (.ok (1 : Nat)))

/-- A counter that never expires is about to be given an expiry. -/
def NoLockout (pool : AuthenticationPool) : Prop :=
  ∀ source, Unlimited source pool.state →
    ∃ thread ∈ pool.threads, JustCreated source thread.history

/-- A counter keeps its expiry until it expires. -/
def ExpiriesStay (before after : World) : Prop :=
  ∀ source counter expiresAt,
    before.redis.failures source = some counter →
    counter.expiresAt = some expiresAt → after.now < expiresAt →
    ∃ later, after.redis.failureCounter source after.now = some later ∧
      later.expiresAt = some expiresAt

/-! ## The calls of an authentication -/

/-- The call looks something up. -/
def Call.looks : Call → Bool
  | .redis (.getCounter _) => true
  | call => Backend.reads call

/-- What an authentication may call: the expiry of a counter is set right after
it was created, and only then. -/
inductive Counting (history : BackendHistory) : Call → Prop where
  | looks {call} (looks : Call.looks call = true)
      (other : ∀ source, ¬ JustCreated source history) : Counting history call
  | counts (counted : String) (other : ∀ source, ¬ JustCreated source history) :
      Counting history (.redis (.incr counted))
  | sets (source : String) (created : JustCreated source history) :
      Counting history (.redis (.expire source THROTTLE_WINDOW_SECONDS))

/-- No counter was created last. -/
def NothingCreated (history : BackendHistory) : Prop :=
  ∀ source, ¬ JustCreated source history

theorem nothingCreated_nil : NothingCreated [] := fun _ created => by cases created

theorem justCreated_concat {source : String} {history : BackendHistory}
    {call : Call} {answer : Except Err call.Answer} :
    JustCreated source (history ++ [⟨call, answer⟩]) ↔
      (⟨call, answer⟩ : Answered backend Err) =
        @Answered.mk backend Err (.redis (.incr source)) (.ok (1 : Nat)) := by
  simp [JustCreated]

theorem nothingCreated_after {history : BackendHistory} {call : Call}
    (other : ∀ source, call ≠ .redis (.incr source))
    (answer : Except Err call.Answer) :
    NothingCreated (history ++ [⟨call, answer⟩]) := by
  intro source created
  rw [justCreated_concat] at created
  exact other source (congrArg Answered.call created)

theorem looks_of_reads {call : Call} (isRead : Backend.reads call = true) :
    Call.looks call = true := by
  cases call with
  | redis call => cases isRead
  | _ => exact isRead

theorem looks_traces {α : Type} {program : Backend α}
    (looks : program.Calls fun call => Call.looks call = true)
    {history : BackendHistory} (nothing : NothingCreated history) :
    program.Traces Counting (fun history _ => NothingCreated history) history := by
  refine Program.Traces.of_quiet NothingCreated looks ?_ ?_ nothing
  · intro history call answer isLook _
    apply nothingCreated_after
    intro source same
    rw [same] at isLook
    cases isLook
  · exact fun history call other isLook => .looks isLook other

theorem expire_traces {source : String} {history : BackendHistory}
    (created : JustCreated source history) :
    (Backend.expire source THROTTLE_WINDOW_SECONDS).Traces Counting
      (fun history _ => NothingCreated history) history := by
  refine ⟨Counting.sets source created, ?_⟩
  intro answer
  cases answer with
  | ok value => exact nothingCreated_after (fun _ same => by cases same) _
  | error error => exact nothingCreated_after (fun _ same => by cases same) _

theorem recordFailure_traces {source : String} {history : BackendHistory}
    (nothing : NothingCreated history) :
    (recordFailure source).Traces Counting (fun history _ => NothingCreated history)
      history := by
  refine Program.Traces.performing (.counts source nothing) ?_ ?_
  · intro (count : Nat)
    by_cases first : count = 1
    · subst first
      exact expire_traces (justCreated_concat.mpr rfl)
    · have ends : Program.onlyIf (decide (count = 1))
          (Backend.expire source THROTTLE_WINDOW_SECONDS) = .done () := by
        simp [Program.onlyIf, first]
      dsimp only
      rw [ends]
      intro other created
      have same := justCreated_concat.mp created
      cases same
      exact first rfl
  · intro error other created
    have same := justCreated_concat.mp created
    cases same

theorem reject_traces {deps : GrpcAgentServerDeps} {source : String}
    {history : BackendHistory} (nothing : NothingCreated history) :
    (GrpcAgentServer.reject deps source).Traces Counting
      (fun history _ => NothingCreated history) history := by
  unfold GrpcAgentServer.reject
  cases deps.throttled with
  | false => exact nothing
  | true =>
      apply (recordFailure_traces nothing).bind
      · exact fun _ _ later => later
      · exact fun _ _ later => later

theorem authenticate_traces (deps : GrpcAgentServerDeps) (call : SessionCall) :
    (GrpcAgentServer.authenticate deps call).Traces Counting
      (fun history _ => NothingCreated history) [] := by
  have verifies {history : BackendHistory} (nothing : NothingCreated history) :
      (GrpcAgentServer.verify deps call).Traces Counting
        (fun history _ => NothingCreated history) history := by
    unfold GrpcAgentServer.verify
    dsimp only
    split
    · exact reject_traces nothing
    · split
      · exact reject_traces nothing
      · refine Program.Traces.bind (looks_traces ?_ nothing) ?_ ?_
        · exact (Backend.calls_call _).mpr rfl
        · intro history account nothing
          cases account with
          | none => exact reject_traces nothing
          | some accountId =>
              refine Program.Traces.bind (looks_traces ?_ nothing) ?_ ?_
              · apply (ProviderStore.loadActive_reads _ _).mono
                exact fun _ => looks_of_reads
              · intro history loaded nothing
                split
                · exact reject_traces nothing
                · exact nothing
              · exact fun _ _ later => later
        · exact fun _ _ later => later
  unfold GrpcAgentServer.authenticate
  split
  · refine Program.Traces.bind (looks_traces ?_ nothingCreated_nil) ?_ ?_
    · refine Program.Calls.bind ((Backend.calls_call _).mpr rfl) fun _ => ?_
      trivial
    · intro history blocked nothing
      cases blocked with
      | true => exact nothing
      | false => exact verifies nothing
    · exact fun _ _ later => later
  · exact verifies nothingCreated_nil

/-! ## What a call does to the counters -/

variable {world next : World} {choice : Choice} {source : String}

/-- A look lets time pass. -/
theorem looks_step {call : Call} {answer : Except Err call.Answer}
    (looks : Call.looks call = true)
    (result : semantics call choice world = some (answer, next)) :
    next = world.elapse choice.elapsed := by
  cases call with
  | store call =>
      cases call with
      | readStream params => exact (readStream_step result).1
      | listAggregateIds accountId aggregateType =>
          exact (listAggregateIds_step result).1
      | resolveAccountId aggregateType aggregateId =>
          rcases outside_cases (Option.some.inj result) with
            ⟨-, effect⟩ | ⟨message, -, -, unchanged⟩ |
            ⟨message, -, -, effect⟩
          · exact (congrArg Prod.snd effect).symm
          · exact unchanged
          · exact effect
      | _ => cases looks
  | redis call =>
      cases call with
      | getCounter counted =>
          rcases outside_cases (Option.some.inj result) with
            ⟨-, effect⟩ | ⟨message, -, -, unchanged⟩ |
            ⟨message, -, -, effect⟩
          · exact (congrArg Prod.snd effect).symm
          · exact unchanged
          · exact effect
      | _ => cases looks
  | _ => cases looks

/-- What a call of an authentication does to the counters; `settled` tells
whether nothing keeps a created counter from its expiry. -/
inductive CounterStep (world next : World) (before after : BackendHistory)
    (settled : Bool) : Prop where
  | keeps (same : next.redis.failures = world.redis.failures)
      (nothing : NothingCreated after)
      (settles : settled = true ↔ NothingCreated before)
  | creates (source : String)
      (absent : world.redis.failureCounter source next.now = none)
      (effect : next.redis.failures =
        Function.update world.redis.failures source (some ⟨1, none⟩))
      (nothing : NothingCreated before)
      (told : ∀ other, JustCreated other after ↔ settled = true ∧ source = other)
  | counts (source : String) (counter : FailureCounter)
      (present : world.redis.failureCounter source next.now = some counter)
      (effect : next.redis.failures =
        Function.update world.redis.failures source
          (some { counter with count := counter.count + 1 }))
      (nothing : NothingCreated before)
      (later : 0 < counter.count → NothingCreated after)
      (settles : settled = true)
  | sets (source : String) (created : JustCreated source before)
      (effect : next.redis.failures =
        Function.update world.redis.failures source
          ((world.redis.failureCounter source next.now).map
            ({ · with expiresAt := some (next.now + windowMs) })))
      (nothing : NothingCreated after) (settles : settled = true)

theorem not_nothingCreated {history : BackendHistory}
    (created : JustCreated source history) : ¬ NothingCreated history :=
  fun nothing => nothing source created

/-- An answer that is no success does not tell of a counter. -/
theorem nothingCreated_error {history : BackendHistory} {call : Call}
    (error : Err) : NothingCreated (history ++ [⟨call, .error error⟩]) := by
  intro source created
  have same := justCreated_concat.mp created
  cases same

/-- Who is told that it has counted the first failure has created the counter. -/
theorem justCreated_count {counted other : String} {history : BackendHistory}
    {count : Nat} :
    JustCreated other (history ++
        [@Answered.mk backend Err (.redis (.incr counted)) (.ok count)]) ↔
      count = 1 ∧ counted = other := by
  rw [justCreated_concat]
  constructor
  · intro same
    cases same
    exact ⟨rfl, rfl⟩
  · intro same
    rw [same.1, same.2]

theorem incr_absent
    (absent : world.redis.failureCounter source world.now = none) :
    (RedisCall.incr source).effect world = (.ok (1 : Nat),
      { world with
        redis.failures := Function.update world.redis.failures source
          (some ⟨1, none⟩) }) := by
  simp [RedisCall.effect, Redis.failureCount, absent]

theorem incr_present {counter : FailureCounter}
    (present : world.redis.failureCounter source world.now = some counter) :
    (RedisCall.incr source).effect world = (.ok (counter.count + 1 : Nat),
      { world with
        redis.failures := Function.update world.redis.failures source
          (some { counter with count := counter.count + 1 }) }) := by
  simp [RedisCall.effect, Redis.failureCount, present]

theorem incr_counterStep {history : BackendHistory} {answer : Except Err Nat}
    (nothing : NothingCreated history)
    (result : semantics (.redis (.incr source)) choice world =
      some (answer, next)) :
    CounterStep world next history
      (history ++ [@Answered.mk backend Err (.redis (.incr source)) answer])
      (Call.settles choice world (.redis (.incr source))) := by
  have counted := outside_cases (Option.some.inj result)
  rcases counted with ⟨fate, effect⟩ | ⟨message, fate, rfl, rfl⟩ |
    ⟨message, fate, rfl, rfl⟩
  · cases present : (world.elapse choice.elapsed).redis.failureCounter source
        (world.elapse choice.elapsed).now with
    | none =>
        cases (incr_absent present).symm.trans effect
        refine .creates source present rfl nothing fun other => ?_
        refine justCreated_count.trans ?_
        simp [Call.settles, fate]
    | some counter =>
        cases (incr_present present).symm.trans effect
        refine .counts source counter present rfl nothing ?_ ?_
        · intro positive other created
          have first := (justCreated_count.mp created).1
          omega
        · simp [Call.settles, fate]
  · refine .keeps rfl (nothingCreated_error _) ?_
    simp [Call.settles, fate, nothing]
  · cases present : (world.elapse choice.elapsed).redis.failureCounter source
        (world.elapse choice.elapsed).now with
    | none =>
        rw [incr_absent present]
        refine .creates source present rfl nothing fun other => ?_
        have unsettled : Call.settles choice world (.redis (.incr source)) =
            false := by
          simp only [Call.settles, fate]
          exact congrArg Option.isSome present
        rw [unsettled]
        simp [nothingCreated_error _ other]
    | some counter =>
        rw [incr_present present]
        refine .counts source counter present rfl nothing ?_ ?_
        · exact fun _ => nothingCreated_error _
        · simp only [Call.settles, fate]
          exact congrArg Option.isSome present

theorem expire_counterStep {history : BackendHistory} {answer : Except Err Unit}
    (created : JustCreated source history)
    (result : semantics (.redis (.expire source THROTTLE_WINDOW_SECONDS)) choice
      world = some (answer, next)) :
    CounterStep world next history
      (history ++ [@Answered.mk backend Err
        (.redis (.expire source THROTTLE_WINDOW_SECONDS)) answer])
      (Call.settles choice world
        (.redis (.expire source THROTTLE_WINDOW_SECONDS))) := by
  have after (answer : Except Err Unit) : NothingCreated (history ++
      [@Answered.mk backend Err
        (.redis (.expire source THROTTLE_WINDOW_SECONDS)) answer]) :=
    @nothingCreated_after history
      (.redis (.expire source THROTTLE_WINDOW_SECONDS))
      (fun _ same => by cases same) answer
  rcases outside_cases (Option.some.inj result) with
    ⟨fate, effect⟩ | ⟨message, fate, rfl, rfl⟩ | ⟨message, fate, rfl, rfl⟩
  · cases effect
    refine .sets source created rfl (after _) ?_
    simp [Call.settles, fate, Fate.takesEffect]
  · refine .keeps rfl (after _) ?_
    have cut := not_nothingCreated created
    simp [Call.settles, fate, Fate.takesEffect, cut]
  · refine .sets source created rfl (after _) ?_
    simp [Call.settles, fate, Fate.takesEffect]

/-- What a call of an authentication does to the counters. -/
theorem counting_step {history : BackendHistory} {call : Call}
    {answer : Except Err call.Answer} (counting : Counting history call)
    (result : semantics call choice world = some (answer, next)) :
    CounterStep world next history (history ++ [⟨call, answer⟩])
      (Call.settles choice world call) := by
  cases counting with
  | looks looks nothing =>
      have same := looks_step looks result
      subst same
      have quiet : ∀ source, call ≠ .redis (.incr source) := by
        intro source same
        rw [same] at looks
        cases looks
      refine .keeps rfl (nothingCreated_after quiet answer) ?_
      have settles : Call.settles choice world call = true := by
        cases call with
        | redis call =>
            cases call with
            | getCounter source => rfl
            | _ => cases looks
        | _ => rfl
      exact ⟨fun _ => nothing, fun _ => settles⟩
  | counts counted nothing => exact incr_counterStep nothing result
  | sets source created => exact expire_counterStep created result

theorem step_now {call : Call} {answer : Except Err call.Answer}
    {history : BackendHistory} (counting : Counting history call)
    (result : semantics call choice world = some (answer, next)) :
    next.now = world.now + choice.elapsed := by
  have ofRedis {call : RedisCall} {answer : Except Err call.Answer}
      (result : semantics (.redis call) choice world = some (answer, next)) :
      next.now = world.now + choice.elapsed :=
    outside_frame World.now
      (RedisCall.effect_keeps World.now (fun _ _ => rfl) call)
      (Option.some.inj result)
  cases counting with
  | looks looks nothing => rw [looks_step looks result]; rfl
  | counts counted nothing => exact ofRedis result
  | sets source created => exact ofRedis result

/-! ## The counters between two moves -/

/-- Every counter has counted something, and expires within a window if it
does. -/
def Counted (world : World) : Prop :=
  ∀ source counter, world.redis.failures source = some counter →
    0 < counter.count ∧ ∀ expiresAt, counter.expiresAt = some expiresAt →
      expiresAt ≤ world.now + windowMs

theorem counted_step {before after : BackendHistory} {settled : Bool}
    (counted : Counted world) (step : CounterStep world next before after settled)
    (advanced : world.now ≤ next.now) : Counted next := by
  -- the counters nobody has touched keep their bound
  have bounded {source counter}
      (found : world.redis.failures source = some counter) :
      0 < counter.count ∧ ∀ expiresAt, counter.expiresAt = some expiresAt →
        expiresAt ≤ next.now + windowMs := by
    obtain ⟨positive, bound⟩ := counted source counter found
    refine ⟨positive, fun expiresAt same => ?_⟩
    exact Nat.le_trans (bound expiresAt same)
      (Nat.add_le_add_right advanced windowMs)
  have visible {source counter}
      (found : world.redis.failureCounter source next.now = some counter) :
      world.redis.failures source = some counter :=
    (Option.filter_eq_some_iff.mp found).1
  intro source counter found
  cases step with
  | keeps same nothing settles =>
      rw [same] at found
      exact bounded found
  | creates created absent effect nothing told =>
      rw [effect] at found
      by_cases other : source = created
      · rw [other, Function.update_self] at found
        cases found
        exact ⟨Nat.zero_lt_one, fun _ same => by cases same⟩
      · rw [Function.update_of_ne other] at found
        exact bounded found
  | counts created old present effect nothing later settles =>
      rw [effect] at found
      by_cases other : source = created
      · rw [other, Function.update_self] at found
        cases found
        exact ⟨Nat.succ_pos _, (bounded (visible present)).2⟩
      · rw [Function.update_of_ne other] at found
        exact bounded found
  | sets created isCreated effect nothing settles =>
      rw [effect] at found
      by_cases other : source = created
      · rw [other, Function.update_self] at found
        obtain ⟨old, present, same⟩ := Option.map_eq_some_iff.mp found
        subst same
        refine ⟨(bounded (visible present)).1, fun expiresAt same => ?_⟩
        cases same
        exact Nat.le_refl _
      · rw [Function.update_of_ne other] at found
        exact bounded found

/-- A counter without an expiry is there at every instant. -/
theorem Unlimited.visible {now : Timestamp} {failureCounter}
    (unlimited : Unlimited source world)
    (found : world.redis.failureCounter source now = failureCounter) :
    ∃ counter, failureCounter = some counter ∧ counter.expiresAt = none ∧
      world.redis.failures source = some counter := by
  obtain ⟨counter, present, endless⟩ := unlimited
  refine ⟨counter, found.symm.trans ?_, endless, present⟩
  simp [Redis.failureCounter, present, endless]

theorem unlimited_congr
    (same : next.redis.failures source = world.redis.failures source) :
    Unlimited source next ↔ Unlimited source world := by
  unfold Unlimited
  rw [same]

theorem unlimited_self {counter : FailureCounter}
    (found : world.redis.failures source = some counter) :
    Unlimited source world ↔ counter.expiresAt = none := by
  constructor
  · rintro ⟨same, present, unlimited⟩
    cases found.symm.trans present
    exact unlimited
  · exact fun unlimited => ⟨counter, found, unlimited⟩

/-- Whoever creates a counter has found none. -/
theorem created_step {before after : BackendHistory} {settled : Bool}
    (counted : Counted world) (step : CounterStep world next before after settled)
    (created : JustCreated source after) : ¬ Unlimited source world := by
  intro unlimited
  cases step with
  | keeps same nothing settles => exact nothing source created
  | creates own absent effect nothing told =>
      cases ((told source).mp created).2
      obtain ⟨counter, same, -⟩ := unlimited.visible absent
      cases same
  | counts own counter present effect nothing later settles =>
      have found := (Option.filter_eq_some_iff.mp present).1
      exact later (counted _ _ found).1 source created
  | sets own isCreated effect nothing settles => exact nothing source created

/-- While nothing keeps a counter from its expiry, one without an expiry is
made by who is told of it, who is the one to end that. -/
theorem unlimited_step {before after : BackendHistory}
    (counted : Counted world) (step : CounterStep world next before after true) :
    Unlimited source next ↔
      Unlimited source world ∧ ¬ JustCreated source before ∨
        JustCreated source after := by
  cases step with
  | keeps same nothing settles =>
      rw [unlimited_congr (congrFun same source)]
      have ignorant := settles.mp rfl source
      have later := nothing source
      tauto
  | creates own absent effect nothing told =>
      rw [told source]
      have ignorant := nothing source
      by_cases other : source = own
      · subst other
        have found : next.redis.failures source = some ⟨1, none⟩ := by
          rw [effect, Function.update_self]
        simp [unlimited_self found]
      · have same : Unlimited source next ↔ Unlimited source world :=
          unlimited_congr (by rw [effect, Function.update_of_ne other])
        have apart : own ≠ source := fun same => other same.symm
        tauto
  | counts own counter present effect nothing later settles =>
      have ignorant := nothing source
      have visible := (Option.filter_eq_some_iff.mp present).1
      have unknown := later (counted _ _ visible).1 source
      suffices same : Unlimited source next ↔ Unlimited source world by tauto
      by_cases other : source = own
      · subst other
        have found : next.redis.failures source =
            some { counter with count := counter.count + 1 } := by
          rw [effect, Function.update_self]
        rw [unlimited_self found, unlimited_self visible]
      · exact unlimited_congr (by rw [effect, Function.update_of_ne other])
  | sets own created effect nothing settles =>
      have unknown := nothing source
      by_cases other : source = own
      · subst other
        suffices limited : ¬ Unlimited source next by tauto
        rintro ⟨counter, found, unlimited⟩
        rw [effect, Function.update_self] at found
        obtain ⟨old, -, same⟩ := Option.map_eq_some_iff.mp found
        subst same
        cases unlimited
      · have same : Unlimited source next ↔ Unlimited source world :=
          unlimited_congr (by rw [effect, Function.update_of_ne other])
        have ignorant : ¬ JustCreated source before := by
          intro also
          cases created.symm.trans also
          exact other rfl
        tauto

/-- Whatever keeps a counter from its expiry leaves one that nobody knows
of. -/
theorem unsettled_step {before after : BackendHistory}
    (created : ∀ source, JustCreated source before → Unlimited source world)
    (step : CounterStep world next before after false) :
    ∃ source, Unlimited source next ∧ ¬ JustCreated source after ∧
      (Unlimited source world → JustCreated source before) := by
  cases step with
  | keeps same nothing settles =>
      have cut : ¬ NothingCreated before := fun other => by
        cases settles.mpr other
      obtain ⟨source, own⟩ := not_forall_not.mp cut
      exact ⟨source, (unlimited_congr (congrFun same source)).mpr
        (created source own), nothing source, fun _ => own⟩
  | creates own absent effect nothing told =>
      have found : next.redis.failures own = some ⟨1, none⟩ := by
        rw [effect, Function.update_self]
      refine ⟨own, (unlimited_self found).mpr rfl, ?_, ?_⟩
      · intro known
        cases ((told own).mp known).1
      · intro earlier
        obtain ⟨counter, same, -⟩ := earlier.visible absent
        cases same
  | counts own counter present effect nothing later settles => cases settles
  | sets own isCreated effect nothing settles => cases settles

theorem visible_of_later {counter : FailureCounter} {now expiresAt : Timestamp}
    (found : world.redis.failures source = some counter)
    (expires : counter.expiresAt = some expiresAt) (later : now < expiresAt) :
    world.redis.failureCounter source now = some counter := by
  simp [Redis.failureCounter, found, expires, later]

theorem expiriesStay_of_same
    (same : next.redis.failures = world.redis.failures) :
    ExpiriesStay world next := by
  intro source counter expiresAt found expires later
  rw [← same] at found
  exact ⟨counter, visible_of_later found expires later, expires⟩

theorem expiriesStay_step {before after : BackendHistory} {settled : Bool}
    (created : ∀ source, JustCreated source before → Unlimited source world)
    (step : CounterStep world next before after settled) :
    ExpiriesStay world next := by
  intro source counter expiresAt found expires later
  -- a counter the call leaves alone
  have untouched (same : next.redis.failures source =
      world.redis.failures source) :
      ∃ kept, next.redis.failureCounter source next.now = some kept ∧
        kept.expiresAt = some expiresAt :=
    ⟨counter, visible_of_later (same.trans found) expires later, expires⟩
  have visible := visible_of_later found expires later
  cases step with
  | keeps same nothing settles => exact untouched (congrFun same source)
  | creates own absent effect nothing told =>
      have other : source ≠ own := by
        intro same
        subst same
        cases absent.symm.trans visible
      exact untouched (by rw [effect, Function.update_of_ne other])
  | counts own same present effect nothing counts settles =>
      by_cases other : source = own
      · subst other
        cases present.symm.trans visible
        have counted : next.redis.failures source =
            some { counter with count := counter.count + 1 } := by
          rw [effect, Function.update_self]
        exact ⟨_, visible_of_later counted expires later, expires⟩
      · exact untouched (by rw [effect, Function.update_of_ne other])
  | sets own isCreated effect nothing settles =>
      have other : source ≠ own := by
        intro same
        subst same
        obtain ⟨endless, present, unlimited⟩ := created source isCreated
        cases present.symm.trans found
        cases unlimited.symm.trans expires
      exact untouched (by rw [effect, Function.update_of_ne other])

/-! ## The counters of a run -/

/-- A counter without an expiry is there if and only if the one call that has
created it is about to set its expiry. -/
structure Sheltered (pool : AuthenticationPool) : Prop where
  traced : pool.TracedTo (fun _ => Counting)
    (fun _ history _ => NothingCreated history)
  known : ∀ source,
    pool.KnownToOne (fun _ => JustCreated source) (Unlimited source)
  counted : Counted pool.state

variable {deps : GrpcAgentServerDeps} {pool after : AuthenticationPool}
variable {thread : Thread backend Err Attempt Authentication}

theorem Sheltered.initial (counted : Counted world)
    (limited : ∀ source, ¬ Unlimited source world) :
    Sheltered ⟨world, []⟩ where
  traced := fun _ member => by cases member
  known source := ⟨Pool.OneKnows.initial world,
    fun unlimited => absurd unlimited (limited source),
    fun ⟨_, member, _⟩ => by cases member⟩
  counted := counted

/-- Who has created a counter is about to set its expiry, and nobody else is. -/
theorem Sheltered.awaitsExpiry (sheltered : Sheltered pool)
    (member : thread ∈ pool.threads) :
    FluxIP.awaitsExpiry thread.program = true ↔
      ¬ NothingCreated thread.history := by
  have traced := sheltered.traced thread member
  obtain ⟨request, history, program⟩ := thread
  cases program with
  | done value =>
      exact ⟨fun same => (by cases same), fun cut => absurd traced cut⟩
  | fail error =>
      exact ⟨fun same => (by cases same), fun cut => absurd traced cut⟩
  | await call resume =>
      obtain ⟨counting, -⟩ := traced
      cases counting with
      | looks looks other =>
          constructor
          · intro awaits
            cases call with
            | redis call =>
                cases call with
                | expire source seconds => cases looks
                | _ => cases awaits
            | _ => cases awaits
          · exact fun cut => absurd other cut
      | counts counted other =>
          exact ⟨fun same => (by cases same), fun cut => absurd other cut⟩
      | sets source created =>
          exact ⟨fun _ => not_nothingCreated created, fun _ => rfl⟩

theorem Sheltered.created (sheltered : Sheltered pool)
    (member : thread ∈ pool.threads) (source : String)
    (created : JustCreated source thread.history) :
    Unlimited source pool.state :=
  (sheltered.known source).known.mpr ⟨thread, member, created⟩

theorem Sheltered.counterStep (sheltered : Sheltered pool) {index : Nat}
    {choice : Choice} {request : Attempt} {history : BackendHistory}
    {call : Call} {answer : Except Err call.Answer}
    (tells : Pool.Tells (authenticationService deps) pool next index choice
      request history call answer) :
    CounterStep pool.state next history (history ++ [⟨call, answer⟩])
        (Call.settles choice pool.state call) ∧
      pool.state.now ≤ next.now := by
  obtain ⟨resume, running⟩ := tells.running
  have counting := (sheltered.traced _ (List.mem_of_getElem? running)).1
  refine ⟨counting_step counting tells.answered, ?_⟩
  rw [step_now counting tells.answered]
  exact Nat.le_add_right _ _

theorem Sheltered.advance (sheltered : Sheltered pool) {move : Move Attempt Choice}
    (settles : setsExpiries pool (.go move) = true)
    (moved : pool.step (authenticationService deps) move = some after) :
    Sheltered after where
  traced := sheltered.traced.step (fun request =>
    authenticate_traces deps request.call) moved
  known source := by
    refine (sheltered.known source).step (fun _ => nothingCreated_nil source)
      ?_ ?_ moved
    · intro index choice request history call answer tells told
      obtain ⟨step, -⟩ := sheltered.counterStep tells
      exact .inr (created_step sheltered.counted step told)
    · intro index choice request history call answer same tells
      obtain ⟨step, -⟩ := sheltered.counterStep tells
      obtain ⟨resume, running⟩ := tells.running
      subst same
      simp only [setsExpiries, running] at settles
      rw [settles] at step
      exact unlimited_step sheltered.counted step
  counted := by
    cases move with
    | start request =>
        obtain ⟨-, -, rfl⟩ := Pool.step_start moved
        exact sheltered.counted
    | advance index choice =>
        obtain ⟨request, history, call, resume, answer, state, found, result,
          rfl⟩ := Pool.step_advance moved
        obtain ⟨step, advanced⟩ := sheltered.counterStep
          ⟨⟨resume, found⟩, result⟩
        exact counted_step sheltered.counted step advanced

theorem Sheltered.live {move : ProcessMove} (sheltered : Sheltered pool)
    (settles : setsExpiries pool move = true)
    (moved : pool.live deps move = some after) : Sheltered after := by
  cases move with
  | go move => exact sheltered.advance settles moved
  | stop =>
      cases Option.some.inj moved
      apply Sheltered.initial sheltered.counted
      intro source unlimited
      obtain ⟨thread, member, created⟩ :=
        (sheltered.known source).known.mp unlimited
      have awaits := (sheltered.awaitsExpiry member).mpr
        (not_nothingCreated created)
      have settled := List.all_eq_true.mp settles thread member
      rw [awaits] at settled
      cases settled

/-- After a move that cuts a counter off from its expiry, nobody knows of it. -/
theorem Sheltered.exposed {move : ProcessMove} (sheltered : Sheltered pool)
    (settles : setsExpiries pool move = false)
    (moved : pool.live deps move = some after) : ¬ NoLockout after := by
  intro safe
  cases move with
  | go move =>
      cases move with
      | start request => cases settles
      | advance index choice =>
          obtain ⟨request, history, call, resume, answer, state, found, result,
            rfl⟩ := Pool.step_advance moved
          obtain ⟨step, -⟩ := sheltered.counterStep ⟨⟨resume, found⟩, result⟩
          simp only [setsExpiries, found] at settles
          rw [settles] at step
          obtain ⟨source, unlimited, unknown, earlier⟩ := unsettled_step
            (sheltered.created (List.mem_of_getElem? found)) step
          obtain ⟨thread, member, created⟩ := safe source unlimited
          obtain ⟨other, atOther⟩ := List.getElem?_of_mem member
          by_cases same : index = other
          · subst same
            rw [List.getElem?_set_self
              (List.getElem?_eq_some_iff.mp found).1] at atOther
            cases atOther
            exact unknown created
          · rw [List.getElem?_set_ne same] at atOther
            have known := (sheltered.known source).known.mpr
              ⟨thread, List.mem_of_getElem? atOther, created⟩
            exact same ((sheltered.known source).one index other _ thread found
              atOther (earlier known) created)
  | stop =>
      cases Option.some.inj moved
      obtain ⟨thread, member, awaits⟩ := List.all_eq_false.mp settles
      have cut := (sheltered.awaitsExpiry member).mp (by simpa using awaits)
      obtain ⟨source, created⟩ := not_forall_not.mp cut
      obtain ⟨other, none, -⟩ :=
        safe source (sheltered.created member source created)
      cases none

/-- While calls come and go, a counter keeps its expiry. -/
theorem Sheltered.expiriesStay {move : ProcessMove} (sheltered : Sheltered pool)
    (moved : pool.live deps move = some after) :
    ExpiriesStay pool.state after.state := by
  cases move with
  | go move =>
      cases move with
      | start request =>
          obtain ⟨-, -, rfl⟩ := Pool.step_start moved
          exact expiriesStay_of_same rfl
      | advance index choice =>
          obtain ⟨request, history, call, resume, answer, state, found, result,
            rfl⟩ := Pool.step_advance moved
          obtain ⟨step, -⟩ := sheltered.counterStep ⟨⟨resume, found⟩, result⟩
          exact expiriesStay_step
            (sheltered.created (List.mem_of_getElem? found)) step
  | stop =>
      cases Option.some.inj moved
      exact expiriesStay_of_same rfl

/-- Every counter has an expiry, except while the call that has created it is
about to set it. -/
theorem Sheltered.hasExpiry (sheltered : Sheltered pool) :
    HasExpiry pool.state ↔
      ∀ thread ∈ pool.threads, FluxIP.awaitsExpiry thread.program = false := by
  constructor
  · intro expires thread member
    by_contra awaits
    have cut := (sheltered.awaitsExpiry member).mp (by simpa using awaits)
    obtain ⟨source, created⟩ := not_forall_not.mp cut
    obtain ⟨counter, visible, unlimited, -⟩ :=
      (sheltered.created member source created).visible rfl
    obtain ⟨expiresAt, same, -⟩ := expires source counter visible
    cases unlimited.symm.trans same
  · intro nobody source counter visible
    have found := (Option.filter_eq_some_iff.mp visible).1
    cases expires : counter.expiresAt with
    | some expiresAt =>
        exact ⟨expiresAt, rfl, (sheltered.counted source counter found).2
          expiresAt expires⟩
    | none =>
        obtain ⟨thread, member, created⟩ := (sheltered.known source).known.mp
          ⟨counter, found, expires⟩
        have awaits := (sheltered.awaitsExpiry member).mpr
          (not_nothingCreated created)
        rw [nobody thread member] at awaits
        cases awaits

theorem Sheltered.noLockout (sheltered : Sheltered pool) : NoLockout pool :=
  fun source => (sheltered.known source).known.mp

/-- Left alone, every source is unblocked a window from now. -/
theorem failureCount_ends (expires : HasExpiry world) (source : String) :
    world.redis.failureCount source (world.now + windowMs) = 0 := by
  cases later : world.redis.failureCounter source (world.now + windowMs) with
  | none => simp [Redis.failureCount, later]
  | some counter =>
      obtain ⟨found, passes⟩ := Option.filter_eq_some_iff.mp later
      have visible : world.redis.failureCounter source world.now =
          some counter := by
        obtain ⟨count, expiry⟩ := counter
        refine Option.filter_eq_some_iff.mpr ⟨found, ?_⟩
        cases expiry with
        | none => rfl
        | some expiresAt =>
            have after : world.now + windowMs < expiresAt :=
              of_decide_eq_true passes
            exact decide_eq_true (Nat.lt_of_le_of_lt (Nat.le_add_right _ _) after)
      obtain ⟨expiresAt, same, bound⟩ := expires source counter visible
      rw [same] at passes
      exact absurd (of_decide_eq_true passes) (Nat.not_lt.mpr bound)

theorem Lives.sheltered {initial : AuthenticationPool}
    (lives : Lives deps (fun pool move => setsExpiries pool move = true) initial
      pool) (sheltered : Sheltered initial) : Sheltered pool := by
  induction lives with
  | refl => exact sheltered
  | step _ settles moved ih => exact ih.live settles moved

/-- As long as every call that has created a counter gets to set its expiry,
each counter has one, or its creator is about to set it; this ends with the
first move that does not let a creator do so.  No call moves an expiry. -/
theorem no_permanent_lockout (deps : GrpcAgentServerDeps) {initial : World}
    {pool : AuthenticationPool} (counted : Counted initial)
    (limited : ∀ source, ¬ Unlimited source initial)
    (lives : Lives deps (fun pool move => setsExpiries pool move = true)
      ⟨initial, []⟩ pool) :
    (HasExpiry pool.state ↔
        ∀ thread ∈ pool.threads, awaitsExpiry thread.program = false) ∧
      (HasExpiry pool.state → ∀ source,
        pool.state.redis.failureCount source (pool.state.now + windowMs) = 0) ∧
      ∀ move next, pool.live deps move = some next →
        (NoLockout next ↔ setsExpiries pool move = true) ∧
          ExpiriesStay pool.state next.state := by
  have sheltered := lives.sheltered (.initial counted limited)
  refine ⟨sheltered.hasExpiry, ?_, fun move next moved => ⟨?_, ?_⟩⟩
  · exact fun expires source => failureCount_ends expires source
  · constructor
    · intro safe
      by_contra unsettled
      exact sheltered.exposed (Bool.eq_false_iff.mpr unsettled) moved safe
    · exact fun settles => (sheltered.live settles moved).noLockout
  · exact sheltered.expiriesStay moved

namespace Lockouts

/-- The moves one after the other, if all are possible and pass the check. -/
def follow (deps : GrpcAgentServerDeps)
    (check : AuthenticationPool → ProcessMove → Bool)
    (pool : AuthenticationPool) : List ProcessMove → Option AuthenticationPool
  | [] => some pool
  | move :: moves =>
      if check pool move then
        (pool.live deps move).bind (follow deps check · moves)
      else none

theorem lives_of_follow {allowed : AuthenticationPool → ProcessMove → Prop}
    {check : AuthenticationPool → ProcessMove → Bool}
    (sound : ∀ pool move, check pool move = true → allowed pool move)
    {initial current pool : AuthenticationPool} {moves : List ProcessMove}
    (lives : Lives deps allowed initial current)
    (followed : follow deps check current moves = some pool) :
    Lives deps allowed initial pool := by
  induction moves generalizing current with
  | nil => cases followed; exact lives
  | cons move moves ih =>
      simp only [follow] at followed
      split at followed
      · rename_i passed
        obtain ⟨next, moved, rest⟩ := Option.bind_eq_some_iff.mp followed
        exact ih (lives.step (sound _ _ passed) moved) rest
      · cases followed

/-- A call that names no provider. -/
def rejectedCall : SessionCall := ⟨none, "", "proxy"⟩

/-- The call looks at the counter of its source and counts its failure. -/
def counts (number : Nat) : List ProcessMove :=
  [.go (.start ⟨number, rejectedCall⟩), .go (.advance number .ok),
    .go (.advance number .ok)]

/-- Whether all programs are over, and the counter of the proxy. -/
def proxyOf (pool : AuthenticationPool) : Bool × Option FailureCounter :=
  (pool.threads.all (·.program.isOver), pool.state.redis.failures "proxy")

end Lockouts

open Lockouts in
theorem no_permanent_lockout_rejected :
    ∃ pool : AuthenticationPool,
      proxyOf pool = (true, some ⟨1, some 300000⟩) ∧
      pool.state.redis.failureCount "proxy" (pool.state.now + windowMs) = 0 := by
  have ends : (follow exampleDeps.server setsExpiries ⟨{}, []⟩
      (counts 0 ++ [.go (.advance 0 .ok)])).map proxyOf =
        some (true, some ⟨1, some 300000⟩) := by
    decide +kernel
  obtain ⟨pool, followed, same⟩ := Option.map_eq_some_iff.mp ends
  have counted : Counted {} := fun _ _ found => by cases found
  have limited : ∀ source, ¬ Unlimited source {} :=
    fun _ ⟨_, found, _⟩ => by cases found
  obtain ⟨iff, unblocks, -⟩ := no_permanent_lockout exampleDeps.server counted limited
    (lives_of_follow (fun _ _ passed => passed) .refl followed)
  refine ⟨pool, same, unblocks (iff.mpr fun thread member => ?_) "proxy"⟩
  have allOver := List.all_eq_true.mp (congrArg Prod.fst same) thread member
  cases program : thread.program with
  | await call resume =>
      rw [program] at allOver
      cases allOver
  | _ => rfl

open Lockouts in
/-- The process stops before the expiry is set: after ten rejected calls the
source is blocked at every later instant, and no call is in progress. -/
theorem source_blocked_for_good :
    ¬ ∀ (deps : GrpcAgentServerDeps) (pool : AuthenticationPool),
      Lives deps (fun _ _ => True) ⟨{}, []⟩ pool →
      (∀ thread ∈ pool.threads, thread.program.isOver = true) →
      HasExpiry pool.state ∨ ∀ source, ∃ later, pool.state.now ≤ later ∧
        pool.state.redis.failureCount source later < THROTTLE_MAX_FAILURES := by
  intro claim
  have ends : (follow exampleDeps.server (fun _ _ => true) ⟨{}, []⟩
      (counts 0 ++ .stop :: (List.range 9).flatMap counts)).map proxyOf =
        some (true, some ⟨10, none⟩) := by
    decide +kernel
  obtain ⟨pool, followed, same⟩ := Option.map_eq_some_iff.mp ends
  have lives : Lives exampleDeps.server (fun _ _ => True) ⟨{}, []⟩ pool :=
    lives_of_follow (fun _ _ _ => trivial) .refl followed
  have allOver := List.all_eq_true.mp (congrArg Prod.fst same)
  have counter : pool.state.redis.failures "proxy" = some ⟨10, none⟩ :=
    congrArg Prod.snd same
  rcases claim exampleDeps.server pool lives allOver with expires | unblocked
  · obtain ⟨expiresAt, same, -⟩ := expires "proxy" ⟨10, none⟩ (by
      simp [Redis.failureCounter, counter])
    cases same
  · obtain ⟨later, -, few⟩ := unblocked "proxy"
    have visible : pool.state.redis.failureCounter "proxy" later =
        some ⟨10, none⟩ := by
      unfold Redis.failureCounter
      rw [counter]
      rfl
    unfold Redis.failureCount at few
    rw [visible] at few
    exact absurd few (Nat.lt_irrefl 10)

end FluxIP
