import FluxIP.Adapters.Steps
import FluxIP.Async.Knowledge
import FluxIP.Guarantees.FirewallUpdates

/-!
# Updates of one firewall, one after another

One call replaces all rules of a firewall, so an update that wrote between
another's reading and its write would be lost.  The lock keeps them apart as
long as no lease runs out on an update that has yet to write: then the rules
are what the updates that have written make of them one after another.
-/

namespace FluxIP

open Async

/-- One update on its way: of an execution, or of the cleanup after a detach
or a dropped family. -/
structure FirewallUpdate where
  number : Nat
  config : HetznerFirewallResolvedConfig
  remove : FamilyValues
  add : FamilyValues
  deriving DecidableEq, Repr

namespace FirewallUpdate

def key (update : FirewallUpdate) : LockKey :=
  ⟨update.config.accountId, update.config.firewallId⟩

/-- What the update makes of a rule set, were it the only one. -/
def applied (update : FirewallUpdate) (rules : List HetznerFirewallRule) :
    List HetznerFirewallRule :=
  match matchFirewallRule rules update.config.selector with
  | .rule matched => updatedRules rules matched update.remove update.add
  | _ => rules

end FirewallUpdate

def firewallService :
    Service backend Err FirewallUpdate Unit Choice World where
  semantics := semantics
  program update :=
    applyFirewallRuleUpdate update.config update.remove update.add
  admits _ _ := true

abbrev UpdatePool := Pool backend Err FirewallUpdate Unit World

namespace SerialUpdates

open FirewallUpdates

/-! ## What an update may call -/

/-- The program drew this token. -/
def Drew (token : Id) (history : BackendHistory) : Prop :=
  @Answered.mk backend Err (.clock .randomUUID) (.ok token) ∈ history

/-- The lock was granted under this token. -/
def granted (key : LockKey) (token : Id) : Answered backend Err :=
  @Answered.mk backend Err (.redis (.set key token DEFAULT_TTL_MS)) (.ok true)

/-- An update takes and gives back its lock under a token it drew, reads when
the lock is granted, and writes, once, what it makes of what it has read. -/
def Permitted (update : FirewallUpdate) (history : BackendHistory) :
    Call → Prop
  | .redis (.set key token ttlMs) =>
      key = update.key ∧ ttlMs = DEFAULT_TTL_MS ∧ Drew token history
  | .redis (.compareAndDelete key token) =>
      key = update.key ∧ Drew token history
  | .hetzner (.getFirewall _ _) => ∃ token, Drew token history ∧
      history.getLast? = some (granted update.key token)
  | .hetzner (.setFirewallRules _ firewallId written) =>
      firewallId = update.config.firewallId ∧
      (∀ answered ∈ history, isWrite answered.call = false) ∧
      ∃ rules, history.getLast? = some (rulesRead update.config rules) ∧
        written = update.applied rules
  | .clock _ => True
  | _ => False

/-- An update that returns has written. -/
def Wrote (history : BackendHistory) : Except Err Unit → Prop
  | .ok _ => ∃ answered ∈ history,
      isWrite answered.call = true ∧ succeeds answered = true
  | .error _ => True

variable {update : FirewallUpdate} {history : BackendHistory}
variable {token : Id}

theorem Drew.concat {answered : Answered backend Err}
    (drew : Drew token history) : Drew token (history ++ [answered]) :=
  List.mem_append_left _ drew

/-- What is known while the lock has not been granted. -/
structure Asking (token : Id) (history : BackendHistory) : Prop where
  drew : Drew token history
  unwritten : ∀ answered ∈ history, isWrite answered.call = false

theorem Asking.concat (asking : Asking token history)
    (answered : Answered backend Err)
    (other : isWrite answered.call = false) :
    Asking token (history ++ [answered]) where
  drew := asking.drew.concat
  unwritten := List.forall_mem_append.mpr
    ⟨asking.unwritten, List.forall_mem_singleton.mpr other⟩

/-- How the acquisition ends. -/
def AcquiredBy (update : FirewallUpdate) (history : BackendHistory) :
    Except Err FirewallLockHandle → Prop
  | .ok lock => lock.key = update.key ∧ Asking lock.token history ∧
      history.getLast? = some (granted update.key lock.token)
  | .error _ => True

theorem acquireLoop_permitted {deadline : Timestamp} {passes : Nat}
    (asking : Asking token history) :
    (acquireLoop update.key token deadline passes).Traces (Permitted update)
      (AcquiredBy update) history := by
  induction passes generalizing history with
  | zero => trivial
  | succ passes ih =>
      apply Program.Traces.performing ⟨rfl, rfl, asking.drew⟩
      · intro acquired
        have asked := asking.concat (@Answered.mk backend Err
          (.redis (.set update.key token DEFAULT_TTL_MS)) (.ok acquired)) rfl
        cases acquired with
        | true => exact ⟨rfl, asked, List.getLast?_concat⟩
        | false =>
            apply Program.Traces.performing trivial
            · intro now
              have read := asked.concat (@Answered.mk backend Err
                (.clock .dateNow) (.ok now)) rfl
              by_cases late : deadline ≤ now
              · simp only [late, if_true]
                trivial
              · simp only [late, if_false]
                apply Program.Traces.performing trivial
                · exact fun _ => ih (read.concat _ rfl)
                · exact fun _ => trivial
            · exact fun _ => trivial
      · exact fun _ => trivial

theorem acquire_permitted :
    (acquireFirewallLock update.config.accountId
      update.config.firewallId).Traces (Permitted update)
        (AcquiredBy update) [] := by
  unfold acquireFirewallLock
  generalize DEFAULT_MAX_WAIT_MS / RETRY_DELAY_MS + 1 = passes
  apply Program.Traces.performing trivial
  · intro token
    have drawn : Asking token [@Answered.mk backend Err (.clock .randomUUID)
        (.ok token)] :=
      ⟨List.mem_singleton_self _, List.forall_mem_singleton.mpr rfl⟩
    apply Program.Traces.performing trivial
    · intro now
      exact acquireLoop_permitted (drawn.concat _ rfl)
    · exact fun _ => trivial
  · exact fun _ => trivial

theorem rewrite_permitted (asking : Asking token history)
    (isGranted : history.getLast? = some (granted update.key token)) :
    (rewriteFirewallRule update.config update.remove update.add).Traces
      (Permitted update)
      (fun history result => Drew token history ∧ Wrote history result)
      history := by
  apply Program.Traces.performing ⟨token, asking.drew, isGranted⟩
  · intro rules
    have read := asking.concat (rulesRead update.config rules) rfl
    cases found : matchFirewallRule rules update.config.selector with
    | noMatch => exact ⟨read.drew, trivial⟩
    | ambiguousMatch matchCount => exact ⟨read.drew, trivial⟩
    | rule matched =>
        apply Program.Traces.perform (S := backend)
        · refine ⟨rfl, read.unwritten, rules, List.getLast?_concat, ?_⟩
          simp only [FirewallUpdate.applied, found]
        · intro answer
          refine ⟨read.drew.concat, ?_⟩
          cases answer with
          | error error => trivial
          | ok value =>
              exact ⟨_, List.mem_append_right _ (List.mem_singleton_self _),
                rfl, rfl⟩
  · exact fun _ => ⟨asking.drew.concat, trivial⟩

theorem update_permitted (update : FirewallUpdate) :
    (firewallService.program update).Traces (Permitted update) Wrote [] := by
  apply acquire_permitted.bind
  · intro history lock acquired
    obtain ⟨sameKey, asking, isGranted⟩ := acquired
    apply (rewrite_permitted asking isGranted).attempted.bind
    · intro later outcome ends
      obtain ⟨result, same, drew, wrote⟩ := ends
      cases same
      apply Program.Traces.performing ⟨sameKey, drew⟩
      · intro _
        cases outcome with
        | error error => trivial
        | ok value =>
            obtain ⟨answered, member, written⟩ := wrote
            exact ⟨answered, List.mem_append_left _ member, written⟩
      · exact fun _ => trivial
    · exact fun _ _ _ => trivial
  · exact fun _ _ _ => trivial

/-! ## What its calls do -/

section Steps

variable {world next : World} {choice : Choice} {key : LockKey}
variable {firewallId : Nat} {apiToken : String}
variable {rules : List HetznerFirewallRule}

/-- The lock is granted if no lease on it is in force. -/
theorem set_step {ttlMs : Nat} {answer : Except Err Bool}
    (result : semantics (.redis (.set key token ttlMs)) choice world =
      some (answer, next)) :
    (world.redis.held key (world.now + choice.elapsed) = none ∧
      next = { world.elapse choice.elapsed with
        redis.leases := Function.update world.redis.leases key
          (some ⟨token, world.now + choice.elapsed + ttlMs⟩) }) ∨
    (next = world.elapse choice.elapsed ∧ answer ≠ .ok true) := by
  rcases outside_cases (Option.some.inj result) with
    ⟨-, effect⟩ | ⟨message, -, failed, unchanged⟩ | ⟨message, -, lost, effect⟩
  · simp only [RedisCall.effect] at effect
    split at effect
    · cases effect
      exact .inr ⟨rfl, fun other => by cases other⟩
    · rename_i free
      cases effect
      exact .inl ⟨free, rfl⟩
  · subst failed
    exact .inr ⟨unchanged, fun other => by cases other⟩
  · subst lost
    simp only [RedisCall.effect] at effect
    split at effect
    · exact .inr ⟨effect, fun other => by cases other⟩
    · rename_i free
      exact .inl ⟨free, effect⟩

/-- The lock is given back if its lease is still the own one. -/
theorem compareAndDelete_step {answer : Except Err Unit}
    (result : semantics (.redis (.compareAndDelete key token)) choice world =
      some (answer, next)) :
    ((world.redis.held key (world.now + choice.elapsed)).any
        (·.token = token) = true ∧
      next = { world.elapse choice.elapsed with
        redis.leases := Function.update world.redis.leases key none }) ∨
    next = world.elapse choice.elapsed := by
  rcases outside_cases (Option.some.inj result) with
    ⟨-, effect⟩ | ⟨message, -, -, unchanged⟩ | ⟨message, -, -, effect⟩
  · simp only [RedisCall.effect] at effect
    split at effect
    · rename_i own
      cases effect
      exact .inl ⟨own, rfl⟩
    · cases effect
      exact .inr rfl
  · exact .inr unchanged
  · simp only [RedisCall.effect] at effect
    split at effect
    · rename_i own
      exact .inl ⟨own, effect⟩
    · exact .inr effect

theorem getFirewall_step {answer : Except Err (List HetznerFirewallRule)}
    (result : semantics (.hetzner (.getFirewall apiToken firewallId)) choice
      world = some (answer, next)) :
    next = world.elapse choice.elapsed ∧
      ∀ rules, answer = .ok rules →
        rules = world.hetzner.firewalls firewallId := by
  rcases outside_cases (Option.some.inj result) with
    ⟨-, effect⟩ | ⟨message, -, failed, unchanged⟩ | ⟨message, -, lost, effect⟩
  · cases effect
    refine ⟨rfl, fun rules same => ?_⟩
    cases same
    rfl
  · subst failed
    exact ⟨unchanged, fun _ other => by cases other⟩
  · subst lost
    exact ⟨effect, fun _ other => by cases other⟩

theorem setFirewallRules_step {answer : Except Err Unit}
    (result : semantics (.hetzner (.setFirewallRules apiToken firewallId
      rules)) choice world = some (answer, next)) :
    (choice.fate.takesEffect = true ∧
      next = { world.elapse choice.elapsed with
        hetzner.firewalls :=
          Function.update world.hetzner.firewalls firewallId rules }) ∨
    (choice.fate.takesEffect = false ∧ next = world.elapse choice.elapsed ∧
      ∃ error, answer = .error error) := by
  rcases outside_cases (Option.some.inj result) with
    ⟨fate, effect⟩ | ⟨message, fate, failed, unchanged⟩ |
    ⟨message, fate, lost, effect⟩
  · cases effect
    exact .inl ⟨by rw [fate]; rfl, rfl⟩
  · exact .inr ⟨by rw [fate]; rfl, unchanged, _, failed⟩
  · exact .inl ⟨by rw [fate]; rfl, effect⟩

/-- A clock call draws a token or lets time pass. -/
theorem clock_step {call : ClockCall} {answer : Except Err call.Answer}
    (result : semantics (.clock call) choice world = some (answer, next)) :
    (next = { world.elapse choice.elapsed with
        nextUUID := world.nextUUID + 1 }) ∨
    next = world.elapse choice.elapsed ∧ call ≠ .randomUUID := by
  cases call with
  | randomUUID =>
      cases result
      exact .inl rfl
  | dateNow =>
      cases result
      exact .inr ⟨rfl, fun other => by cases other⟩
  | sleepUntil wakeAt =>
      simp only [semantics, ClockCall.effect] at result
      split at result
      · cases result
        exact .inr ⟨rfl, fun other => by cases other⟩
      · cases result

end Steps

section Permitted

variable {world next : World} {choice : Choice} {call : Call}
variable {answer : Except Err call.Answer}

theorem now_step (permitted : Permitted update history call)
    (result : semantics call choice world = some (answer, next)) :
    next.now = world.now + choice.elapsed := by
  cases call with
  | redis call =>
      cases call with
      | set key token ttlMs =>
          rcases set_step result with ⟨-, rfl⟩ | ⟨rfl, -⟩ <;> rfl
      | compareAndDelete key token =>
          rcases compareAndDelete_step result with ⟨-, rfl⟩ | rfl <;> rfl
      | _ => cases permitted
  | hetzner call =>
      cases call with
      | getFirewall apiToken firewallId =>
          rw [(getFirewall_step result).1]
          rfl
      | setFirewallRules apiToken firewallId rules =>
          rcases setFirewallRules_step result with
            ⟨-, rfl⟩ | ⟨-, rfl, -⟩ <;> rfl
      | _ => cases permitted
  | clock call => rcases clock_step result with rfl | ⟨rfl, -⟩ <;> rfl
  | _ => cases permitted

/-- A token is new when it is drawn. -/
theorem drew_step (permitted : Permitted update history call)
    (result : semantics call choice world = some (answer, next)) :
    world.nextUUID ≤ next.nextUUID ∧
      (Drew token (history ++ [⟨call, answer⟩]) → Drew token history ∨
        token = world.nextUUID ∧ next.nextUUID = world.nextUUID + 1) := by
  have same (other : ∀ token : Id, (⟨call, answer⟩ : Answered backend Err) ≠
        @Answered.mk backend Err (.clock .randomUUID) (.ok token))
      (drew : Drew token (history ++ [⟨call, answer⟩])) :
      Drew token history := by
    rcases List.mem_append.mp drew with earlier | now
    · exact earlier
    · exact absurd (List.mem_singleton.mp now).symm (other token)
  cases call with
  | redis call =>
      refine ⟨Nat.le_of_eq ?_, fun drew =>
        .inl (same (fun _ other => by cases other) drew)⟩
      refine (semantics_frame World.nextUUID (fun _ _ => rfl) ?_ result).symm
      exact call.effect_keeps _ fun _ _ => rfl
  | hetzner call =>
      refine ⟨Nat.le_of_eq ?_, fun drew =>
        .inl (same (fun _ other => by cases other) drew)⟩
      refine (semantics_frame World.nextUUID (fun _ _ => rfl) ?_ result).symm
      exact call.effect_keeps _ fun _ _ => rfl
  | clock call =>
      cases call with
      | randomUUID =>
          cases result
          refine ⟨Nat.le_succ _, fun drew => ?_⟩
          rcases List.mem_append.mp drew with earlier | now
          · exact .inl earlier
          · have fresh := List.mem_singleton.mp now
            cases fresh
            exact .inr ⟨rfl, rfl⟩
      | dateNow =>
          cases result
          exact ⟨Nat.le_refl _, fun drew =>
            .inl (same (fun _ other => by cases other) drew)⟩
      | sleepUntil wakeAt =>
          rcases clock_step result with rfl | ⟨rfl, -⟩
          · exact ⟨Nat.le_succ _, fun drew =>
              .inl (same (fun _ other => by cases other) drew)⟩
          · exact ⟨Nat.le_refl _, fun drew =>
              .inl (same (fun _ other => by cases other) drew)⟩
  | _ => cases permitted

/-- Nobody takes a lease that is in force from who drew its token. -/
theorem lease_step {key : LockKey} {lease : Lease}
    (permitted : Permitted update history call)
    (inForce : world.redis.held key (world.now + choice.elapsed) = some lease)
    (foreign : ¬ Drew lease.token history)
    (result : semantics call choice world = some (answer, next)) :
    next.redis.leases key = world.redis.leases key := by
  cases call with
  | redis call =>
      cases call with
      | set other token ttlMs =>
          rcases set_step result with ⟨free, rfl⟩ | ⟨rfl, -⟩
          · have apart : key ≠ other := by
              intro same
              rw [same, free] at inForce
              cases inForce
            exact Function.update_of_ne apart _ _
          · rfl
      | compareAndDelete other token =>
          rcases compareAndDelete_step result with ⟨own, rfl⟩ | rfl
          · have apart : key ≠ other := by
              intro same
              subst same
              rw [inForce, Option.any_some, decide_eq_true_eq] at own
              exact foreign (own ▸ permitted.2)
            exact Function.update_of_ne apart _ _
          · rfl
      | _ => cases permitted
  | hetzner call =>
      refine congrFun (semantics_frame (fun world => world.redis.leases)
        (fun _ _ => rfl) ?_ result) key
      exact call.effect_keeps (fun world => world.redis.leases)
        fun _ _ => rfl
  | clock call =>
      rcases clock_step result with rfl | ⟨rfl, -⟩ <;> rfl
  | _ => cases permitted

/-- The rules of a firewall change when they are replaced. -/
theorem firewall_step {firewallId : Nat}
    (permitted : Permitted update history call)
    (result : semantics call choice world = some (answer, next)) :
    next.hetzner.firewalls firewallId = world.hetzner.firewalls firewallId ∨
    ∃ apiToken written,
      call = .hetzner (.setFirewallRules apiToken firewallId written) ∧
      choice.fate.takesEffect = true ∧
      next.hetzner.firewalls firewallId = written := by
  cases call with
  | redis call =>
      refine .inl (congrFun (semantics_frame
        (fun world => world.hetzner.firewalls) (fun _ _ => rfl) ?_ result)
          firewallId)
      exact call.effect_keeps (fun world => world.hetzner.firewalls)
        fun _ _ => rfl
  | hetzner call =>
      cases call with
      | getFirewall apiToken other =>
          rw [(getFirewall_step result).1]
          exact .inl rfl
      | setFirewallRules apiToken other written =>
          rcases setFirewallRules_step result with
            ⟨effective, rfl⟩ | ⟨-, rfl, -⟩
          · by_cases same : firewallId = other
            · subst same
              exact .inr ⟨apiToken, written, rfl, effective,
                Function.update_self _ _ _⟩
            · exact .inl (Function.update_of_ne same _ _)
          · exact .inl rfl
      | _ => cases permitted
  | clock call =>
      rcases clock_step result with rfl | ⟨rfl, -⟩ <;> exact .inl rfl
  | _ => cases permitted

end Permitted

/-! ## The order of the writes -/

/-- The update is about to read or to write the rules. -/
def isInside (thread : Thread backend Err FirewallUpdate Unit) : Bool :=
  match thread.program with
  | .await (.hetzner _) _ => true
  | _ => false

/-- The updates of the firewall are of one account, and time does not pass the
end of the lease while one of them is about to read or to write. -/
def isTimely (key : LockKey) (pool : UpdatePool) :
    Move FirewallUpdate Choice → Bool
  | .start update =>
      update.config.firewallId ≠ key.firewallId || update.key = key
  | .advance _ choice => pool.threads.all fun thread =>
      thread.request.key ≠ key || !isInside thread ||
        (pool.state.redis.leases key).all fun lease =>
          pool.state.now + choice.elapsed < lease.expiresAt

/-- The update whose write to the firewall takes effect with this move. -/
def writer (firewallId : Nat) (pool : UpdatePool) :
    Move FirewallUpdate Choice → List FirewallUpdate
  | .start _ => []
  | .advance index choice =>
      match pool.threads[index]? with
      | some ⟨update, _, .await (.hetzner (.setFirewallRules _ other _)) _⟩ =>
          if other = firewallId ∧ choice.fate.takesEffect = true then [update]
          else []
      | _ => []

/-- The update holds the lock, and what it is about to write it has made of
the rules as they are. -/
structure Inside (world : World)
    (thread : Thread backend Err FirewallUpdate Unit) : Prop where
  leased : ∃ lease, world.redis.leases thread.request.key = some lease ∧
    world.now < lease.expiresAt ∧ Drew lease.token thread.history
  current : ∀ apiToken firewallId written resume,
    thread.program =
      .await (.hetzner (.setFirewallRules apiToken firewallId written)) resume →
    written = thread.request.applied (world.hetzner.firewalls firewallId)

/-- The program has attempted to write. -/
def Attempted (history : BackendHistory) : Prop :=
  ∃ answered ∈ history, isWrite answered.call = true

/-- The program knows that it has written. -/
def Knows (history : BackendHistory) : Prop :=
  ∃ answered ∈ history,
    isWrite answered.call = true ∧ succeeds answered = true

/-- What holds of a pool in which these updates have written, in this order. -/
structure Serial (key : LockKey) (start : List HetznerFirewallRule)
    (pool : UpdatePool) (order : List FirewallUpdate) : Prop where
  traced : pool.TracedTo Permitted fun _ => Wrote
  distinct : (pool.threads.map Thread.request).Nodup
  asks : pool.Asks fun update =>
    update.config.firewallId = key.firewallId → update.key = key
  drawn : ∀ token, pool.Knows (fun _ => Drew token)
    fun world => token < world.nextUUID
  one : ∀ token, pool.OneKnows fun _ => Drew token
  inside : ∀ thread ∈ pool.threads, thread.request.key = key →
    isInside thread = true → Inside pool.state thread
  rules : pool.state.hetzner.firewalls key.firewallId =
    order.foldl (fun rules update => update.applied rules) start
  once : order.Nodup
  written : ∀ update ∈ order, update.key = key ∧
    ∃ thread ∈ pool.threads, thread.request = update ∧ Attempted thread.history
  complete : ∀ thread ∈ pool.threads, thread.request.key = key →
    Knows thread.history → thread.request ∈ order

section Run

variable {key : LockKey} {start : List HetznerFirewallRule}
variable {pool next : UpdatePool} {order : List FirewallUpdate}
variable {index : Nat} {choice : Choice} {call : Call}
variable {resume : Except Err call.Answer → Backend Unit}
variable {answer : Except Err call.Answer} {state : World}

theorem Serial.initial (state : World) :
    Serial key (state.hetzner.firewalls key.firewallId) ⟨state, []⟩ [] where
  traced _ member := by cases member
  distinct := List.nodup_nil
  asks _ member := by cases member
  drawn _ := .initial state
  one _ := .initial state
  inside _ member := by cases member
  rules := rfl
  once := List.nodup_nil
  written _ member := by cases member
  complete _ member := by cases member

theorem not_drew_nil : ¬ Drew token [] := fun drew => by cases drew

/-- The moving thread calls what it may. -/
theorem Serial.permitted (serial : Serial key start pool order)
    (found : pool.threads[index]? =
      some ⟨update, history, .await call resume⟩) :
    Permitted update history call :=
  (serial.traced _ (List.mem_of_getElem? found)).1

theorem Serial.drawn_step {move : Move FirewallUpdate Choice}
    (serial : Serial key start pool order)
    (moved : pool.step firewallService move = some next) :
    next.Knows (fun _ => Drew token) fun world => token < world.nextUUID := by
  apply (serial.drawn token).step (fun _ => not_drew_nil) _ _ moved
  · intro drawn
    cases move with
    | start update =>
        obtain ⟨-, -, rfl⟩ := Pool.step_start moved
        exact drawn
    | advance index choice =>
        obtain ⟨update, history, call, resume, answer, state, found, result,
          rfl⟩ := Pool.step_advance moved
        have drew : _ ∧ (Drew token _ → _) :=
          drew_step (serial.permitted found) result
        exact Nat.lt_of_lt_of_le drawn drew.1
  · intro index choice update history call answer tells drew
    obtain ⟨resume, found⟩ := tells.running
    rcases (drew_step (serial.permitted found) tells.answered).2 drew with
      earlier | ⟨fresh, grown⟩
    · exact .inl earlier
    · refine .inr ?_
      rw [fresh, grown]
      exact Nat.lt_succ_self _

theorem Serial.one_step {move : Move FirewallUpdate Choice}
    (serial : Serial key start pool order)
    (moved : pool.step firewallService move = some next) :
    next.OneKnows fun _ => Drew token := by
  apply (serial.one token).step (fun _ => not_drew_nil) _ moved
  intro index choice update history call answer tells drew
  obtain ⟨resume, found⟩ := tells.running
  rcases (drew_step (serial.permitted found) tells.answered).2 drew with
    earlier | ⟨fresh, -⟩
  · exact .inl earlier
  · refine .inr fun thread member known => ?_
    have below := serial.drawn token thread member known
    rw [fresh] at below
    exact Nat.lt_irrefl _ below

/-- One update at most is about to read or to write. -/
theorem Serial.alone (serial : Serial key start pool order)
    {left right : Nat} {first second : Thread backend Err FirewallUpdate Unit}
    (atLeft : pool.threads[left]? = some first)
    (atRight : pool.threads[right]? = some second)
    (ofKey : first.request.key = key) (also : second.request.key = key)
    (firstIn : isInside first = true) (secondIn : isInside second = true) :
    left = right := by
  obtain ⟨lease, isLease, -, drew⟩ :=
    (serial.inside first (List.mem_of_getElem? atLeft) ofKey firstIn).leased
  obtain ⟨other, isOther, -, drewOther⟩ :=
    (serial.inside second (List.mem_of_getElem? atRight) also secondIn).leased
  rw [ofKey] at isLease
  rw [also, isLease] at isOther
  cases isOther
  exact serial.one lease.token left right first second atLeft atRight drew
    drewOther

/-- What is timely for the updates that are inside. -/
theorem inForce_of_timely {thread : Thread backend Err FirewallUpdate Unit}
    (timely : isTimely key pool (.advance index choice) = true)
    (member : thread ∈ pool.threads) (ofKey : thread.request.key = key)
    (isIn : isInside thread = true) {lease : Lease}
    (isLease : pool.state.redis.leases key = some lease) :
    pool.state.now + choice.elapsed < lease.expiresAt := by
  have here := List.all_eq_true.mp timely thread member
  simpa [ofKey, isIn, isLease] using here

/-- Another update's move leaves an update inside. -/
theorem Serial.inside_other (serial : Serial key start pool order)
    (timely : isTimely key pool (.advance index choice) = true)
    (found : pool.threads[index]? =
      some ⟨update, history, .await call resume⟩)
    (result : semantics call choice pool.state = some (answer, state))
    {position : Nat} {thread : Thread backend Err FirewallUpdate Unit}
    (apart : position ≠ index)
    (atPosition : pool.threads[position]? = some thread)
    (ofKey : thread.request.key = key) (isIn : isInside thread = true) :
    Inside state thread := by
  have member := List.mem_of_getElem? atPosition
  have permitted := serial.permitted found
  have before := serial.inside thread member ofKey isIn
  obtain ⟨lease, isLease, -, drew⟩ := before.leased
  rw [ofKey] at isLease
  have inTime := inForce_of_timely timely member ofKey isIn isLease
  have foreign : ¬ Drew lease.token history := fun own =>
    apart (serial.one lease.token position index thread _ atPosition found
      drew own)
  have held : pool.state.redis.held key (pool.state.now + choice.elapsed) =
      some lease := by
    simp [Redis.held, isLease, inTime]
  constructor
  · refine ⟨lease, ?_, ?_, drew⟩
    · rw [ofKey, lease_step permitted held foreign result, isLease]
    · rw [now_step permitted result]
      exact inTime
  · intro apiToken firewallId written rest awaits
    have own : firewallId = key.firewallId := by
      have traces := serial.traced thread member
      rw [awaits] at traces
      rw [traces.1.1, ← ofKey]
      rfl
    rw [before.current apiToken firewallId written rest awaits]
    rcases firewall_step permitted result with
      same | ⟨apiToken', written', isWrite, -, -⟩
    · exact congrArg _ same.symm
    · -- a second writer would hold the same lock
      subst isWrite
      have also : update.key = key :=
        serial.asks _ (List.mem_of_getElem? found)
          (permitted.1.symm.trans own)
      exact absurd (serial.alone atPosition found ofKey also isIn rfl) apart

/-- An update gets inside when it is granted the lock, and stays there when it
has read the rules. -/
theorem Serial.inside_own (serial : Serial key start pool order)
    (timely : isTimely key pool (.advance index choice) = true)
    (found : pool.threads[index]? =
      some ⟨update, history, .await call resume⟩)
    (result : semantics call choice pool.state = some (answer, state))
    (ofKey : update.key = key)
    (isIn : isInside ⟨update, history ++ [⟨call, answer⟩],
      resume answer⟩ = true) :
    Inside state ⟨update, history ++ [⟨call, answer⟩], resume answer⟩ := by
  have member := List.mem_of_getElem? found
  have permitted := serial.permitted found
  have traces : (resume answer).Traces (Permitted update) Wrote
      (history ++ [⟨call, answer⟩]) := (serial.traced _ member).2 answer
  cases rest : resume answer with
  | done value =>
      rw [rest] at isIn
      cases isIn
  | fail error =>
      rw [rest] at isIn
      cases isIn
  | await later resumeLater =>
      rw [rest] at traces isIn
      cases later with
      | hetzner later =>
          cases later with
          | getFirewall apiToken firewallId =>
              obtain ⟨own, drew, last⟩ := traces.1
              rw [List.getLast?_concat] at last
              cases last
              constructor
              · rcases set_step result with ⟨-, rfl⟩ | ⟨-, refused⟩
                · refine ⟨⟨own, _⟩, Function.update_self _ _ _, ?_, drew⟩
                  exact Nat.lt_add_of_pos_right (by decide)
                · exact absurd rfl refused
              · intro _ _ _ _ awaits
                cases awaits
          | setFirewallRules apiToken firewallId written =>
              obtain ⟨same, -, rules, last, made⟩ := traces.1
              rw [List.getLast?_concat] at last
              cases last
              obtain ⟨rfl, isRules⟩ := getFirewall_step result
              obtain ⟨lease, isLease, -, drew⟩ :=
                (serial.inside _ member ofKey rfl).leased
              constructor
              · refine ⟨lease, isLease, ?_, drew.concat⟩
                rw [ofKey] at isLease
                exact inForce_of_timely timely member ofKey rfl isLease
              · intro _ _ _ _ awaits
                cases awaits
                rw [made, isRules rules rfl, same]
                rfl
          | setRecords apiToken zoneName recordName type value =>
              cases traces.1
      | _ => cases isIn

theorem Serial.inside_step {move : Move FirewallUpdate Choice}
    (serial : Serial key start pool order)
    (timely : isTimely key pool move = true)
    (moved : pool.step firewallService move = some next)
    (thread : Thread backend Err FirewallUpdate Unit)
    (member : thread ∈ next.threads) (ofKey : thread.request.key = key)
    (isIn : isInside thread = true) : Inside next.state thread := by
  cases move with
  | start update =>
      obtain ⟨-, -, rfl⟩ := Pool.step_start moved
      rcases List.mem_append.mp member with old | new
      · exact serial.inside thread old ofKey isIn
      · rw [List.mem_singleton] at new
        subst new
        cases isIn
  | advance index choice =>
      obtain ⟨update, history, call, resume, answer, state, found, result,
        rfl⟩ := Pool.step_advance moved
      rcases Pool.of_mem_set member with own | ⟨position, apart, atPosition⟩
      · subst own
        exact serial.inside_own timely found result ofKey isIn
      · exact serial.inside_other timely found result apart atPosition ofKey
          isIn

/-- The updates that have written are those that did before the move, and the
one whose write takes effect with it. -/
theorem Serial.writer_cases (serial : Serial key start pool order)
    (found : pool.threads[index]? =
      some ⟨update, history, .await call resume⟩)
    (result : semantics call choice pool.state = some (answer, state)) :
    (∃ apiToken, call = .hetzner (.setFirewallRules apiToken key.firewallId
        (update.applied (pool.state.hetzner.firewalls key.firewallId))) ∧
      update.key = key ∧
      writer key.firewallId pool (.advance index choice) = [update] ∧
      state.hetzner.firewalls key.firewallId =
        update.applied (pool.state.hetzner.firewalls key.firewallId)) ∨
    (writer key.firewallId pool (.advance index choice) = [] ∧
      state.hetzner.firewalls key.firewallId =
        pool.state.hetzner.firewalls key.firewallId ∧
      (update.key = key → isWrite call = true →
        ∃ error, answer = .error error)) := by
  have permitted := serial.permitted found
  have member := List.mem_of_getElem? found
  cases call with
  | hetzner call =>
      cases call with
      | setFirewallRules apiToken firewallId written =>
          by_cases own : firewallId = key.firewallId
          · have ofKey : update.key = key :=
              serial.asks _ member (permitted.1.symm.trans own)
            have current := (serial.inside _ member ofKey rfl).current
              apiToken firewallId written resume rfl
            subst own
            change written = update.applied _ at current
            subst current
            rcases setFirewallRules_step result with
              ⟨effective, rfl⟩ | ⟨ineffective, rfl, failed⟩
            · refine .inl ⟨apiToken, rfl, ofKey, ?_,
                Function.update_self _ _ _⟩
              simp only [writer, found, effective, and_self, if_true]
            · refine .inr ⟨?_, rfl, fun _ _ => failed⟩
              simp only [writer, found, ineffective, Bool.false_eq_true,
                and_false, if_false]
          · refine .inr ⟨?_, ?_, ?_⟩
            · simp only [writer, found, own, false_and, if_false]
            · rcases setFirewallRules_step result with
                ⟨-, rfl⟩ | ⟨-, rfl, -⟩
              · exact Function.update_of_ne (Ne.symm own) _ _
              · rfl
            · intro ofKey _
              exact absurd (permitted.1.trans (congrArg LockKey.firewallId
                ofKey)) own
      | getFirewall apiToken firewallId =>
          refine .inr ⟨?_, ?_, fun _ writes => by cases writes⟩
          · simp only [writer, found]
          · rw [(getFirewall_step result).1]
            rfl
      | setRecords apiToken zoneName recordName type value =>
          cases permitted
  | redis call =>
      rcases firewall_step permitted result with
        same | ⟨apiToken, written, isCall, -⟩
      · refine .inr ⟨?_, same, fun _ writes => by cases writes⟩
        simp only [writer, found]
      · cases isCall
  | clock call =>
      rcases firewall_step permitted result with
        same | ⟨apiToken, written, isCall, -⟩
      · refine .inr ⟨?_, same, fun _ writes => by cases writes⟩
        simp only [writer, found]
      · cases isCall
  | _ => cases permitted

theorem lasting_attempted (update : FirewallUpdate) (other : FirewallUpdate) :
    Lasting fun history => other = update ∧ Attempted history := by
  intro history answered known
  obtain ⟨same, attempt, member, isWrite⟩ := known
  exact ⟨same, attempt, List.mem_append_left _ member, isWrite⟩

/-- An update that has written before is still in the pool. -/
theorem Serial.written_kept {move : Move FirewallUpdate Choice}
    (serial : Serial key start pool order)
    (moved : pool.step firewallService move = some next)
    (member : update ∈ order) : update.key = key ∧
      ∃ thread ∈ next.threads, thread.request = update ∧
        Attempted thread.history := by
  obtain ⟨ofKey, thread, isThread, known⟩ := serial.written update member
  exact ⟨ofKey, Pool.known_step (lasting_attempted update)
    ⟨thread, isThread, known⟩ moved⟩

theorem Serial.arrival (serial : Serial key start pool order)
    (timely : isTimely key pool (.start update) = true)
    (moved : pool.step firewallService (.start update) = some next) :
    Serial key start next order where
  traced := serial.traced.step update_permitted moved
  distinct := Pool.distinct_step serial.distinct moved
  asks := by
    apply serial.asks.step _ moved
    intro request same ofFirewall
    cases same
    simpa [isTimely, ofFirewall] using timely
  drawn _ := serial.drawn_step moved
  one _ := serial.one_step moved
  inside := serial.inside_step timely moved
  rules := by
    obtain ⟨-, -, rfl⟩ := Pool.step_start moved
    exact serial.rules
  once := serial.once
  written _ := serial.written_kept moved
  complete := by
    obtain ⟨-, -, rfl⟩ := Pool.step_start moved
    intro thread member ofKey known
    rcases List.mem_append.mp member with old | new
    · exact serial.complete thread old ofKey known
    · rw [List.mem_singleton] at new
      subst new
      obtain ⟨answered, none, -⟩ := known
      cases none

theorem Serial.advance (serial : Serial key start pool order)
    (timely : isTimely key pool (.advance index choice) = true)
    (moved : pool.step firewallService (.advance index choice) = some next) :
    Serial key start next
      (order ++ writer key.firewallId pool (.advance index choice)) := by
  have traced := serial.traced.step update_permitted moved
  have distinct := Pool.distinct_step serial.distinct moved
  have asks := serial.asks.step (fun _ same => by cases same) moved
  have inside := serial.inside_step timely moved
  have kept (update : FirewallUpdate) (before : update ∈ order) :
      update.key = key ∧ ∃ thread ∈ next.threads,
        thread.request = update ∧ Attempted thread.history :=
    serial.written_kept moved before
  have drawn (token : Id) : next.Knows (fun _ => Drew token)
      fun world => token < world.nextUUID := serial.drawn_step moved
  have one (token : Id) : next.OneKnows fun _ => Drew token :=
    serial.one_step moved
  obtain ⟨update, history, call, resume, answer, state, found, result, rfl⟩ :=
    Pool.step_advance moved
  have member := List.mem_of_getElem? found
  have advanced : (⟨update, history ++ [⟨call, answer⟩], resume answer⟩ :
      Thread backend Err FirewallUpdate Unit) ∈ pool.threads.set index
        ⟨update, history ++ [⟨call, answer⟩], resume answer⟩ :=
    List.mem_set (List.getElem?_eq_some_iff.mp found).1 _
  rcases serial.writer_cases found result with
    ⟨apiToken, rfl, ofKey, written, changed⟩ | ⟨nothing, same, fails⟩
  · have fresh : update ∉ order := by
      intro before
      obtain ⟨-, thread, isThread, sameRequest, answered, isAnswered,
        isWrite⟩ := serial.written update before
      have sameThread := List.inj_on_of_nodup_map serial.distinct isThread
        member sameRequest
      subst sameThread
      have unwritten := (serial.permitted found).2.1 answered isAnswered
      rw [isWrite] at unwritten
      cases unwritten
    rw [written]
    refine ⟨traced, distinct, asks, drawn, one, inside, ?_, ?_, ?_, ?_⟩
    · rw [List.foldl_append, ← serial.rules]
      exact changed
    · exact List.nodup_append.mpr ⟨serial.once, List.nodup_singleton _,
        fun old isOld new isNew same => fresh
          (List.mem_singleton.mp isNew ▸ same ▸ isOld)⟩
    · intro other isOther
      rcases List.mem_append.mp isOther with old | new
      · exact kept other old
      · rw [List.mem_singleton] at new
        subst new
        exact ⟨ofKey, _, advanced, rfl, _,
          List.mem_append_right _ (List.mem_singleton_self _), rfl⟩
    · intro thread isThread sameKey known
      rcases Pool.of_mem_set isThread with own | ⟨position, -, atPosition⟩
      · subst own
        exact List.mem_append_right _ (List.mem_singleton_self _)
      · exact List.mem_append_left _ (serial.complete thread
          (List.mem_of_getElem? atPosition) sameKey known)
  · rw [nothing, List.append_nil]
    refine ⟨traced, distinct, asks, drawn, one, inside, same.trans serial.rules,
      serial.once, kept, ?_⟩
    intro thread isThread sameKey known
    rcases Pool.of_mem_set isThread with own | ⟨position, -, atPosition⟩
    · subst own
      obtain ⟨answered, isAnswered, isWrite, succeeded⟩ := known
      rcases List.mem_append.mp isAnswered with old | new
      · exact serial.complete ⟨update, history, .await call resume⟩ member
          sameKey ⟨answered, old, isWrite, succeeded⟩
      · rw [List.mem_singleton] at new
        subst new
        obtain ⟨error, rfl⟩ := fails sameKey isWrite
        cases succeeded
    · exact serial.complete thread (List.mem_of_getElem? atPosition) sameKey
        known

end Run

end SerialUpdates

open SerialUpdates

/-- As long as no lease runs out on an update that has yet to write, the rules
of the firewall are what the updates whose write took effect make of them one
after another; each of them writes once, and every update that has returned is
among them. -/
theorem firewall_updates_are_serial {accountId : Id} {firewallId : Nat}
    {initial : World} {pool : UpdatePool} {order : List FirewallUpdate}
    (observed : Pool.Observed firewallService (writer firewallId)
      (fun pool move => isTimely ⟨accountId, firewallId⟩ pool move = true)
      ⟨initial, []⟩ pool order) :
    pool.state.hetzner.firewalls firewallId =
        order.foldl (fun rules update => update.applied rules)
          (initial.hetzner.firewalls firewallId) ∧
      order.Nodup ∧
      (∀ update ∈ order, update.key = ⟨accountId, firewallId⟩ ∧
        ∃ thread ∈ pool.threads, thread.request = update) ∧
      ∀ update history, update.key = ⟨accountId, firewallId⟩ →
        ⟨update, history, .done ()⟩ ∈ pool.threads → update ∈ order := by
  have serial : Serial ⟨accountId, firewallId⟩
      (initial.hetzner.firewalls firewallId) pool order := by
    apply observed.invariant (.initial initial)
    intro pool order move next serial timely moved
    cases move with
    | start update =>
        rw [writer, List.append_nil]
        exact serial.arrival timely moved
    | advance index choice => exact serial.advance timely moved
  refine ⟨serial.rules, serial.once, ?_, ?_⟩
  · intro update member
    obtain ⟨ofKey, thread, isThread, same, -⟩ := serial.written update member
    exact ⟨ofKey, thread, isThread, same⟩
  · intro update history ofKey member
    exact serial.complete _ member ofKey (serial.traced _ member)

/-! ## Two updates at once -/

namespace SerialUpdates

/-- The device's address changes. -/
def moves : FirewallUpdate :=
  ⟨0, exampleUpdate, ⟨some "198.51.100.7/32", none⟩,
    ⟨some "203.0.113.5/32", none⟩⟩

/-- Another action adds its address to the same rule. -/
def joins : FirewallUpdate :=
  ⟨1, exampleUpdate, {}, ⟨some "192.0.2.9/32", none⟩⟩

/-- The second update asks for the lock while the first holds it, and again
after it has slept. -/
def crossing : List (Move FirewallUpdate Choice) :=
  [.start moves, .start joins] ++
    [0, 0, 0, 1, 1, 1, 1, 0, 0, 0].map (.advance · .ok) ++
    [.advance 1 { elapsed := 100 }] ++
    [1, 1, 1, 1].map (.advance · .ok)

def withRules : World :=
  { hetzner := { firewalls := fun _ => exampleRules } }

def isDone (pool : UpdatePool) (index : Nat) : Option FirewallUpdate :=
  (pool.returned index).map (·.1)

end SerialUpdates

open SerialUpdates in
theorem firewall_updates_are_serial_crossing :
    ∃ (pool : UpdatePool) (order : List FirewallUpdate),
      moves ∈ order ∧ joins ∈ order ∧
      pool.state.hetzner.firewalls 9 =
        order.foldl (fun rules update => update.applied rules) exampleRules := by
  have ends : ((⟨withRules, []⟩ : UpdatePool).follow firewallService
      (isTimely ⟨1, 9⟩) crossing).map
      (fun pool => (isDone pool 0, isDone pool 1)) =
        some (some moves, some joins) := by
    decide +kernel
  obtain ⟨pool, followed, same⟩ := Option.map_eq_some_iff.mp ends
  obtain ⟨order, observed⟩ := Pool.Run.observed
    (Pool.run_of_follow (fun _ _ passed => passed) followed)
  obtain ⟨rules, -, -, complete⟩ := firewall_updates_are_serial observed
  have among (index : Nat) (update : FirewallUpdate)
      (ofKey : update.key = ⟨1, 9⟩) (done : isDone pool index = some update) :
      update ∈ order := by
    obtain ⟨⟨request, value⟩, returned, rfl⟩ := Option.map_eq_some_iff.mp done
    obtain ⟨history, member⟩ := Pool.mem_of_returned returned
    exact complete request history ofKey member
  exact ⟨pool, order, among 0 moves rfl (congrArg Prod.fst same),
    among 1 joins rfl (congrArg Prod.snd same), rules⟩

end FluxIP
