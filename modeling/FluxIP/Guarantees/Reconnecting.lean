import FluxIP.Agent.SessionSteps
import FluxIP.Guarantees.SessionConversation
import Mathlib.Algebra.Order.Ring.Nat

/-!
# Reconnecting

How long the client waits after a session: a rejection is retried slowly, and
every other end after a wait that doubles with each attempt since a session was
last connected, up to a bound.  It never waits for no time at all.
-/

namespace FluxIP

namespace SessionClient

/-! ## The wait before an attempt -/

theorem doubled_eq (max attempt d : Nat) :
    min (doubled max attempt d) max = min (d * 2 ^ attempt) max := by
  induction attempt generalizing d with
  | zero => rw [doubled, pow_zero, Nat.mul_one]
  | succ attempt ih =>
      rw [doubled]
      by_cases below : d < max
      · rw [if_pos below, ih, Nat.pow_succ', Nat.mul_assoc]
      · rw [if_neg below]
        have reached := Nat.le_of_not_lt below
        have further : max ≤ d * 2 ^ (attempt + 1) :=
          Nat.le_trans reached (Nat.le_mul_of_pos_right d (Nat.two_pow_pos _))
        rw [Nat.min_eq_right reached, Nat.min_eq_right further]

/-- The loop of `Backoff` computes a power, cut off at the bound. -/
theorem backoff_eq (attempt lowest highest : Nat) :
    backoff attempt lowest highest =
      min (lowest * 2 ^ attempt) highest := by
  rw [← doubled_eq, backoff]
  by_cases beyond : highest < doubled highest attempt lowest
  · simp only [beyond, if_true]
    exact (Nat.min_eq_right (Nat.le_of_lt beyond)).symm
  · simp only [beyond, if_false]
    exact (Nat.min_eq_left (Nat.le_of_not_lt beyond)).symm

/-- The errors that are retried slowly. -/
def StatusCode.isRejection : StatusCode → Bool
  | .unauthenticated => true
  | .failedPrecondition => true
  | .permissionDenied => true
  | .resourceExhausted => true
  | _ => false

theorem waitAfter_eq (options : Options) (err : SessionError)
    (attempt : Nat) :
    waitAfter options err attempt =
      if err.code.isRejection then options.authRetry
      else min (options.minBackoff * 2 ^ attempt) options.maxBackoff := by
  rw [← backoff_eq, waitAfter]
  cases err.code <;> rfl

/-! ## The attempts of a run -/

/-- The sessions from the last connected one on, or all of them if none was. -/
def attempts (ended : List Session) : Nat :=
  min ended.length ((ended.reverse.takeWhile (!·.connected)).length + 1)

theorem attempts_concat (ended : List Session) (session : Session) :
    attempts (ended ++ [session]) =
      (if session.connected then 0 else attempts ended) + 1 := by
  unfold attempts
  rw [List.length_append, List.reverse_concat]
  cases connected : session.connected with
  | true =>
      rw [List.takeWhile_cons_of_neg (by rw [connected]; decide)]
      exact Nat.min_eq_right (Nat.succ_le_succ (Nat.zero_le _))
  | false =>
      rw [List.takeWhile_cons_of_pos (by rw [connected]; rfl)]
      exact Nat.succ_min_succ _ _

/-- How the client counts, and why it waits as long as it does. -/
structure Counting {σ : Type} (options : Options) (client : Client σ) :
    Prop where
  attempt : client.phase ≠ .returned → client.attempt = attempts client.ended
  wait : ∀ wait, client.phase = .waiting wait →
    ∃ earlier last err, client.ended = earlier ++ [last] ∧
      last.stage = .returned err ∧
      wait = waitAfter options err (attempts client.ended - 1)

variable {σ χ : Type} {options : Options} {handler : Handler σ χ}
variable {client next : Client σ}

theorem Counting.over {session : Session} {err : SessionError}
    (counting : Counting options client)
    (phase : client.phase = .running session)
    (returned : session.stage = .returned err) :
    Counting options (client.sessionOver options session err) := by
  have attempt := counting.attempt (by rw [phase]; exact Phase.noConfusion)
  unfold Client.sessionOver
  cases client.stopped with
  | true => exact ⟨fun ended => absurd rfl ended, fun _ impossible => by
      cases impossible⟩
  | false =>
      have counted := attempts_concat client.ended session
      rw [← attempt] at counted
      refine ⟨fun _ => counted.symm, fun wait isWait => ?_⟩
      cases isWait
      refine ⟨client.ended, session, err, rfl, returned, ?_⟩
      exact congrArg (waitAfter options err)
        (congrArg (· - 1) counted).symm

theorem Counting.step {move : ClientMove χ}
    (counting : Counting options client)
    (stepped : client.step options handler move = some next) :
    Counting options next := by
  cases move with
  | session move =>
      simp only [Client.step] at stepped
      split at stepped
      · rename_i session phase
        obtain ⟨moved, -, rfl⟩ := Option.map_eq_some_iff.mp stepped
        refine ⟨fun _ => counting.attempt ?_, fun _ impossible => ?_⟩
        · rw [phase]
          exact Phase.noConfusion
        · cases impossible
      · cases stepped
  | sessionOver =>
      simp only [Client.step] at stepped
      split at stepped
      · rename_i session phase
        split at stepped
        · rename_i err returned
          cases stepped
          exact counting.over phase returned
        · cases stepped
      · cases stepped
  | woken =>
      simp only [Client.step] at stepped
      split at stepped
      · rename_i wait phase
        cases stepped
        refine ⟨fun _ => counting.attempt ?_, fun _ impossible => ?_⟩
        · rw [phase]
          exact Phase.noConfusion
        · cases impossible
      · cases stepped
  | stop =>
      cases stepped
      cases phase : client.phase with
      | running session =>
          refine ⟨fun _ => counting.attempt ?_, fun _ impossible => ?_⟩
          · rw [phase]
            exact Phase.noConfusion
          · cases impossible
      | waiting wait =>
          refine ⟨fun _ => counting.attempt ?_, fun length isWait => ?_⟩
          · rw [phase]
            exact Phase.noConfusion
          · exact counting.wait length (phase.trans isWait)
      | returned =>
          refine ⟨fun going => absurd rfl going, fun _ impossible => ?_⟩
          cases impossible
  | done =>
      simp only [Client.step] at stepped
      split at stepped
      · split at stepped
        · cases stepped
          exact ⟨fun going => absurd rfl going, fun _ impossible => by
            cases impossible⟩
        · cases stepped
      · cases stepped

end SessionClient

open SessionClient

/-- In every run of the client with its defaults, whatever happens to its
sessions: it waits for `authRetry` after a rejection, and else for `minBackoff`
doubled with each attempt since the last connected session, up to `maxBackoff`;
and every wait takes time. -/
theorem reconnects_back_off {σ χ : Type} {given : Options}
    {handler : Handler σ χ} {state : σ} {moves : List (ClientMove χ)}
    {client : Client σ} {wait : Nat}
    (ran : moves.foldlM (Client.step given.defaults handler)
      (Client.create state) = some client)
    (waiting : client.phase = .waiting wait) :
    ∃ earlier last err, client.ended = earlier ++ [last] ∧
      last.stage = .returned err ∧
      (wait = if err.code.isRejection then given.defaults.authRetry
        else min (given.defaults.minBackoff *
          2 ^ (if last.connected then 0 else attempts earlier))
            given.defaults.maxBackoff) ∧
      0 < wait := by
  have counting : Counting given.defaults client :=
    Async.Machine.invariant (Counting given.defaults) Counting.step
      ⟨fun _ => rfl, fun _ impossible => by cases impossible⟩ ran
  obtain ⟨earlier, last, err, ended, returned, rfl⟩ :=
    counting.wait wait waiting
  have exponent : attempts client.ended - 1 =
      if last.connected then 0 else attempts earlier := by
    rw [ended, attempts_concat]
    rfl
  rw [exponent, waitAfter_eq]
  refine ⟨earlier, last, err, ended, returned, rfl, ?_⟩
  have positive (value fallback : Nat) (isPositive : 0 < fallback) :
      0 < if value = 0 then fallback else value := by
    split
    · exact isPositive
    · rename_i other
      exact Nat.pos_of_ne_zero other
  split
  · exact positive _ _ (by decide)
  · exact Nat.lt_min.mpr ⟨Nat.mul_pos (positive _ _ (by decide))
      (Nat.two_pow_pos _), positive _ _ (by decide)⟩

namespace SessionClient

/-- The server cannot be reached, twice. -/
def unreachableTwice : List (ClientMove Unit) :=
  [.session (.dialed (some ⟨.unavailable, "refused"⟩)), .sessionOver, .woken,
    .session (.dialed (some ⟨.unavailable, "refused"⟩)), .sessionOver]

end SessionClient

theorem reconnects_back_off_unreachable :
    ∃ (client : Client Nat) (earlier : List Session) (last : Session)
      (err : SessionError), client.phase = .waiting (2 * second) ∧
      client.ended = earlier ++ [last] ∧ last.stage = .returned err ∧
      0 < 2 * second := by
  have waits : (unreachableTwice.foldlM
      (Client.step plainOptions countingHandler) (Client.create 0)).map
        (·.phase) = some (.waiting (2 * second)) := by
    decide +kernel
  obtain ⟨client, ran, waiting⟩ := Option.map_eq_some_iff.mp waits
  obtain ⟨earlier, last, err, ended, returned, -, positive⟩ :=
    reconnects_back_off ran waiting
  exact ⟨client, earlier, last, err, waiting, ended, returned, positive⟩

end FluxIP
