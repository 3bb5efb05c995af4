import FluxIP.Adapters.BackendService
import FluxIP.Adapters.EndReasons
import FluxIP.Guarantees.Revocation

/-!
# Timers of closed sessions

The closing of a session stops its heartbeat, whatever its handler is at.  The
interval is started by the last step of the handling of a hello, and this step
does not ask whether the session was closed meanwhile: a session closed while
its hello is handled keeps a timer for good.  Only so does one outlive its
session.
-/

namespace FluxIP

open Async

/-- The interval of a closed session is cleared. -/
def AgentSession.Silent (session : AgentSession) : Prop :=
  session.closed = true → session.heartbeatSeconds = none

instance (session : AgentSession) : Decidable session.Silent :=
  inferInstanceAs (Decidable (_ → _))

/-- No timer has outlived its session. -/
abbrev Agents.Silent (agents : Agents) : Prop :=
  agents.Every AgentSession.Silent

/-- The call starts no interval of a closed session. -/
def Call.inTime (agents : Agents) : Call → Bool
  | .memory (.startHeartbeat sessionId _) =>
      (agents.sessions sessionId).all (!·.closed)
  | _ => true

/-- No hello is handled to its end after its session was closed. -/
def startsInTime (pool : BackendPool) : Move BackendRequest Choice → Bool
  | .start _ => true
  | .advance index _ =>
      match pool.threads[index]? with
      | some ⟨_, _, .await call _⟩ => Call.inTime pool.state.agents call
      | _ => true

/-- The closing of a session clears its interval, and no other change of a
session touches it. -/
theorem AgentSession.Silent.law :
    AgentSession.Law (fun _ => True) AgentSession.Silent where
  own _ _ := trivial
  opened _ _ _ _ _ := fun closed => by cases closed
  ended _ silent := silent
  helloSeen _ silent := silent
  received _ _ silent := silent
  nonce _ _ silent := silent
  connected _ silent := silent
  claimed _ silent := silent
  noted _ _ _ silent := silent
  closed _ _ _ _ := fun _ => rfl

variable {deps : BackendDeps} {pool next : BackendPool}
variable {move : Move BackendRequest Choice}

theorem Agents.Silent.step (silent : pool.state.agents.Silent)
    (inTime : startsInTime pool move = true)
    (moved : pool.step (backendService deps) move = some next) :
    next.state.agents.Silent := by
  cases move with
  | start request =>
      obtain ⟨-, -, rfl⟩ := Pool.step_start moved
      exact silent
  | advance index choice =>
      obtain ⟨request, history, call, resume, answer, world, found, result,
        rfl⟩ := Pool.step_advance moved
      refine call_every AgentSession.Silent.law (fun _ _ _ _ => trivial) ?_
        silent result
      intro sessionId seconds same session present _ closed
      subst same
      have isOpen : session.closed = false := by
        simpa [startsInTime, found, Call.inTime, present] using inTime
      rw [isOpen] at closed
      cases closed

/-- A hello that is handled to its end after its session was closed leaves the
session a timer. -/
theorem leaves_timer (late : startsInTime pool move = false)
    (moved : pool.step (backendService deps) move = some next) :
    ¬ next.state.agents.Silent := by
  cases move with
  | start request => cases late
  | advance index choice =>
      obtain ⟨request, history, call, resume, answer, world, found, result,
        rfl⟩ := Pool.step_advance moved
      simp only [startsInTime, found] at late
      unfold Call.inTime at late
      split at late
      · rename_i sessionId seconds
        cases present : pool.state.agents.sessions sessionId with
        | none =>
            rw [present] at late
            cases late
        | some session =>
            have closed : session.closed = true := by
              simpa [present] using late
            have started : world.agents.sessions sessionId =
                some { session with heartbeatSeconds := some seconds } := by
              cases result
              simp [World.elapse, World.onAgents, Agents.modify, present]
            intro silent
            have cleared := silent sessionId _ started closed
            cases cleared
      · cases late

/-- In every run in which no hello is handled to its end after its session was
closed, no session that is closed has a timer; the first such end leaves a
closed session one. -/
theorem no_timer_outlives_its_session (deps : BackendDeps)
    {pool : BackendPool}
    (run : Pool.Run (backendService deps)
      (fun pool move => startsInTime pool move = true) ⟨{}, []⟩ pool) :
    pool.state.agents.Silent ∧
      ∀ move next, pool.step (backendService deps) move = some next →
        (next.state.agents.Silent ↔ startsInTime pool move = true) := by
  have silent : pool.state.agents.Silent := by
    induction run with
    | refl => exact fun id session found => by cases found
    | step run inTime moved silent => exact silent.step inTime moved
  refine ⟨silent, ?_⟩
  intro move next moved
  constructor
  · intro later
    by_contra late
    exact leaves_timer (Bool.eq_false_of_not_eq_true late) moved later
  · exact fun inTime => silent.step inTime moved

/-! ## A session closed during its hello -/

namespace HeartbeatTimers

/-- The transport of a session ends after its hello was handled. -/
def endedAfterHello : List (Move ProviderRequest Choice) :=
  Revocation.opened ++ [.start Revocation.helloRequest] ++ advances 2 25 ++
    [.start ⟨4, 0, .transportEnd ⟨1, 0, 2⟩ 3⟩] ++ advances 3 1

/-- The transport ends while the connect is recorded; the hello is handled to
its end, and so is the end of the session. -/
def endedDuringHello : List (Move ProviderRequest Choice) :=
  Revocation.opened ++ [.start Revocation.helloRequest] ++ advances 2 5 ++
    [.start ⟨4, 0, .transportEnd ⟨1, 0, 2⟩ 3⟩] ++ advances 3 1 ++
    [.start ⟨5, 0, .closed ⟨1, 0, 2⟩ 3⟩] ++ advances 2 20 ++ advances 4 11

/-- Whether all programs are over, whether the session is closed, and its
interval. -/
def timerOf (pool : BackendPool) : Bool × Option (Bool × Option Nat) :=
  (pool.threads.all (·.program.isOver),
    (pool.state.agents.sessions 3).map fun session =>
      (session.closed, session.heartbeatSeconds))

end HeartbeatTimers

open HeartbeatTimers in
theorem no_timer_outlives_its_session_after_hello :
    ∃ pool : BackendPool, timerOf pool = (true, some (true, none)) ∧
      pool.state.agents.Silent := by
  have ends : ((⟨{}, []⟩ : BackendPool).follow
      (backendService exampleBackendDeps) startsInTime
      (endedAfterHello.map ofProvider)).map timerOf =
        some (true, some (true, none)) := by
    decide +kernel
  obtain ⟨pool, followed, same⟩ := Option.map_eq_some_iff.mp ends
  exact ⟨pool, same, (no_timer_outlives_its_session exampleBackendDeps
    (Pool.run_of_follow (fun _ _ passed => passed) followed)).1⟩

open HeartbeatTimers in
/-- All programs of a session that was closed during its hello are over, and
its timer still runs. -/
theorem timer_outlives_its_session :
    ¬ ∀ (deps : BackendDeps) (pool : BackendPool),
      Pool.Run (backendService deps) (fun _ _ => True) ⟨{}, []⟩ pool →
      (∀ thread ∈ pool.threads, thread.program.isOver = true) →
      ∀ sessionId session,
        pool.state.agents.sessions sessionId = some session →
        session.closed = true → session.heartbeatSeconds = none := by
  intro claim
  have ends : ((⟨{}, []⟩ : BackendPool).follow
      (backendService exampleBackendDeps) (fun _ _ => true)
      (endedDuringHello.map ofProvider)).map timerOf =
        some (true, some (true, some 30)) := by
    decide +kernel
  obtain ⟨pool, followed, same⟩ := Option.map_eq_some_iff.mp ends
  obtain ⟨allOver, timer⟩ := Prod.mk.inj same
  obtain ⟨session, found, fields⟩ := Option.map_eq_some_iff.mp timer
  obtain ⟨closed, running⟩ := Prod.mk.inj fields
  have cleared := claim exampleBackendDeps pool
    (Pool.run_of_follow (fun _ _ _ => trivial) followed)
    (List.all_eq_true.mp allOver) 3 session found closed
  rw [running] at cleared
  cases cleared

end FluxIP
