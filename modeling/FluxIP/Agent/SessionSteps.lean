import FluxIP.Agent.SessionClient

/-!
# What a step makes of a session

One case for each way a step can end, whatever the handler is.  The stages of
`runOnce` and its timers change the session apart from each other, and the
client ends its context.
-/

namespace FluxIP

namespace SessionClient

/-- The messages a step receives. -/
def Move.brings {χ : Type} : Move χ → List AgentMessage
  | .received message _ => message.toList
  | _ => []

/-- The ways a session changes in one step. -/
inductive Change (options : Options) (session : Session) : Session → Prop where
  | dialed (stage : session.stage = .dialing) :
      Change options session { session with stage := .opening }
  | opened (stage : session.stage = .opening) :
      Change options session { session with stage := .greeting }
  | gaveUp (err : SessionError)
      (stage : session.stage = .dialing ∨ session.stage = .opening ∨
        session.stage = .greeting) :
      Change options session (session.giveUp err)
  | greeted (now : Timestamp) (stage : session.stage = .greeting) :
      Change options session { session.send (.hello options.hello) with
        lastSeen := now
        stage := .receiving }
  | received (message : Option AgentMessage) (now : Timestamp)
      (stage : session.stage = .receiving) :
      Change options session (session.receive message now)
  | broken (err : SessionError) (stage : session.stage = .receiving) :
      Change options session { session with stage := .ending err }
  | connected (hello : HelloMessage)
      (stage : session.stage = .connecting hello) :
      Change options session
        { (session.record (.onConnected hello)).startTimers with
          stage := .receiving }
  | applied (snapshot : SnapshotPayload) (report : Option ReportMessage)
      (stage : session.stage = .applying snapshot) :
      Change options session
        { session.record (.onSnapshot snapshot report) with
          stage := .after report }
  | disconnected (err : SessionError) (connected : session.connected = true)
      (stage : session.stage = .ending err) :
      Change options session
        ((session.record (.onDisconnected err)).shutDown err)
  | closed (err : SessionError) (unconnected : session.connected = false)
      (stage : session.stage = .ending err) :
      Change options session (session.shutDown err)
  | reported (report : ReportMessage)
      (stage : session.stage = .reporting report) :
      Change options session
        { session.send (.report report) with stage := .receiving }
  | unreported (report : ReportMessage) (err : SessionError)
      (stage : session.stage = .reporting report) :
      Change options session { session with stage := .ending err }
  | joined (err : SessionError) (timers : session.timers = .stopped)
      (stage : session.stage = .joining err) :
      Change options session { session with stage := .returned err }
  | silent (nonce : Nat) (timers : session.timers = .running nonce) :
      Change options session { session with
        cancelled := true
        timers := .stopped }
  | counted (nonce : Nat) (timers : session.timers = .running nonce) :
      Change options session { session with timers := .running (nonce + 1) }
  | beat (nonce : Nat) (timers : session.timers = .running nonce) :
      Change options session
        ({ session with timers := .running (nonce + 1) }.send
          (.heartbeat (nonce + 1)))
  | synced (nonce : Nat) (timers : session.timers = .running nonce) :
      Change options session (session.send .syncRequest)
  | unsynced : Change options session session
  | stopped (nonce : Nat) (timers : session.timers = .running nonce) :
      Change options session { session with timers := .stopped }
  | cancelled : Change options session { session with cancelled := true }

variable {σ χ : Type} {options : Options} {handler : Handler σ χ}
variable {session next : Session} {state after : σ} {stopped : Bool}

namespace Session

@[simp] theorem startTimers_sent : session.startTimers.sent = session.sent := by
  unfold startTimers
  split <;> rfl

@[simp] theorem startTimers_received :
    session.startTimers.received = session.received := by
  unfold startTimers
  split <;> rfl

@[simp] theorem startTimers_calls :
    session.startTimers.calls = session.calls := by
  unfold startTimers
  split <;> rfl

@[simp] theorem startTimers_connected :
    session.startTimers.connected = session.connected := by
  unfold startTimers
  split <;> rfl

variable {message : Option AgentMessage} {now : Timestamp}

@[simp] theorem receive_sent :
    (session.receive message now).sent = session.sent := by
  unfold receive
  split <;> rfl

@[simp] theorem receive_received :
    (session.receive message now).received =
      session.received ++ message.toList := by
  unfold receive
  split <;> rfl

@[simp] theorem receive_calls :
    (session.receive message now).calls = session.calls := by
  unfold receive
  split <;> rfl

@[simp] theorem receive_timers :
    (session.receive message now).timers = session.timers := by
  unfold receive
  split <;> rfl

/-- What a call of the handler leads to. -/
theorem handle_change {surroundings : χ}
    (stepped : session.handle handler state surroundings =
      some (next, after)) : Change options session next := by
  unfold Session.handle at stepped
  cases stage : session.stage with
  | connecting hello =>
      simp only [stage] at stepped
      cases stepped
      exact .connected hello stage
  | applying snapshot =>
      simp only [stage] at stepped
      cases stepped
      exact .applied snapshot _ stage
  | ending err =>
      simp only [stage] at stepped
      cases connected : session.connected with
      | true =>
          simp only [connected, if_true] at stepped
          cases stepped
          exact .disconnected err connected stage
      | false =>
          simp only [connected, Bool.false_eq_true, if_false] at stepped
          cases stepped
          exact .closed err connected stage
  | _ =>
      simp only [stage] at stepped
      cases stepped

/-- What a call of the handler makes of its state, and what is recorded. -/
theorem handle_cases {surroundings : χ}
    (stepped : session.handle handler state surroundings =
      some (next, after)) :
    (∃ hello, session.stage = .connecting hello ∧
      after = handler.onConnected state hello surroundings ∧
      next.stage = .receiving ∧
      next.calls = session.calls ++ [.onConnected hello]) ∨
    (∃ snapshot, session.stage = .applying snapshot ∧
      after = (handler.onSnapshot state snapshot surroundings).2 ∧
      next.stage = .after
        (handler.onSnapshot state snapshot surroundings).1 ∧
      next.calls = session.calls ++ [.onSnapshot snapshot
        (handler.onSnapshot state snapshot surroundings).1]) ∨
    (∃ err, session.stage = .ending err ∧ session.connected = true ∧
      after = handler.onDisconnected state err surroundings ∧
      next.stage = .joining err ∧
      next.calls = session.calls ++ [.onDisconnected err]) ∨
    (∃ err, session.stage = .ending err ∧ session.connected = false ∧
      after = state ∧ next.stage = .joining err ∧
      next.calls = session.calls) := by
  unfold Session.handle at stepped
  cases stage : session.stage with
  | connecting hello =>
      simp only [stage] at stepped
      cases stepped
      exact .inl ⟨hello, rfl, rfl, rfl, startTimers_calls⟩
  | applying snapshot =>
      simp only [stage] at stepped
      cases stepped
      exact .inr (.inl ⟨snapshot, rfl, rfl, rfl, rfl⟩)
  | ending err =>
      simp only [stage] at stepped
      cases connected : session.connected with
      | true =>
          simp only [connected, if_true] at stepped
          cases stepped
          exact .inr (.inr (.inl ⟨err, rfl, rfl, rfl, rfl, rfl⟩))
      | false =>
          simp only [connected, Bool.false_eq_true, if_false] at stepped
          cases stepped
          exact .inr (.inr (.inr ⟨err, rfl, rfl, rfl, rfl, rfl⟩))
  | _ =>
      simp only [stage] at stepped
      cases stepped

theorem handle_received {surroundings : χ}
    (stepped : session.handle handler state surroundings =
      some (next, after)) : next.received = session.received := by
  unfold Session.handle at stepped
  split at stepped
  · cases stepped
    exact startTimers_received
  · cases stepped
    rfl
  · split at stepped
    · cases stepped
      rfl
    · cases stepped
      rfl
  · cases stepped

/-- What a tick of the heartbeat leads to. -/
theorem heartbeatTick_change {now : Timestamp} {delivered : Bool}
    (stepped : session.heartbeatTick now delivered = some next) :
    Change options session next := by
  unfold Session.heartbeatTick at stepped
  cases timers : session.timers with
  | running nonce =>
      simp only [timers] at stepped
      by_cases silent : 3 * session.heartbeat < now - session.lastSeen
      · simp only [silent, if_true] at stepped
        cases stepped
        exact .silent nonce timers
      · simp only [silent, if_false] at stepped
        cases delivered with
        | true =>
            cases stepped
            exact .beat nonce timers
        | false =>
            cases stepped
            exact .counted nonce timers
  | _ =>
      simp only [timers] at stepped
      cases stepped

theorem resyncTick_change {delivered : Bool}
    (stepped : session.resyncTick delivered = some next) :
    Change options session next := by
  unfold Session.resyncTick at stepped
  cases timers : session.timers with
  | running nonce =>
      simp only [timers] at stepped
      cases delivered with
      | true =>
          cases stepped
          exact .synced nonce timers
      | false =>
          cases stepped
          exact .unsynced
  | _ =>
      simp only [timers] at stepped
      cases stepped

theorem timersStopped_change (stepped : session.timersStopped = some next) :
    Change options session next := by
  unfold Session.timersStopped at stepped
  cases timers : session.timers with
  | running nonce =>
      simp only [timers] at stepped
      split at stepped
      · cases stepped
        exact .stopped nonce timers
      · cases stepped
  | _ =>
      simp only [timers] at stepped
      cases stepped

/-- What the steps that leave the handler alone lead to. -/
theorem advance_change {move : Move χ}
    (stepped : session.advance options stopped move = some next) :
    Change options session next := by
  cases move with
  | dialed err =>
      simp only [Session.advance] at stepped
      split at stepped
      · rename_i stage
        cases stepped
        cases err with
        | none => exact .dialed stage
        | some err => exact .gaveUp err (.inl stage)
      · cases stepped
  | opened err =>
      simp only [Session.advance] at stepped
      split at stepped
      · rename_i stage
        cases stepped
        cases err with
        | none => exact .opened stage
        | some err => exact .gaveUp err (.inr (.inl stage))
      · cases stepped
  | greeted err now =>
      simp only [Session.advance] at stepped
      split at stepped
      · rename_i stage
        cases stepped
        cases err with
        | none => exact .greeted now stage
        | some err => exact .gaveUp err (.inr (.inr stage))
      · cases stepped
  | received message now =>
      simp only [Session.advance] at stepped
      split at stepped
      · rename_i stage
        cases stepped
        exact .received message now stage
      · cases stepped
  | broken err isCanceled =>
      simp only [Session.advance] at stepped
      split at stepped
      · rename_i stage
        cases stepped
        exact .broken _ stage
      · cases stepped
  | reported err =>
      simp only [Session.advance] at stepped
      split at stepped
      · rename_i report stage
        cases stepped
        cases err with
        | none => exact .reported report stage
        | some err => exact .unreported report err stage
      · cases stepped
  | joined =>
      simp only [Session.advance] at stepped
      split at stepped
      · rename_i err stage timers
        cases stepped
        exact .joined err timers stage
      · cases stepped
  | heartbeatTick now delivered => exact heartbeatTick_change stepped
  | resyncTick delivered => exact resyncTick_change stepped
  | timersStopped => exact timersStopped_change stepped
  | handled surroundings => cases stepped

/-- Only a call of the handler is recorded as one, and only what is received. -/
theorem advance_frame {move : Move χ}
    (stepped : session.advance options stopped move = some next) :
    next.calls = session.calls ∧
      next.received = session.received ++ move.brings := by
  have alone : session.received = session.received ++ [] :=
    (List.append_nil _).symm
  cases move with
  | dialed err =>
      simp only [Session.advance] at stepped
      split at stepped
      · cases stepped
        cases err <;> exact ⟨rfl, alone⟩
      · cases stepped
  | opened err =>
      simp only [Session.advance] at stepped
      split at stepped
      · cases stepped
        cases err <;> exact ⟨rfl, alone⟩
      · cases stepped
  | greeted err now =>
      simp only [Session.advance] at stepped
      split at stepped
      · cases stepped
        cases err <;> exact ⟨rfl, alone⟩
      · cases stepped
  | received message now =>
      simp only [Session.advance] at stepped
      split at stepped
      · cases stepped
        exact ⟨receive_calls, receive_received⟩
      · cases stepped
  | broken err isCanceled =>
      simp only [Session.advance] at stepped
      split at stepped
      · cases stepped
        exact ⟨rfl, alone⟩
      · cases stepped
  | reported err =>
      simp only [Session.advance] at stepped
      split at stepped
      · cases stepped
        cases err <;> exact ⟨rfl, alone⟩
      · cases stepped
  | joined =>
      simp only [Session.advance] at stepped
      split at stepped
      · cases stepped
        exact ⟨rfl, alone⟩
      · cases stepped
  | heartbeatTick now delivered =>
      simp only [Session.advance, Session.heartbeatTick] at stepped
      split at stepped
      · split at stepped
        · cases stepped
          exact ⟨rfl, alone⟩
        · cases stepped
          cases delivered <;> exact ⟨rfl, alone⟩
      · cases stepped
  | resyncTick delivered =>
      simp only [Session.advance, Session.resyncTick] at stepped
      split at stepped
      · cases stepped
        cases delivered <;> exact ⟨rfl, alone⟩
      · cases stepped
  | timersStopped =>
      simp only [Session.advance, Session.timersStopped] at stepped
      split at stepped
      · split at stepped
        · cases stepped
          exact ⟨rfl, alone⟩
        · cases stepped
      · cases stepped
  | handled surroundings => cases stepped

/-- What a step leads to. -/
theorem step_change {move : Move χ}
    (stepped : session.step options handler stopped state move =
      some (next, after)) : Change options session next := by
  cases move with
  | handled surroundings => exact handle_change stepped
  | _ =>
      obtain ⟨moved, advanced, same⟩ := Option.map_eq_some_iff.mp stepped
      cases same
      exact advance_change advanced

end Session

namespace Session

theorem step_received {move : Move χ}
    (stepped : session.step options handler stopped state move =
      some (next, after)) :
    next.received = session.received ++ move.brings := by
  cases move with
  | handled surroundings =>
      exact (handle_received stepped).trans (List.append_nil _).symm
  | _ =>
      obtain ⟨moved, advanced, same⟩ := Option.map_eq_some_iff.mp stepped
      cases same
      exact (advance_frame advanced).2

end Session

/-- Messages stay sent. -/
theorem Change.sent (changed : Change options session next) :
    session.sent <+: next.sent := by
  cases changed with
  | greeted now stage => exact List.prefix_append _ _
  | received message now stage =>
      exact Session.receive_sent.symm ▸ List.prefix_rfl
  | connected hello stage =>
      simp only [Session.startTimers_sent]
      exact List.prefix_rfl
  | reported report stage => exact List.prefix_append _ _
  | beat nonce timers => exact List.prefix_append _ _
  | synced nonce timers => exact List.prefix_append _ _
  | _ => exact List.prefix_rfl

namespace Client

variable {client later : Client σ} {move : ClientMove χ}

section Sessions

variable {holds : Session → Prop}

theorem sessions_over {session : Session} {err : SessionError} :
    (client.sessionOver options session err).sessions =
      client.ended ++ [session] := by
  unfold Client.sessionOver
  cases client.stopped with
  | true => rfl
  | false => rfl

theorem sessions_step (initially : ∀ cancelled, holds { cancelled })
    (keeps : ∀ {session next}, holds session → Change options session next →
      holds next)
    (held : ∀ session ∈ client.sessions, holds session)
    (stepped : client.step options handler move = some later) :
    ∀ session ∈ later.sessions, holds session := by
  unfold Client.sessions at held
  cases move with
  | session move =>
      simp only [Client.step] at stepped
      split at stepped
      · rename_i session phase
        obtain ⟨⟨next, after⟩, moved, same⟩ := Option.map_eq_some_iff.mp stepped
        cases same
        simp only [phase, List.forall_mem_append] at held
        have current := held.2 session (List.mem_singleton_self session)
        exact List.forall_mem_append.mpr ⟨held.1, List.forall_mem_singleton.mpr
          (keeps current (Session.step_change moved))⟩
      · cases stepped
  | sessionOver =>
      simp only [Client.step] at stepped
      split at stepped
      · rename_i session phase
        split at stepped
        · cases stepped
          rw [sessions_over]
          simpa only [phase] using held
        · cases stepped
      · cases stepped
  | woken =>
      simp only [Client.step] at stepped
      split at stepped
      · rename_i wait phase
        cases stepped
        simp only [phase] at held
        exact List.forall_mem_append.mpr
          ⟨held, List.forall_mem_singleton.mpr (initially _)⟩
      · cases stepped
  | stop =>
      cases stepped
      unfold Client.sessions
      cases phase : client.phase with
      | running session =>
          simp only [phase, List.forall_mem_append] at held
          have current := held.2 session (List.mem_singleton_self session)
          exact List.forall_mem_append.mpr ⟨held.1,
            List.forall_mem_singleton.mpr (keeps current .cancelled)⟩
      | waiting wait => simpa only [phase] using held
      | returned => simpa only [phase] using held
  | done =>
      simp only [Client.step] at stepped
      split at stepped
      · rename_i wait phase
        split at stepped
        · cases stepped
          simp only [phase] at held
          exact held
        · cases stepped
      · cases stepped

/-- What holds of a session that has yet to begin, and through each of its
changes, holds of every session of the client. -/
theorem sessions_hold (initially : ∀ cancelled, holds { cancelled })
    (keeps : ∀ {session next}, holds session → Change options session next →
      holds next)
    {moves : List (ClientMove χ)}
    (ran : moves.foldlM (step options handler) (create state) =
      some client) :
    ∀ session ∈ client.sessions, holds session := by
  have start : ∀ session ∈ (create state).sessions, holds session :=
    List.forall_mem_singleton.mpr (initially false)
  exact Async.Machine.invariant
    (fun client : Client σ => ∀ session ∈ client.sessions, holds session)
    (sessions_step initially keeps) start ran

end Sessions

end Client

end SessionClient

end FluxIP
