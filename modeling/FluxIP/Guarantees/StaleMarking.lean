import FluxIP.Agent.Process
import FluxIP.Guarantees.SessionConversation

/-!
# When the files are marked stale

The agent takes itself for connected exactly while a session has greeted it and
has not ended.  The files are marked stale only when the maximum offline
duration has passed since the process began, since a session was up and since a
snapshot was applied.
-/

namespace FluxIP

namespace SessionClient

def HandlerCall.isConnect : HandlerCall → Bool
  | .onConnected _ => true
  | _ => false

/-- The handler was told of the server's hello, and not of the end. -/
def Session.isUp (session : Session) : Bool :=
  session.calls.any HandlerCall.isConnect &&
    session.calls.all (!HandlerCall.isEnd ·)

variable {options : Options} {session : Session}

/-- A session that has returned is not up any more. -/
theorem Coherent.down (coherent : Coherent options session)
    {err : SessionError} (returned : session.stage = .returned err) :
    session.isUp = false := by
  cases connected : session.connected with
  | true =>
      obtain ⟨before, -, told⟩ := coherent.told
      rw [connected, returned] at told
      have ended : session.calls.all (!HandlerCall.isEnd ·) = false := by
        rw [told, List.all_append]
        exact Bool.and_false _
      rw [Session.isUp, ended, Bool.and_false]
  | false =>
      have silent : session.calls.any HandlerCall.isConnect = false := by
        rw [List.any_eq_false]
        intro call member isConnect
        cases call with
        | onConnected hello =>
            have told : AgentMessage.hello hello ∈
                session.calls.filterMap HandlerCall.message :=
              List.mem_filterMap.mpr ⟨_, member, rfl⟩
            have heard := coherent.handled ▸ List.mem_append_left _ told
            have isConnected := coherent.connected.mpr
              ⟨hello, (List.mem_filter.mp heard).1⟩
            cases connected.symm.trans isConnected
        | _ => cases isConnect
      rw [Session.isUp, silent, Bool.false_and]

end SessionClient

open SessionClient

namespace Agent

variable {agent : Agent} {s : SnapshotPayload} {now : Timestamp}
variable {applied : ApplyResult}
variable {check : Option (List String → TraefikCheckResult)}

theorem onSnapshot_connected :
    (agent.onSnapshot s now applied check).2.connected = agent.connected := by
  rcases @onSnapshot_cases agent s now applied check with same | ⟨-, same⟩
  · rw [same]
  · rw [same]
    rfl

/-- A snapshot that is reported as applied was accepted. -/
theorem onSnapshot_applied
    (reported : (agent.onSnapshot s now applied check).1.result = .ok) :
    (agent.onSnapshot s now applied check).2 = agent.accept s now := by
  unfold onSnapshot at reported ⊢
  split at reported
  · cases reported
  · rename_i current
    rw [if_neg current]
    cases applied with
    | error error => cases reported
    | ok files => rfl

theorem tick_connected :
    (agent.tick now applied).2.connected = agent.connected := by
  unfold tick
  split
  · cases applied <;> rfl
  · rfl

theorem tick_offlineSince :
    (agent.tick now applied).2.offlineSince = agent.offlineSince := by
  unfold tick
  split
  · cases applied <;> rfl
  · rfl

theorem tick_stale (fresh : agent.stale = false)
    (marked : (agent.tick now applied).2.stale = true) :
    agent.connected = false ∧ agent.maxOffline < now - agent.offlineSince := by
  unfold tick at marked
  split at marked
  · rename_i overdue
    simp only [isOverdue, Bool.and_eq_true, Bool.not_eq_true',
      decide_eq_true_eq] at overdue
    exact ⟨overdue.1.1.2, overdue.2⟩
  · cases fresh.symm.trans marked

end Agent

/-! ## While a session is up -/

namespace RunningAgent

/-- The session that is going on is up. -/
def isUp (process : RunningAgent) : Bool :=
  match process.client.phase with
  | .running session => session.isUp
  | _ => false

/-- The agent takes itself for connected while a session is up. -/
structure Attended (options : Options) (process : RunningAgent) : Prop where
  coherent : ∀ session ∈ process.client.sessions, Coherent options session
  mirrors : process.agent.connected = process.isUp

variable {options : Options} {process next : RunningAgent}
variable {client : Client Agent} {session later : Session} {agent : Agent}

/-- A call of the agent keeps track of whether the session is up. -/
theorem handle_mirrors {surroundings : Surroundings} {after : Agent}
    (coherent : Coherent options session)
    (mirrors : agent.connected = session.isUp)
    (stepped : session.handle Agent.handler agent surroundings =
      some (later, after)) : after.connected = later.isUp := by
  have unended {stage : Stage} (isStage : session.stage = stage)
      (going : stage.finished = none) :
      session.calls.all (!HandlerCall.isEnd ·) = true := by
    rw [List.all_eq_true]
    intro call member
    rw [coherent.unended (by rw [isStage]; exact going) call member]
    rfl
  rcases Session.handle_cases stepped with
    ⟨hello, stage, rfl, -, calls⟩ | ⟨snapshot, stage, rfl, -, calls⟩ |
      ⟨err, -, -, rfl, -, calls⟩ | ⟨err, -, -, rfl, -, calls⟩
  · rw [Session.isUp, calls, List.any_append, List.all_append,
      unended stage rfl]
    exact (congrArg (· && true) (Bool.or_true _)).symm
  · have same : later.isUp = session.isUp := by
      rw [Session.isUp, calls, List.any_append, List.all_append]
      exact congrArg₂ _ (Bool.or_false _) (Bool.and_true _)
    rw [same, ← mirrors]
    exact Agent.onSnapshot_connected
  · rw [Session.isUp, calls, List.all_append]
    exact (Bool.and_false _).symm.trans
      (congrArg _ (Bool.and_false _).symm)
  · rw [Session.isUp, calls]
    exact mirrors

theorem session_mirrors {stopped : Bool} {move : SessionClient.Move Surroundings}
    {after : Agent} (coherent : Coherent options session)
    (mirrors : agent.connected = session.isUp)
    (stepped : session.step options Agent.handler stopped agent move =
      some (later, after)) : after.connected = later.isUp := by
  cases move with
  | handled surroundings => exact handle_mirrors coherent mirrors stepped
  | _ =>
      obtain ⟨moved, advanced, same⟩ := Option.map_eq_some_iff.mp stepped
      cases same
      rw [Session.isUp, (Session.advance_frame advanced).1]
      exact mirrors

theorem client_mirrors {move : ClientMove Surroundings} {next : Client Agent}
    (coherent : ∀ session ∈ client.sessions, Coherent options session)
    (mirrors : client.state.connected = (RunningAgent.mk client 0).isUp)
    (stepped : client.step options Agent.handler move = some next) :
    next.state.connected = (RunningAgent.mk next 0).isUp := by
  unfold Client.sessions at coherent
  simp only [RunningAgent.isUp] at mirrors ⊢
  cases move with
  | session move =>
      simp only [Client.step] at stepped
      split at stepped
      · rename_i session phase
        simp only [phase] at coherent mirrors
        obtain ⟨moved, advanced, rfl⟩ := Option.map_eq_some_iff.mp stepped
        exact session_mirrors (coherent session (List.mem_concat_self))
          mirrors advanced
      · cases stepped
  | sessionOver =>
      simp only [Client.step] at stepped
      split at stepped
      · rename_i session phase
        simp only [phase] at coherent mirrors
        split at stepped
        · rename_i err returned
          cases stepped
          rw [(coherent session List.mem_concat_self).down returned] at mirrors
          unfold Client.sessionOver
          split
          · exact mirrors
          · exact mirrors
        · cases stepped
      · cases stepped
  | woken =>
      simp only [Client.step] at stepped
      split at stepped
      · rename_i wait phase
        simp only [phase] at mirrors
        cases stepped
        exact mirrors
      · cases stepped
  | stop =>
      cases stepped
      cases phase : client.phase with
      | running session =>
          simp only [phase] at mirrors ⊢
          exact mirrors
      | waiting wait => simpa only [phase] using mirrors
      | returned => simpa only [phase] using mirrors
  | done =>
      simp only [Client.step] at stepped
      split at stepped
      · rename_i wait phase
        simp only [phase] at mirrors
        split at stepped
        · cases stepped
          exact mirrors
        · cases stepped
      · cases stepped

/-- What a step of the process is. -/
theorem step_cases {move : AgentMove}
    (stepped : process.step options move = some next) :
    next.clock = move.reads.getD process.clock ∧
      process.clock ≤ next.clock ∧
      ((∃ moved, move = .client moved ∧
          process.client.step options Agent.handler moved =
            some next.client) ∨
        (∃ now applied, move = .tick now applied ∧
          next.client = { process.client with
            state := (process.agent.tick now applied).2 }) ∨
        (∃ now loaded, move = .reload now loaded ∧
          next.client = { process.client with
            state := (process.agent.reload now loaded).2 })) := by
  unfold RunningAgent.step at stepped
  by_cases back : move.reads.getD process.clock < process.clock
  · simp only [back, if_true] at stepped
    cases stepped
  · simp only [back, if_false] at stepped
    have onward := Nat.le_of_not_lt back
    cases move with
    | client moved =>
        obtain ⟨client, advanced, rfl⟩ := Option.map_eq_some_iff.mp stepped
        exact ⟨rfl, onward, .inl ⟨moved, rfl, advanced⟩⟩
    | tick now applied =>
        cases stepped
        exact ⟨rfl, onward, .inr (.inl ⟨now, applied, rfl, rfl⟩)⟩
    | reload now loaded =>
        cases stepped
        exact ⟨rfl, onward, .inr (.inr ⟨now, loaded, rfl, rfl⟩)⟩

theorem Attended.step {move : AgentMove} (attended : Attended options process)
    (stepped : process.step options move = some next) :
    Attended options next := by
  obtain ⟨-, -, moved⟩ := step_cases stepped
  rcases moved with ⟨moved, rfl, advanced⟩ | ⟨now, applied, -, same⟩ |
    ⟨now, loaded, -, same⟩
  · exact ⟨Client.sessions_step Coherent.initial Coherent.step
      attended.coherent advanced,
      client_mirrors attended.coherent attended.mirrors advanced⟩
  · refine ⟨?_, ?_⟩
    · rw [same]
      exact attended.coherent
    · rw [RunningAgent.agent, RunningAgent.isUp, same]
      exact Agent.tick_connected.trans attended.mirrors
  · refine ⟨?_, ?_⟩
    · rw [same]
      exact attended.coherent
    · rw [RunningAgent.agent, RunningAgent.isUp, same]
      refine Eq.trans ?_ attended.mirrors
      cases loaded <;> rfl

theorem Attended.initial (version : String) (maxOffline : Nat)
    (templates : List AgentTemplate) (now : Timestamp) :
    Attended options (create version maxOffline templates now) where
  coherent := List.forall_mem_singleton.mpr (.initial false)
  mirrors := rfl

/-! ## What a step makes of the agent -/

/-- The ways the agent changes in a step that ends at this instant. -/
inductive Touched (clock : Timestamp) (agent : Agent) : Agent → Prop where
  | alone : Touched clock agent agent
  | connected : Touched clock agent agent.onConnected
  | snapshot (snapshot : SnapshotPayload) (applied : ApplyResult)
      (check : Option (List String → TraefikCheckResult)) :
      Touched clock agent (agent.onSnapshot snapshot clock applied check).2
  | disconnected : Touched clock agent (agent.onDisconnected clock)
  | tick (applied : ApplyResult) :
      Touched clock agent (agent.tick clock applied).2
  | reload (loaded : Except String (List AgentTemplate)) :
      Touched clock agent (agent.reload clock loaded).2

theorem client_touched {move : ClientMove Surroundings} {next : Client Agent}
    {clock : Timestamp}
    (reads : clock = (AgentMove.client move).reads.getD clock)
    (stepped : client.step options Agent.handler move = some next) :
    Touched clock client.state next.state := by
  cases move with
  | session move =>
      simp only [Client.step] at stepped
      split at stepped
      · obtain ⟨⟨later, after⟩, advanced, rfl⟩ :=
          Option.map_eq_some_iff.mp stepped
        cases move with
        | handled surroundings =>
            have now : clock = surroundings.now := reads
            subst now
            rcases Session.handle_cases advanced with
              ⟨hello, -, rfl, -⟩ | ⟨snapshot, -, rfl, -⟩ |
                ⟨err, -, -, rfl, -⟩ | ⟨err, -, -, rfl, -⟩
            · exact .connected
            · exact .snapshot snapshot surroundings.applied surroundings.check
            · exact .disconnected
            · exact .alone
        | _ =>
            obtain ⟨other, -, same⟩ := Option.map_eq_some_iff.mp advanced
            cases same
            exact .alone
      · cases stepped
  | sessionOver =>
      simp only [Client.step] at stepped
      split at stepped
      · split at stepped
        · cases stepped
          unfold Client.sessionOver
          split <;> exact .alone
        · cases stepped
      · cases stepped
  | woken =>
      simp only [Client.step] at stepped
      split at stepped
      · cases stepped
        exact .alone
      · cases stepped
  | stop =>
      cases stepped
      exact .alone
  | done =>
      simp only [Client.step] at stepped
      split at stepped
      · split at stepped
        · cases stepped
          exact .alone
        · cases stepped
      · cases stepped

theorem step_touched {move : AgentMove}
    (stepped : process.step options move = some next) :
    Touched next.clock process.agent next.agent := by
  obtain ⟨clock, -, moved⟩ := step_cases stepped
  rcases moved with ⟨moved, rfl, advanced⟩ | ⟨now, applied, rfl, same⟩ |
    ⟨now, loaded, rfl, same⟩
  · apply client_touched _ advanced
    cases reads : (AgentMove.client moved).reads with
    | none => rfl
    | some now =>
        rw [reads] at clock
        exact clock
  · have isNow : next.clock = now := clock
    rw [isNow, RunningAgent.agent, RunningAgent.agent, same]
    exact .tick applied
  · have isNow : next.clock = now := clock
    rw [isNow, RunningAgent.agent, RunningAgent.agent, same]
    exact .reload loaded

/-! ## Since when the agent is cut off -/

/-- The agent is connected, or was at this instant or later: if not, its
offline timer was started again since. -/
def HeardSince (since : Timestamp) (agent : Agent) : Prop :=
  agent.connected = true ∨ since ≤ agent.offlineSince

variable {since clock : Timestamp} {after : Agent}

theorem Touched.heard (touched : Touched clock agent after)
    (now : since ≤ clock) (heard : HeardSince since agent) :
    HeardSince since after := by
  cases touched with
  | alone => exact heard
  | connected => exact .inl rfl
  | snapshot snapshot applied check =>
      rcases @Agent.onSnapshot_cases agent snapshot clock applied check with
        same | ⟨-, same⟩
      · rw [same]
        exact heard
      · rw [same]
        exact .inr now
  | disconnected => exact .inr now
  | tick applied =>
      unfold HeardSince
      rw [Agent.tick_connected, Agent.tick_offlineSince]
      exact heard
  | reload loaded => cases loaded <;> exact heard

/-- The limit is never configured anew. -/
theorem Touched.maxOffline (touched : Touched clock agent after) :
    after.maxOffline = agent.maxOffline := by
  cases touched with
  | snapshot snapshot applied check =>
      rcases @Agent.onSnapshot_cases agent snapshot clock applied check with
        same | ⟨-, same⟩
      · rw [same]
      · rw [same]
        rfl
  | tick applied =>
      unfold Agent.tick
      split
      · cases applied <;> rfl
      · rfl
  | reload loaded => cases loaded <;> rfl
  | _ => rfl

/-- Once heard, the agent stays so. -/
theorem heard_step {move : AgentMove}
    (kept : since ≤ process.clock ∧ HeardSince since process.agent)
    (stepped : process.step options move = some next) :
    since ≤ next.clock ∧ HeardSince since next.agent := by
  obtain ⟨clock, onward, -⟩ := step_cases stepped
  have now := Nat.le_trans kept.1 onward
  exact ⟨now, (step_touched stepped).heard now kept.2⟩

/-- The agent starts its offline timer again when it has applied a snapshot. -/
theorem applied_since {surroundings : Surroundings} {report : ReportMessage}
    (stepped : process.step options
      (.client (.session (.handled surroundings))) = some next)
    (going : next.client.phase = .running session)
    (reporting : session.stage = .reporting report)
    (applied : report.result = .ok) :
    next.clock = surroundings.now ∧
      next.agent.offlineSince = surroundings.now := by
  obtain ⟨clock, -, moved⟩ := step_cases stepped
  refine ⟨clock, ?_⟩
  rcases moved with ⟨moved, same, advanced⟩ | ⟨_, _, other, -⟩ |
    ⟨_, _, other, -⟩
  · cases same
    simp only [Client.step] at advanced
    split at advanced
    · obtain ⟨⟨later, after⟩, handled, same⟩ :=
        Option.map_eq_some_iff.mp advanced
      rw [← same] at going
      cases going
      rcases Session.handle_cases handled with
        ⟨hello, -, -, stage, -⟩ | ⟨snapshot, -, made, stage, -⟩ |
          ⟨err, -, -, -, stage, -⟩ | ⟨err, -, -, -, stage, -⟩
      · cases stage.symm.trans reporting
      · cases stage.symm.trans reporting
        have accepted := Agent.onSnapshot_applied applied
        rw [RunningAgent.agent, ← same]
        exact (congrArg Agent.offlineSince (made.trans accepted))
      · cases stage.symm.trans reporting
      · cases stage.symm.trans reporting
    · cases advanced
  · cases other
  · cases other

/-- The tick that marks the files stale comes after the limit has passed since
any instant the agent was heard at. -/
theorem overdue_since {maxOffline : Nat} {now : Timestamp}
    {applied : ApplyResult} {moves : List AgentMove} {start : RunningAgent}
    (kept : since ≤ start.clock ∧ HeardSince since start.agent)
    (limit : start.agent.maxOffline = maxOffline)
    (ran : moves.foldlM (RunningAgent.step options) start = some process)
    (ticked : process.step options (.tick now applied) = some next)
    (fresh : process.agent.stale = false)
    (marked : next.agent.stale = true) : since + maxOffline < now := by
  have heard := (Async.Machine.invariant
    (fun process : RunningAgent =>
      since ≤ process.clock ∧ HeardSince since process.agent)
    heard_step kept ran).2
  have same : process.agent.maxOffline = maxOffline :=
    Async.Machine.invariant
      (fun process : RunningAgent => process.agent.maxOffline = maxOffline)
      (fun kept stepped => (step_touched stepped).maxOffline.trans kept)
      limit ran
  have turned : (process.agent.tick now applied).2.stale = true := by
    obtain ⟨-, -, ⟨_, other, -⟩ | ⟨_, _, own, isNext⟩ | ⟨_, _, other, -⟩⟩ :=
      step_cases ticked
    · cases other
    · cases own
      rw [RunningAgent.agent, isNext] at marked
      exact marked
    · cases other
  obtain ⟨offline, overdue⟩ := Agent.tick_stale fresh turned
  rcases heard with connected | later
  · cases offline.symm.trans connected
  · rw [← same, Nat.add_comm]
    exact Nat.lt_of_le_of_lt (Nat.add_le_add_left later _)
      (Nat.add_lt_of_lt_sub overdue)

end RunningAgent

open RunningAgent

namespace RunningAgent

def surroundingsAt (now : Timestamp) : Surroundings := ⟨now, .ok [], none⟩

/-- The agent is greeted and applies a snapshot. -/
def greetedAndApplied : List AgentMove :=
  [.dialed none, .opened none, .greeted none 1,
    .received (some (.hello ⟨1, "", 0, 30, 0, "home", 1⟩)) 2,
    .handled (surroundingsAt 3),
    .received (some (.snapshot firstSnapshot)) 4,
    .handled (surroundingsAt 5)].map (.client ∘ .session)

/-- The connection breaks and is not made again. -/
def cutOff : List AgentMove :=
  [.reported none, .broken ⟨.unavailable, "reset"⟩ false,
    .handled (surroundingsAt 10), .timersStopped, .joined].map
      (.client ∘ .session) ++
  [.tick 70 (.ok []), .client .sessionOver]

end RunningAgent

end FluxIP
