import FluxIP.Adapters.SessionMemory
import FluxIP.Agent.Process
import FluxIP.Guarantees.SessionConversation

/-!
# The two ends of a session

One session of the agent and the whole backend, joined by a stream that keeps
the order of the messages in each direction.  The backend may make any call
between two messages of the session.  An agent never gives it a reason to end
the session, and every report the backend takes answers the snapshots it sent,
one after the other.
-/

namespace FluxIP

open Async SessionClient

/-- The two ends of a stream.  `stream` is the session the backend opened for
it, `taken` and `delivered` count the messages that have come through to the
backend and to the agent, `reports` are the reports the backend has taken. -/
structure Link where
  world : World
  agent : Agent
  session : Session := {}
  stopped : Bool := false
  stream : Option Id := none
  taken : Nat := 0
  delivered : Nat := 0
  reports : List ReportMessage := []

inductive LinkMove where
  | agent (move : SessionClient.Move Surroundings)
  | stop
  | accept (providerId accountId tokenId : Id) (now : Timestamp)
      (choice : Choice)
  | take (now : Timestamp) (choice : Choice)
  | backend (call : Call) (choice : Choice)

namespace Link

/-- What went out on a stream. -/
def sentOn (agents : Agents) : Option Id → List AgentMessage
  | none => []
  | some sessionId =>
      (agents.sent.filter (·.sessionId = sessionId)).map (·.message)

/-- What the backend has sent to the agent. -/
def toAgent (link : Link) : List AgentMessage :=
  sentOn link.world.agents link.stream

/-- The agent takes a step of its own. -/
def advance (options : Options) (link : Link)
    (move : SessionClient.Move Surroundings) : Option Link :=
  (link.session.step options Agent.handler link.stopped link.agent move).map
    fun next => { link with
      session := next.1
      agent := next.2 }

/-- The report that a message has brought, if it was one. -/
def reported : Except Err Agents.Processing → List ReportMessage
  | .ok (.reported report) => [report]
  | _ => []

/-- A message of the agent is processed. -/
def process (link : Link) (sessionId : Id) (message : AgentMessage)
    (now : Timestamp) (choice : Choice) : Option Link :=
  (semantics (.memory (.process sessionId message now)) choice link.world).map
    fun result => { link with
      world := result.2
      taken := link.taken + 1
      reports := link.reports ++ reported result.1 }

/-- A call that processes a message of the stream. -/
def processes (link : Link) : Call → Bool
  | .memory (.process sessionId _ _) => link.stream = some sessionId
  | _ => false

def step (options : Options) (link : Link) : LinkMove → Option Link
  | .agent (.received message now) =>
      match message with
      | none => none
      | some message =>
          if link.toAgent[link.delivered]? = some message then
            (link.advance options (.received (some message) now)).map
              fun next => { next with delivered := link.delivered + 1 }
          else none
  | .agent move => link.advance options move
  | .stop => some { link with
      stopped := true
      session := { link.session with cancelled := true } }
  | .accept providerId accountId tokenId now choice =>
      match link.stream with
      | some _ => none
      | none =>
          (semantics (.memory (.openSession providerId accountId tokenId now))
            choice link.world).map fun result => { link with
              world := result.2
              stream := some link.world.nextUUID }
  | .take now choice =>
      match link.stream, link.session.sent[link.taken]? with
      | some sessionId, some message =>
          link.process sessionId message now choice
      | _, _ => none
  | .backend call choice =>
      if link.processes call then none
      else (semantics call choice link.world).map
        fun result => { link with world := result.2 }

/-- The version and the correlation id that a report repeats. -/
def reportKey (report : ReportMessage) : Nat × Id :=
  (report.version, report.correlationId)

def snapshotKey (snapshot : SnapshotPayload) : Nat × Id :=
  (snapshot.version, snapshot.correlationId)

def snapshotOf : AgentMessage → Option SnapshotPayload
  | .snapshot snapshot => some snapshot
  | _ => none

/-- The snapshots sent on the stream. -/
def snapshots (link : Link) : List SnapshotPayload :=
  link.toAgent.filterMap snapshotOf

end Link

/-! ## What the agent reports -/

namespace Link

/-- Each snapshot was reported on, under its version and correlation id. -/
def Answers (call : HandlerCall) : Prop :=
  ∀ snapshot report, call = .onSnapshot snapshot report →
    report.map reportKey = some (snapshotKey snapshot)

variable {options : Options} {session next : Session}

theorem reports_of_calls {calls : List HandlerCall}
    (answers : ∀ call ∈ calls, Answers call) :
    (calls.filterMap HandlerCall.report).map reportKey =
      ((calls.filterMap HandlerCall.message).filterMap snapshotOf).map
        snapshotKey := by
  induction calls with
  | nil => rfl
  | cons call calls ih =>
      obtain ⟨first, rest⟩ := List.forall_mem_cons.mp answers
      have same := ih rest
      cases call with
      | onConnected hello => exact same
      | onDisconnected err => exact same
      | onSnapshot snapshot report =>
          obtain ⟨made, rfl, key⟩ :=
            Option.map_eq_some_iff.mp (first snapshot report rfl)
          exact congrArg₂ List.cons key same

/-- The handler is told of every snapshot. -/
theorem snapshots_handled (received : List AgentMessage) :
    (received.filter isHandled).filterMap snapshotOf =
      received.filterMap snapshotOf := by
  rw [List.filterMap_filter]
  apply List.filterMap_congr
  intro message _
  cases message with
  | hello hello => rfl
  | snapshot snapshot => rfl
  | _ => rfl

/-- What was reported so far answers the first of the snapshots received. -/
theorem reports_follow (coherent : Coherent options session)
    (answers : ∀ call ∈ session.calls, Answers call) :
    (session.sent.filterMap reportOf).map reportKey <+:
      (session.received.filterMap snapshotOf).map snapshotKey := by
  obtain ⟨left, -, answered⟩ := coherent.answered
  have sent : (session.sent.filterMap reportOf).map reportKey <+:
      (session.calls.filterMap HandlerCall.report).map reportKey :=
    List.IsPrefix.map _ ⟨left, answered.symm⟩
  rw [reports_of_calls answers] at sent
  have told : session.calls.filterMap HandlerCall.message <+:
      session.received.filter isHandled :=
    ⟨session.stage.pending, coherent.handled.symm⟩
  have heard := (told.filterMap snapshotOf).map snapshotKey
  rw [snapshots_handled] at heard
  exact sent.trans heard

/-- The agent repeats the version and the correlation id of the snapshot. -/
theorem onSnapshot_key {agent : Agent} {snapshot : SnapshotPayload}
    {now : Timestamp} {applied : ApplyResult}
    {check : Option (List String → TraefikCheckResult)} :
    reportKey (agent.onSnapshot snapshot now applied check).1 =
      snapshotKey snapshot := by
  unfold Agent.onSnapshot
  split
  · rfl
  · cases applied <;> rfl

theorem answers_step {stopped : Bool} {agent after : Agent}
    {move : SessionClient.Move Surroundings}
    (answers : ∀ call ∈ session.calls, Answers call)
    (stepped : session.step options Agent.handler stopped agent move =
      some (next, after)) : ∀ call ∈ next.calls, Answers call := by
  cases move with
  | handled surroundings =>
      have further {call : HandlerCall} (own : Answers call)
          (calls : next.calls = session.calls ++ [call]) :
          ∀ call ∈ next.calls, Answers call := by
        rw [calls]
        exact List.forall_mem_append.mpr
          ⟨answers, List.forall_mem_singleton.mpr own⟩
      rcases Session.handle_cases stepped with
        ⟨hello, -, -, -, calls⟩ | ⟨snapshot, -, -, -, calls⟩ |
          ⟨err, -, -, -, -, calls⟩ | ⟨err, -, -, -, -, calls⟩
      · exact further (fun _ _ other => by cases other) calls
      · refine further (fun told report same => ?_) calls
        cases same
        exact congrArg some onSnapshot_key
      · exact further (fun _ _ other => by cases other) calls
      · rw [calls]
        exact answers
  | _ =>
      obtain ⟨moved, advanced, same⟩ := Option.map_eq_some_iff.mp stepped
      cases same
      rw [(Session.advance_frame advanced).1]
      exact answers

end Link

/-! ## What the backend makes of an agent's messages -/

namespace Agents

variable {agents : Agents} {sessionId : Id} {session : AgentSession}
variable {message : AgentMessage} {now : Timestamp}

/-- The session goes on, and has said hello. -/
structure GoesOn (session later : AgentSession) : Prop where
  helloSeen : later.helloSeen = true
  closed : later.closed = session.closed
  ended : later.ended = session.ended
  closeReason : later.closeReason = session.closeReason

/-- A hello that the server understands is taken. -/
theorem process_connects (found : agents.sessions sessionId = some session)
    (isOpen : session.closed = false) (unseen : session.helloSeen = false)
    (welcome : message.isWelcome = true) :
    ∃ data, (agents.process sessionId message now).1 = .connected data := by
  cases message with
  | hello spoken =>
      have understood : ¬ min spoken.protocolVersion PROTOCOL_MAX_VERSION <
          PROTOCOL_MIN_VERSION := Nat.not_lt.mpr (of_decide_eq_true welcome)
      simp only [process, found, isOpen, unseen, Bool.false_eq_true, if_false,
        onHello, understood]
      split
      · exact ⟨_, rfl⟩
      · exact ⟨_, rfl⟩
  | _ => cases welcome

/-- An open session that is greeted first and never told bye goes on. -/
theorem process_goesOn (introduced : agents.Introduced)
    (disciplined : agents.Disciplined none)
    (found : agents.sessions sessionId = some session)
    (isOpen : session.closed = false)
    (greets : session.helloSeen = false → message.isWelcome = true)
    (stays : ∀ reason, message ≠ .bye reason) :
    (∃ later, (agents.process sessionId message now).2.sessions sessionId =
      some later ∧ GoesOn session later) ∧
    Link.reported (.ok (agents.process sessionId message now).1) =
      (reportOf message).toList := by
  cases seen : session.helloSeen with
  | false =>
      have welcome := greets seen
      have connects : ∃ data,
          (agents.process sessionId message now).1 = .connected data :=
        process_connects found isOpen seen welcome
      obtain ⟨data, connects⟩ := connects
      rw [connects]
      refine ⟨?_, ?_⟩
      · rcases @process_moves agents sessionId message now introduced
          disciplined with ⟨own, _, rfl, -, -, -, taken⟩ | ⟨other, -⟩
        · cases taken.found.symm.trans found
          exact ⟨_, taken.own, rfl, rfl, rfl, rfl⟩
        · exact absurd connects (other data)
      · cases message with
        | hello spoken => rfl
        | _ => cases welcome
  | true =>
      have processed : (agents.process sessionId message now).2 =
          agents.modify sessionId ({ · with lastReceivedAt := now }) := by
        unfold process
        cases message with
        | bye reason => exact absurd rfl (stays reason)
        | _ => simp only [found, isOpen, seen, Bool.false_eq_true, if_false]
      refine ⟨?_, ?_⟩
      · rw [processed]
        refine ⟨{ session with lastReceivedAt := now }, ?_, seen, rfl, rfl, rfl⟩
        simp only [modify, Function.update_self, found, Option.map_some]
      · unfold process
        cases message with
        | bye reason => exact absurd rfl (stays reason)
        | _ =>
            simp only [found, isOpen, seen, Bool.false_eq_true, if_false]
            rfl

/-- A session that was closed takes nothing. -/
theorem process_closed (found : agents.sessions sessionId = some session)
    (closed : session.closed = true) :
    agents.process sessionId message now = (.finished, agents) := by
  simp only [process, found, closed, if_true]

end Agents

/-! ## Both ends -/

namespace Link

variable {options : Options} {link next : Link}

/-- What holds of the two ends and of what is between them. -/
structure Joined (options : Options) (link : Link) : Prop where
  seated : Seated link.world
  introduced : link.world.agents.Introduced
  coherent : Coherent options link.session
  answers : ∀ call ∈ link.session.calls, Answers call
  received : link.session.received = link.toAgent.take link.delivered
  delivered : link.delivered ≤ link.toAgent.length
  taken : link.taken ≤ link.session.sent.length
  unopened : link.stream = none → link.taken = 0 ∧ link.reports = []
  reports : link.reports <+:
    (link.session.sent.take link.taken).filterMap reportOf
  live : ∀ sessionId, link.stream = some sessionId →
    ∃ session, link.world.agents.sessions sessionId = some session ∧
      (session.closed = false →
        (0 < link.taken → session.helloSeen = true) ∧
        link.reports =
          (link.session.sent.take link.taken).filterMap reportOf)

/-- What any call of the backend keeps. -/
theorem call_keeps {world after : World} {call : Call} {choice : Choice}
    {answer : Except Err call.Answer} (seated : Seated world)
    (introduced : world.agents.Introduced)
    (result : semantics call choice world = some (answer, after)) :
    Seated after ∧ after.agents.Introduced ∧
      world.agents.Progress after.agents := by
  have does := call_does seated introduced result
  exact ⟨(call_sessionStep seated result).seated,
    does.introduced seated.disciplined introduced,
    does.progress seated.disciplined⟩

theorem sentOn_prefix {before after : Agents} {stream : Option Id}
    (progress : before.Progress after) :
    sentOn before stream <+: sentOn after stream := by
  cases stream with
  | none => exact List.prefix_rfl
  | some sessionId => exact (progress.sent.filter _).map _

theorem take_of_extends {α : Type} {before after : List α} {count : Nat}
    (grown : before <+: after) (bounded : count ≤ before.length) :
    after.take count = before.take count := by
  obtain ⟨rest, rfl⟩ := grown
  exact List.take_append_of_le_length bounded

/-- The session of the agent changes. -/
theorem Joined.withSession {session : Session} {agent : Agent}
    {stopped : Bool} {delivered : Nat} (joined : Joined options link)
    (coherent : Coherent options session)
    (answers : ∀ call ∈ session.calls, Answers call)
    (sent : link.session.sent <+: session.sent)
    (received : session.received = link.toAgent.take delivered)
    (bounded : delivered ≤ link.toAgent.length) :
    Joined options { link with session, agent, stopped, delivered } := by
  have same : session.sent.take link.taken =
      link.session.sent.take link.taken := take_of_extends sent joined.taken
  refine ⟨joined.seated, joined.introduced, coherent, answers, received,
    bounded, joined.taken.trans sent.length_le, joined.unopened, ?_, ?_⟩
  · rw [same]
    exact joined.reports
  · rw [same]
    exact joined.live

/-- Time passes for the backend. -/
theorem Joined.withWorld {world : World} (joined : Joined options link)
    (seated : Seated world) (introduced : world.agents.Introduced)
    (progress : link.world.agents.Progress world.agents) :
    Joined options { link with world } := by
  have sent : link.toAgent <+: sentOn world.agents link.stream :=
    sentOn_prefix progress
  refine ⟨seated, introduced, joined.coherent, joined.answers, ?_,
    joined.delivered.trans sent.length_le, joined.taken, joined.unopened,
    joined.reports, ?_⟩
  · exact joined.received.trans (take_of_extends sent joined.delivered).symm
  · intro sessionId ofStream
    obtain ⟨session, found, going⟩ := joined.live sessionId ofStream
    obtain ⟨later, present, goesOn⟩ := progress.goesOn sessionId session found
    refine ⟨later, present, fun isOpen => ?_⟩
    have wasOpen : session.closed = false := by
      cases closed : session.closed with
      | false => rfl
      | true => cases (goesOn.closed closed).symm.trans isOpen
    obtain ⟨seen, all⟩ := going wasOpen
    exact ⟨fun some => goesOn.helloSeen (seen some), all⟩

theorem Joined.advance {move : SessionClient.Move Surroundings}
    {session : Session} {agent : Agent} {delivered : Nat}
    (joined : Joined options link)
    (stepped : link.session.step options Agent.handler link.stopped link.agent
      move = some (session, agent))
    (received : link.session.received ++ move.brings =
      link.toAgent.take delivered)
    (bounded : delivered ≤ link.toAgent.length) :
    Joined options { link with session, agent, delivered } := by
  have changed : Change options link.session session :=
    Session.step_change stepped
  have moved : Joined options
      { link with session, agent, stopped := link.stopped, delivered } :=
    joined.withSession (joined.coherent.step changed)
      (answers_step joined.answers stepped) changed.sent
      ((Session.step_received stepped).trans received) bounded
  exact moved

/-- A step of the agent takes the next message of the backend, or none. -/
theorem agent_cases {move : SessionClient.Move Surroundings}
    (stepped : link.step options (.agent move) = some next) :
    ∃ session agent delivered,
      link.session.step options Agent.handler link.stopped link.agent move =
        some (session, agent) ∧
      next = { link with session, agent, delivered } ∧
      (move.brings = [] ∧ delivered = link.delivered ∨
        ∃ message, move.brings = [message] ∧
          link.toAgent[link.delivered]? = some message ∧
          delivered = link.delivered + 1) := by
  cases move with
  | received message now =>
      cases message with
      | none => cases stepped
      | some message =>
          simp only [Link.step] at stepped
          split at stepped
          · rename_i awaited
            obtain ⟨moved, advanced, rfl⟩ := Option.map_eq_some_iff.mp stepped
            obtain ⟨⟨session, agent⟩, own, rfl⟩ :=
              Option.map_eq_some_iff.mp advanced
            exact ⟨session, agent, _, own, rfl,
              .inr ⟨message, rfl, awaited, rfl⟩⟩
          · cases stepped
  | _ =>
      obtain ⟨⟨session, agent⟩, own, rfl⟩ := Option.map_eq_some_iff.mp stepped
      exact ⟨session, agent, _, own, rfl, .inl ⟨rfl, rfl⟩⟩

theorem Joined.agent_step {move : SessionClient.Move Surroundings}
    (joined : Joined options link)
    (stepped : link.step options (.agent move) = some next) :
    Joined options next := by
  obtain ⟨session, agent, delivered, own, rfl,
    ⟨nothing, rfl⟩ | ⟨message, brings, awaited, rfl⟩⟩ := agent_cases stepped
  · apply joined.advance own _ joined.delivered
    rw [nothing, List.append_nil]
    exact joined.received
  · apply joined.advance own
    · rw [brings, joined.received, List.take_add_one, awaited]
      rfl
    · exact (List.getElem?_eq_some_iff.mp awaited).1

/-- An agent greets the backend first, and never says bye. -/
theorem message_is_proper {message : AgentMessage} (joined : Joined options link)
    (upcoming : link.session.sent[link.taken]? = some message) :
    (link.taken = 0 → message.isWelcome = true) ∧
      ∀ reason, message ≠ .bye reason := by
  rcases joined.coherent.hello with none | ⟨rest, sent, followUps⟩
  · rw [none] at upcoming
    cases upcoming
  · rw [sent] at upcoming
    cases count : link.taken with
    | zero =>
        rw [count] at upcoming
        cases upcoming
        exact ⟨fun _ => rfl, fun reason other => by cases other⟩
    | succ count =>
        rw [count] at upcoming
        have follows := followUps message (List.mem_of_getElem? upcoming)
        refine ⟨fun none => absurd none (Nat.succ_ne_zero _),
          fun reason other => ?_⟩
        rw [other] at follows
        cases follows

/-- What a message of the agent makes of its session at the backend. -/
structure Takes (link next : Link) (sessionId : Id) (message : AgentMessage) :
    Prop where
  seated : Seated next.world
  introduced : next.world.agents.Introduced
  progress : link.world.agents.Progress next.world.agents
  same : next.session = link.session ∧ next.agent = link.agent ∧
    next.stream = link.stream ∧ next.delivered = link.delivered ∧
      next.taken = link.taken + 1
  closed : ∀ session, link.world.agents.sessions sessionId = some session →
    session.closed = true →
    next.world.agents.sessions sessionId = some session ∧
      next.reports = link.reports
  goesOn : ∀ session, link.world.agents.sessions sessionId = some session →
    session.closed = false →
    (∃ later, next.world.agents.sessions sessionId = some later ∧
      Agents.GoesOn session later) ∧
      next.reports = link.reports ++ (reportOf message).toList

theorem process_takes {sessionId : Id} {message : AgentMessage}
    {now : Timestamp} {choice : Choice} (joined : Joined options link)
    (ofStream : link.stream = some sessionId)
    (upcoming : link.session.sent[link.taken]? = some message)
    (stepped : link.process sessionId message now choice = some next) :
    Takes link next sessionId message := by
  obtain ⟨⟨answer, world⟩, result, rfl⟩ := Option.map_eq_some_iff.mp stepped
  obtain ⟨seated, introduced, progress⟩ :=
    call_keeps joined.seated joined.introduced result
  have answered : .ok (link.world.agents.process sessionId message now).1 =
      answer := congrArg Prod.fst (Option.some.inj result)
  have agents : (link.world.agents.process sessionId message now).2 =
      world.agents := congrArg (·.2.agents) (Option.some.inj result)
  obtain ⟨welcome, stays⟩ := message_is_proper joined upcoming
  refine ⟨seated, introduced, progress, ⟨rfl, rfl, rfl, rfl, rfl⟩, ?_, ?_⟩
  · intro session found isClosed
    have finished : link.world.agents.process sessionId message now =
        (.finished, link.world.agents) :=
      Agents.process_closed found isClosed
    rw [finished] at agents answered
    refine ⟨?_, ?_⟩
    · rw [← agents]
      exact found
    · rw [← answered]
      exact List.append_nil _
  · intro session found isOpen
    have greets : session.helloSeen = false → message.isWelcome = true := by
      intro unseen
      apply welcome
      obtain ⟨own, present, going⟩ := joined.live sessionId ofStream
      cases present.symm.trans found
      refine Nat.eq_zero_of_not_pos fun some => ?_
      cases ((going isOpen).1 some).symm.trans unseen
    have goes : (∃ later,
        (link.world.agents.process sessionId message now).2.sessions
          sessionId = some later ∧ Agents.GoesOn session later) ∧
        reported (.ok (link.world.agents.process sessionId message now).1) =
          (reportOf message).toList :=
      Agents.process_goesOn joined.introduced joined.seated.disciplined found
        isOpen greets stays
    rw [agents] at goes
    exact ⟨goes.1, congrArg (link.reports ++ ·)
      ((congrArg reported answered.symm).trans goes.2)⟩

theorem Joined.take_step {now : Timestamp} {choice : Choice}
    (joined : Joined options link)
    (stepped : link.step options (.take now choice) = some next) :
    ∃ sessionId message, link.stream = some sessionId ∧
      link.session.sent[link.taken]? = some message ∧
      Takes link next sessionId message := by
  simp only [Link.step] at stepped
  split at stepped
  · rename_i sessionId message ofStream upcoming
    exact ⟨sessionId, message, ofStream, upcoming,
      process_takes joined ofStream upcoming stepped⟩
  · cases stepped

theorem Joined.takes {sessionId : Id} {message : AgentMessage}
    (joined : Joined options link) (ofStream : link.stream = some sessionId)
    (upcoming : link.session.sent[link.taken]? = some message)
    (takes : Takes link next sessionId message) : Joined options next := by
  obtain ⟨session, found, going⟩ := joined.live sessionId ofStream
  obtain ⟨sameSession, sameAgent, sameStream, delivered, taken⟩ := takes.same
  have sent : link.toAgent <+: next.toAgent := by
    rw [toAgent, toAgent, sameStream]
    exact sentOn_prefix takes.progress
  have further : (link.session.sent.take (link.taken + 1)).filterMap reportOf =
      (link.session.sent.take link.taken).filterMap reportOf ++
        (reportOf message).toList := by
    rw [List.take_add_one, upcoming, List.filterMap_append, Option.toList_some]
    cases made : reportOf message with
    | none => rw [List.filterMap_cons_none made, Option.toList_none,
        List.filterMap_nil]
    | some report => rw [List.filterMap_cons_some made, Option.toList_some,
        List.filterMap_nil]
  have bounded : link.taken + 1 ≤ link.session.sent.length :=
    (List.getElem?_eq_some_iff.mp upcoming).1
  refine ⟨takes.seated, takes.introduced, ?_, ?_, ?_, ?_, ?_, ?_, ?_, ?_⟩
  · rw [sameSession]
    exact joined.coherent
  · rw [sameSession]
    exact joined.answers
  · rw [sameSession, delivered]
    exact joined.received.trans (take_of_extends sent joined.delivered).symm
  · rw [delivered]
    exact joined.delivered.trans sent.length_le
  · rw [sameSession, taken]
    exact bounded
  · rw [sameStream, ofStream]
    intro impossible
    cases impossible
  · rw [sameSession, taken, further]
    cases closed : session.closed with
    | true =>
        rw [(takes.closed session found closed).2]
        exact joined.reports.trans (List.prefix_append _ _)
    | false =>
        have all := (takes.goesOn session found closed).2
        rw [(going closed).2] at all
        exact all ▸ List.prefix_rfl
  · intro other ofNext
    rw [sameStream, ofStream] at ofNext
    cases ofNext
    cases closed : session.closed with
    | true =>
        refine ⟨session, (takes.closed session found closed).1, fun isOpen => ?_⟩
        cases closed.symm.trans isOpen
    | false =>
        obtain ⟨⟨later, present, goesOn⟩, reports⟩ :=
          takes.goesOn session found closed
        refine ⟨later, present, fun _ => ⟨fun _ => goesOn.helloSeen, ?_⟩⟩
        rw [reports, sameSession, taken, further, (going closed).2]

theorem Joined.accept_step {providerId accountId tokenId : Id}
    {now : Timestamp} {choice : Choice} (joined : Joined options link)
    (stepped : link.step options
      (.accept providerId accountId tokenId now choice) = some next) :
    Joined options next := by
  simp only [Link.step] at stepped
  split at stepped
  · cases stepped
  · rename_i unopened
    obtain ⟨⟨answer, world⟩, result, rfl⟩ := Option.map_eq_some_iff.mp stepped
    obtain ⟨seated, introduced, -⟩ :=
      call_keeps joined.seated joined.introduced result
    obtain ⟨taken, reports⟩ := joined.unopened unopened
    have nothing : link.toAgent = [] := by rw [toAgent, unopened]; rfl
    have undelivered : link.delivered = 0 := by
      have bounded := joined.delivered
      rw [nothing] at bounded
      exact Nat.le_zero.mp bounded
    refine ⟨seated, introduced, joined.coherent, joined.answers, ?_, ?_,
      joined.taken, fun opened => ?_, joined.reports, ?_⟩
    · have received := joined.received
      rw [undelivered] at received ⊢
      exact received
    · rw [undelivered]
      exact Nat.zero_le _
    · cases opened
    · intro sessionId ofStream
      cases ofStream
      cases result
      refine ⟨_, Function.update_self _ _ _, fun _ => ⟨fun some => ?_, ?_⟩⟩
      · rw [taken] at some
        cases some
      · rw [reports, taken]
        rfl

theorem Joined.step {move : LinkMove} (joined : Joined options link)
    (stepped : link.step options move = some next) : Joined options next := by
  cases move with
  | agent move => exact joined.agent_step stepped
  | stop =>
      cases stepped
      exact joined.withSession (joined.coherent.step .cancelled) joined.answers
        List.prefix_rfl joined.received joined.delivered
  | accept providerId accountId tokenId now choice =>
      exact joined.accept_step stepped
  | take now choice =>
      obtain ⟨sessionId, message, ofStream, upcoming, takes⟩ :=
        joined.take_step stepped
      exact joined.takes ofStream upcoming takes
  | backend call choice =>
      simp only [Link.step] at stepped
      split at stepped
      · cases stepped
      · obtain ⟨⟨answer, world⟩, result, rfl⟩ :=
          Option.map_eq_some_iff.mp stepped
        obtain ⟨seated, introduced, progress⟩ :=
          call_keeps joined.seated joined.introduced result
        exact joined.withWorld seated introduced progress

/-- The backend has just started, and the agent dials. -/
def begin (world : World) (agent : Agent) : Link := { world, agent }

theorem Joined.initial {world : World} {agent : Agent}
    (started : world.agents = {}) : Joined options (begin world agent) where
  seated := by
    have none (id : Id) : (begin world agent).world.agents.sessions id = none :=
      congrArg (·.sessions id) started
    refine ⟨⟨?_, ?_, ?_, ?_⟩, ?_⟩
    · intro id session found
      cases (none id).symm.trans found
    · intro id session found
      cases (none id).symm.trans found
    · intro providerId active registered
      cases (congrArg (·.byProvider providerId) started).symm.trans registered
    · intro id session found
      cases (none id).symm.trans found
    · intro id session found
      cases (none id).symm.trans found
  introduced := by
    intro providerId active registered
    cases (congrArg (·.byProvider providerId) started).symm.trans registered
  coherent := .initial false
  answers := List.forall_mem_nil _
  received := rfl
  delivered := Nat.le_refl 0
  taken := Nat.le_refl 0
  unopened _ := ⟨rfl, rfl⟩
  reports := List.prefix_rfl
  live _ impossible := by cases impossible

end Link

open Link

namespace Link

/-- The agent is greeted, sent a snapshot, and reports on it. -/
def reportedOnce : List LinkMove :=
  [.accept 1 2 3 0 .ok, .agent (.dialed none), .agent (.opened none),
    .agent (.greeted none 1), .take 2 .ok,
    .backend (.memory (.sendAgent 0 (.hello ⟨1, "", 0, 30, 0, "home", 1⟩))) .ok,
    .backend (.memory (.sendAgent 0 (.snapshot firstSnapshot))) .ok,
    .agent (.received (some (.hello ⟨1, "", 0, 30, 0, "home", 1⟩)) 3),
    .agent (.handled ⟨4, .ok [], none⟩),
    .agent (.received (some (.snapshot firstSnapshot)) 5),
    .agent (.handled ⟨6, .ok [], none⟩), .agent (.reported none),
    .take 7 .ok]

end Link

end FluxIP
