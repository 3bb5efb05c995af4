import FluxIP.Agent.SessionSteps

/-!
# The conversation of a session

What a session has said, heard and told its handler at any time, however the
steps of `runOnce`, of its timers and of the network interleave: the hello
comes first, every report answers a snapshot, the handler hears of everything
in order and of the end last, and no timer outlives the session.
-/

namespace FluxIP

namespace SessionClient

/-! ## What is said -/

/-- What the agent may send after its hello. -/
def isFollowUp : AgentMessage → Bool
  | .report _ => true
  | .heartbeat _ => true
  | .syncRequest => true
  | _ => false

/-- What the timers send. -/
def isTimed : AgentMessage → Bool
  | .heartbeat _ => true
  | .syncRequest => true
  | _ => false

def reportOf : AgentMessage → Option ReportMessage
  | .report report => some report
  | _ => none

def nonceOf : AgentMessage → Option Nat
  | .heartbeat nonce => some nonce
  | _ => none

/-- The messages the handler is told of. -/
def isHandled : AgentMessage → Bool
  | .hello _ => true
  | .snapshot _ => true
  | _ => false

namespace HandlerCall

/-- The message a call is about. -/
def message : HandlerCall → Option AgentMessage
  | .onConnected hello => some (.hello hello)
  | .onSnapshot snapshot _ => some (.snapshot snapshot)
  | .onDisconnected _ => none

def report : HandlerCall → Option ReportMessage
  | .onSnapshot _ report => report
  | _ => none

def isEnd : HandlerCall → Bool
  | .onDisconnected _ => true
  | _ => false

end HandlerCall

namespace Stage

/-- Nothing was sent yet. -/
def isEarly : Stage → Bool
  | .dialing => true
  | .opening => true
  | .greeting => true
  | _ => false

/-- The message the handler is about to be told of. -/
def pending : Stage → List AgentMessage
  | .connecting hello => [.hello hello]
  | .applying snapshot => [.snapshot snapshot]
  | _ => []

/-- The reports that were made and not sent: at most the last one, which is
lost when the session breaks. -/
def Leaves : Stage → List ReportMessage → Prop
  | .reporting report, left => left = [report]
  | .ending _, left => left.length ≤ 1
  | .joining _, left => left.length ≤ 1
  | .returned _, left => left.length ≤ 1
  | _, left => left = []

/-- The end the handler has been told of, if it had been connected. -/
def finished : Stage → Option SessionError
  | .joining err => some err
  | .returned err => some err
  | _ => none

end Stage

/-! ## The conversation -/

/-- What can be said of a session at any time. -/
structure Conversation (options : Options) (session : Session) : Prop where
  hello : session.sent = [] ∨ ∃ rest,
    session.sent = .hello options.hello :: rest ∧
      ∀ message ∈ rest, isFollowUp message = true
  timed : ∀ message ∈ session.sent, isTimed message = true →
    ∃ hello, .hello hello ∈ session.received
  nonces : (session.sent.filterMap nonceOf).Pairwise (· < ·)
  handled : session.received.filter isHandled =
    session.calls.filterMap HandlerCall.message ++ session.stage.pending
  answered : ∃ left, session.stage.Leaves left ∧
    session.calls.filterMap HandlerCall.report =
      session.sent.filterMap reportOf ++ left
  told : ∃ before, (∀ call ∈ before, call.isEnd = false) ∧
    session.calls = before ++
      (if session.connected then
        session.stage.finished.toList.map .onDisconnected else [])
  connected : session.connected = true ↔
    ∃ hello, .hello hello ∈ session.received
  released : ∀ err, session.stage = .returned err →
    ∀ nonce, session.timers ≠ .running nonce

/-- What keeps a conversation going. -/
structure Coherent (options : Options) (session : Session) : Prop extends
    Conversation options session where
  untouched : session.stage.isEarly = true → session.sent = [] ∧
    session.received = [] ∧ session.calls = [] ∧
      session.connected = false ∧ session.timers = .idle
  begun : session.sent = [] → session.stage.isEarly = true ∨
    ∃ err, session.stage = .returned err ∧ session.timers = .idle
  idle : session.timers = .idle →
    ∀ message ∈ session.sent, isTimed message = false
  running : ∀ nonce, session.timers = .running nonce →
    session.connected = true ∧
      ∀ sent ∈ session.sent.filterMap nonceOf, sent ≤ nonce
  greeted : ∀ hello, session.stage = .connecting hello →
    .hello hello ∈ session.received

variable {options : Options} {session next : Session}

theorem Coherent.initial (cancelled : Bool) :
    Coherent options { cancelled } where
  hello := .inl rfl
  timed _ member := by cases member
  nonces := .nil
  handled := rfl
  answered := ⟨[], rfl, rfl⟩
  told := ⟨[], List.forall_mem_nil _, rfl⟩
  connected := by
    constructor
    · intro impossible
      cases impossible
    · intro ⟨hello, member⟩
      cases member
  released _ impossible := by cases impossible
  untouched _ := ⟨rfl, rfl, rfl, rfl, rfl⟩
  begun _ := .inl rfl
  idle _ _ member := by cases member
  running _ impossible := by cases impossible
  greeted _ impossible := by cases impossible

/-- Something was sent if a report is to be sent or the timers run. -/
theorem Coherent.sent_of_running (coherent : Coherent options session)
    {nonce : Nat} (timers : session.timers = .running nonce) :
    ∃ rest, session.sent = .hello options.hello :: rest ∧
      ∀ message ∈ rest, isFollowUp message = true := by
  refine coherent.hello.resolve_left fun nothing => ?_
  rcases coherent.begun nothing with early | ⟨err, -, idle⟩
  · have untouched := coherent.untouched early
    rw [timers] at untouched
    cases untouched.2.2.2.2
  · rw [timers] at idle
    cases idle

theorem Coherent.hello_step (coherent : Coherent options session)
    (changed : Change options session next) :
    next.sent = [] ∨ ∃ rest, next.sent = .hello options.hello :: rest ∧
      ∀ message ∈ rest, isFollowUp message = true := by
  have further {message : AgentMessage} (follows : isFollowUp message = true)
      (begun : ∃ rest, session.sent = .hello options.hello :: rest ∧
        ∀ message ∈ rest, isFollowUp message = true) :
      ∃ rest, session.sent ++ [message] = .hello options.hello :: rest ∧
        ∀ message ∈ rest, isFollowUp message = true := by
    obtain ⟨rest, same, followUps⟩ := begun
    exact ⟨rest ++ [message], by rw [same, List.cons_append],
      List.forall_mem_append.mpr
        ⟨followUps, List.forall_mem_singleton.mpr follows⟩⟩
  cases changed with
  | greeted now stage =>
      have untouched := coherent.untouched (by rw [stage]; rfl)
      refine .inr ⟨[], ?_, fun _ member => by cases member⟩
      simp only [Session.send, untouched.1, List.nil_append]
  | received message now stage =>
      rw [Session.receive_sent]
      exact coherent.hello
  | connected hello stage =>
      simp only [Session.startTimers_sent]
      exact coherent.hello
  | reported report stage =>
      refine .inr (further rfl (coherent.hello.resolve_left fun nothing => ?_))
      rcases coherent.begun nothing with early | ⟨err, same, -⟩
      · rw [stage] at early
        cases early
      · rw [stage] at same
        cases same
  | beat nonce timers =>
      exact .inr (further rfl (coherent.sent_of_running timers))
  | synced nonce timers =>
      exact .inr (further rfl (coherent.sent_of_running timers))
  | _ => exact coherent.hello

theorem Coherent.timed_step (coherent : Coherent options session)
    (changed : Change options session next) :
    ∀ message ∈ next.sent, isTimed message = true →
      ∃ hello, .hello hello ∈ next.received := by
  have running {nonce : Nat} (timers : session.timers = .running nonce) :=
    coherent.connected.mp (coherent.running nonce timers).1
  cases changed with
  | greeted now stage =>
      refine List.forall_mem_append.mpr ⟨coherent.timed, ?_⟩
      exact List.forall_mem_singleton.mpr fun impossible => by cases impossible
  | received message now stage =>
      simp only [Session.receive_sent, Session.receive_received]
      intro sent member isTimed
      obtain ⟨hello, heard⟩ := coherent.timed sent member isTimed
      exact ⟨hello, List.mem_append_left _ heard⟩
  | connected hello stage =>
      simp only [Session.startTimers_sent, Session.startTimers_received]
      exact coherent.timed
  | reported report stage =>
      refine List.forall_mem_append.mpr ⟨coherent.timed, ?_⟩
      exact List.forall_mem_singleton.mpr fun impossible => by cases impossible
  | beat nonce timers =>
      exact List.forall_mem_append.mpr ⟨coherent.timed,
        List.forall_mem_singleton.mpr fun _ => running timers⟩
  | synced nonce timers =>
      exact List.forall_mem_append.mpr ⟨coherent.timed,
        List.forall_mem_singleton.mpr fun _ => running timers⟩
  | _ => exact coherent.timed

/-- A message that is no heartbeat adds no nonce. -/
theorem nonces_append {sent : List AgentMessage} (message : AgentMessage)
    (other : nonceOf message = none) :
    (sent ++ [message]).filterMap nonceOf = sent.filterMap nonceOf := by
  rw [List.filterMap_append, List.filterMap_cons_none other,
    List.filterMap_nil, List.append_nil]

theorem nonces_beat {sent : List AgentMessage} {nonce : Nat} :
    (sent ++ [AgentMessage.heartbeat nonce]).filterMap nonceOf =
      sent.filterMap nonceOf ++ [nonce] := by
  rw [List.filterMap_append]
  rfl

theorem Coherent.nonces_step (coherent : Coherent options session)
    (changed : Change options session next) :
    (next.sent.filterMap nonceOf).Pairwise (· < ·) := by
  cases changed with
  | greeted now stage =>
      simp only [Session.send, nonces_append (.hello _) rfl]
      exact coherent.nonces
  | received message now stage =>
      rw [Session.receive_sent]
      exact coherent.nonces
  | connected hello stage =>
      simp only [Session.startTimers_sent]
      exact coherent.nonces
  | reported report stage =>
      simp only [Session.send, nonces_append (.report _) rfl]
      exact coherent.nonces
  | beat nonce timers =>
      simp only [Session.send, nonces_beat]
      refine List.pairwise_append.mpr
        ⟨coherent.nonces, List.pairwise_singleton _ _, ?_⟩
      intro earlier member latest same
      rw [List.mem_singleton.mp same]
      exact Nat.lt_succ_of_le
        ((coherent.running nonce timers).2 earlier member)
  | synced nonce timers =>
      simp only [Session.send, nonces_append .syncRequest rfl]
      exact coherent.nonces
  | _ => exact coherent.nonces

theorem Coherent.handled_step (coherent : Coherent options session)
    (changed : Change options session next) :
    next.received.filter isHandled =
      next.calls.filterMap HandlerCall.message ++ next.stage.pending := by
  have handled := coherent.handled
  cases changed with
  | received message now stage =>
      rw [stage] at handled
      simp only [Session.receive_received, Session.receive_calls,
        List.filter_append, handled]
      cases message with
      | none => simp [Session.receive, Stage.pending, stage]
      | some message =>
          cases message with
          | hello hello =>
              simp [Session.receive, Stage.pending, isHandled]
          | snapshot snapshot =>
              simp [Session.receive, Stage.pending, isHandled]
          | _ => simp [Session.receive, Stage.pending, isHandled, stage]
  | connected hello stage =>
      rw [stage] at handled
      simp only [Session.startTimers_received, Session.startTimers_calls,
        Session.record, List.filterMap_append, List.append_nil, Stage.pending]
      exact handled
  | applied snapshot report stage =>
      rw [stage] at handled
      simp only [Session.record, List.filterMap_append]
      rw [handled]
      cases report with
      | none => exact (List.append_nil _).symm
      | some report => exact (List.append_nil _).symm
  | disconnected err connected stage =>
      rw [stage] at handled
      simp only [Session.shutDown, Session.record, List.filterMap_append]
      rw [handled]
      exact (List.append_nil _).symm
  | gaveUp err stage =>
      have none : session.stage.pending = [] := by
        rcases stage with stage | stage | stage <;> rw [stage] <;> rfl
      rw [none] at handled
      exact handled
  | silent nonce timers => exact handled
  | counted nonce timers => exact handled
  | beat nonce timers => exact handled
  | synced nonce timers => exact handled
  | unsynced => exact handled
  | stopped nonce timers => exact handled
  | cancelled => exact handled
  | _ =>
      rename_i stage
      rw [stage] at handled
      exact handled

/-- A message that is no report, and a call that makes none. -/
theorem reports_append {sent : List AgentMessage} (message : AgentMessage)
    (other : reportOf message = none) :
    (sent ++ [message]).filterMap reportOf = sent.filterMap reportOf := by
  rw [List.filterMap_append, List.filterMap_cons_none other,
    List.filterMap_nil, List.append_nil]

theorem made_append {calls : List HandlerCall} (call : HandlerCall)
    (other : call.report = none) :
    (calls ++ [call]).filterMap HandlerCall.report =
      calls.filterMap HandlerCall.report := by
  rw [List.filterMap_append, List.filterMap_cons_none other,
    List.filterMap_nil, List.append_nil]

theorem Coherent.answered_step (coherent : Coherent options session)
    (changed : Change options session next) :
    ∃ left, next.stage.Leaves left ∧
      next.calls.filterMap HandlerCall.report =
        next.sent.filterMap reportOf ++ left := by
  obtain ⟨left, leaves, answered⟩ := coherent.answered
  cases changed with
  | gaveUp err stage =>
      refine ⟨left, ?_, answered⟩
      have none : left = [] := by
        rcases stage with stage | stage | stage <;> rw [stage] at leaves <;>
          exact leaves
      rw [none]
      exact Nat.zero_le 1
  | greeted now stage =>
      rw [stage] at leaves
      exact ⟨left, leaves,
        answered.trans (by rw [Session.send, reports_append (.hello _) rfl])⟩
  | received message now stage =>
      rw [stage] at leaves
      simp only [Session.receive_calls, Session.receive_sent, answered]
      refine ⟨left, ?_, rfl⟩
      subst leaves
      cases message with
      | none => simp only [Session.receive, stage, Stage.Leaves]
      | some message =>
          cases message with
          | bye reason => exact Nat.zero_le 1
          | hello hello => rfl
          | snapshot snapshot => rfl
          | _ => simp only [Session.receive, stage, Stage.Leaves]
  | broken err stage =>
      rw [stage] at leaves
      subst leaves
      exact ⟨[], Nat.zero_le 1, answered⟩
  | connected hello stage =>
      rw [stage] at leaves
      refine ⟨left, leaves, ?_⟩
      simp only [Session.startTimers_sent, Session.startTimers_calls,
        Session.record, made_append (.onConnected hello) rfl]
      exact answered
  | applied snapshot report stage =>
      rw [stage] at leaves
      subst leaves
      rw [List.append_nil] at answered
      simp only [Session.record, List.filterMap_append, answered]
      cases report with
      | none => exact ⟨[], rfl, rfl⟩
      | some report => exact ⟨[report], rfl, rfl⟩
  | disconnected err connected stage =>
      rw [stage] at leaves
      refine ⟨left, leaves, ?_⟩
      simp only [Session.shutDown, Session.record,
        made_append (.onDisconnected err) rfl]
      exact answered
  | reported report stage =>
      rw [stage] at leaves
      subst leaves
      refine ⟨[], rfl, answered.trans ?_⟩
      simp only [Session.send, List.filterMap_append, List.append_nil]
      rfl
  | unreported report err stage =>
      rw [stage] at leaves
      subst leaves
      exact ⟨[report], Nat.le_refl 1, answered⟩
  | beat nonce timers =>
      exact ⟨left, leaves, answered.trans
        (by rw [Session.send, reports_append (.heartbeat _) rfl])⟩
  | synced nonce timers =>
      exact ⟨left, leaves, answered.trans
        (by rw [Session.send, reports_append .syncRequest rfl])⟩
  | silent nonce timers => exact ⟨left, leaves, answered⟩
  | counted nonce timers => exact ⟨left, leaves, answered⟩
  | unsynced => exact ⟨left, leaves, answered⟩
  | stopped nonce timers => exact ⟨left, leaves, answered⟩
  | cancelled => exact ⟨left, leaves, answered⟩
  | _ =>
      rename_i stage
      rw [stage] at leaves
      exact ⟨left, leaves, answered⟩

/-- Nothing was said of the end before `runOnce` returns. -/
theorem Coherent.unended (coherent : Coherent options session)
    (going : session.stage.finished = none) :
    ∀ call ∈ session.calls, call.isEnd = false := by
  obtain ⟨before, unended, same⟩ := coherent.told
  rw [going] at same
  have all : session.calls = before := by
    rw [same]
    cases session.connected with
    | true => exact List.append_nil _
    | false => exact List.append_nil _
  rw [all]
  exact unended

theorem Coherent.told_step (coherent : Coherent options session)
    (changed : Change options session next) :
    ∃ before, (∀ call ∈ before, call.isEnd = false) ∧
      next.calls = before ++
        (if next.connected then
          next.stage.finished.toList.map .onDisconnected else []) := by
  have going (unended : ∀ call ∈ next.calls, call.isEnd = false)
      (finished : next.stage.finished = none) :
      ∃ before, (∀ call ∈ before, call.isEnd = false) ∧
        next.calls = before ++
          (if next.connected then
            next.stage.finished.toList.map .onDisconnected else []) := by
    refine ⟨next.calls, unended, ?_⟩
    rw [finished]
    cases next.connected with
    | true => exact (List.append_nil _).symm
    | false => exact (List.append_nil _).symm
  cases changed with
  | dialed stage =>
      exact going (coherent.unended (by rw [stage]; rfl)) rfl
  | opened stage =>
      exact going (coherent.unended (by rw [stage]; rfl)) rfl
  | gaveUp err stage =>
      have untouched := coherent.untouched (by
        rcases stage with stage | stage | stage <;> rw [stage] <;> rfl)
      refine ⟨[], List.forall_mem_nil _, ?_⟩
      simp only [Session.giveUp, untouched, Bool.false_eq_true, if_false,
        List.append_nil]
  | greeted now stage =>
      exact going (coherent.unended (by rw [stage]; rfl)) rfl
  | received message now stage =>
      apply going
      · rw [Session.receive_calls]
        exact coherent.unended (by rw [stage]; rfl)
      · cases message with
        | none => simp only [Session.receive, stage, Stage.finished]
        | some message =>
            cases message with
            | bye reason => rfl
            | hello hello => rfl
            | snapshot snapshot => rfl
            | _ => simp only [Session.receive, stage, Stage.finished]
  | broken err stage =>
      exact going (coherent.unended (by rw [stage]; rfl)) rfl
  | connected hello stage =>
      refine going ?_ rfl
      simp only [Session.startTimers_calls, Session.record]
      exact List.forall_mem_append.mpr
        ⟨coherent.unended (by rw [stage]; rfl),
          List.forall_mem_singleton.mpr rfl⟩
  | applied snapshot report stage =>
      refine going ?_ (by cases report <;> rfl)
      exact List.forall_mem_append.mpr
        ⟨coherent.unended (by rw [stage]; rfl),
          List.forall_mem_singleton.mpr rfl⟩
  | disconnected err connected stage =>
      refine ⟨session.calls, coherent.unended (by rw [stage]; rfl), ?_⟩
      simp only [Session.shutDown, Session.record, connected, if_true]
      rfl
  | closed err unconnected stage =>
      refine ⟨session.calls, coherent.unended (by rw [stage]; rfl), ?_⟩
      simp only [Session.shutDown, unconnected, Bool.false_eq_true, if_false,
        List.append_nil]
  | reported report stage =>
      exact going (coherent.unended (by rw [stage]; rfl)) rfl
  | unreported report err stage =>
      exact going (coherent.unended (by rw [stage]; rfl)) rfl
  | joined err timers stage =>
      have told := coherent.told
      rw [stage] at told
      exact told
  | _ => exact coherent.told

theorem Coherent.connected_step (coherent : Coherent options session)
    (changed : Change options session next) :
    next.connected = true ↔ ∃ hello, .hello hello ∈ next.received := by
  cases changed with
  | received message now stage =>
      rw [Session.receive_received]
      have before := coherent.connected
      have grown (other : ∀ hello, message ≠ some (.hello hello)) :
          (∃ hello, .hello hello ∈ session.received ++ message.toList) ↔
            ∃ hello, .hello hello ∈ session.received := by
        refine exists_congr fun hello => ?_
        rw [List.mem_append, Option.mem_toList]
        exact or_iff_left (other hello)
      cases message with
      | none =>
          rw [grown fun _ impossible => by cases impossible]
          exact before
      | some message =>
          cases message with
          | hello hello =>
              exact iff_of_true rfl ⟨hello,
                List.mem_append_right _ (List.mem_singleton_self _)⟩
          | _ =>
              rw [grown fun _ impossible => by cases impossible]
              exact before
  | connected hello stage =>
      simp only [Session.startTimers_connected, Session.startTimers_received]
      exact coherent.connected
  | _ => exact coherent.connected

theorem Coherent.greeted_step (coherent : Coherent options session)
    (changed : Change options session next) :
    ∀ hello, next.stage = .connecting hello →
      .hello hello ∈ next.received := by
  intro hello isStage
  cases changed with
  | received message now stage =>
      rw [Session.receive_received]
      cases message with
      | none =>
          simp only [Session.receive, stage] at isStage
          cases isStage
      | some message =>
          cases message with
          | hello spoken =>
              cases isStage
              exact List.mem_append_right _ (List.mem_singleton_self _)
          | bye reason => cases isStage
          | snapshot snapshot => cases isStage
          | _ =>
              simp only [Session.receive, stage] at isStage
              cases isStage
  | applied snapshot report stage => cases report <;> cases isStage
  | silent nonce timers => exact coherent.greeted hello isStage
  | counted nonce timers => exact coherent.greeted hello isStage
  | beat nonce timers => exact coherent.greeted hello isStage
  | synced nonce timers => exact coherent.greeted hello isStage
  | unsynced => exact coherent.greeted hello isStage
  | stopped nonce timers => exact coherent.greeted hello isStage
  | cancelled => exact coherent.greeted hello isStage
  | _ => cases isStage

theorem startTimers_cases (session : Session) : session.timers = .idle ∧
      session.startTimers.timers = .running 0 ∨
    session.startTimers.timers = session.timers ∧
      session.timers ≠ .idle := by
  unfold Session.startTimers
  cases timers : session.timers with
  | idle => exact .inl ⟨rfl, rfl⟩
  | running nonce => exact .inr ⟨timers, Timers.noConfusion⟩
  | stopped => exact .inr ⟨timers, Timers.noConfusion⟩

/-- Timers that were not started have sent nothing. -/
theorem no_nonces {sent : List AgentMessage}
    (untimed : ∀ message ∈ sent, isTimed message = false) :
    sent.filterMap nonceOf = [] := by
  rw [List.filterMap_eq_nil_iff]
  intro message member
  have other := untimed message member
  cases message with
  | heartbeat nonce => cases other
  | _ => rfl

theorem Coherent.idle_step (coherent : Coherent options session)
    (changed : Change options session next) :
    next.timers = .idle → ∀ message ∈ next.sent, isTimed message = false := by
  intro idle
  cases changed with
  | greeted now stage =>
      exact List.forall_mem_append.mpr
        ⟨coherent.idle idle, List.forall_mem_singleton.mpr rfl⟩
  | received message now stage =>
      rw [Session.receive_timers] at idle
      rw [Session.receive_sent]
      exact coherent.idle idle
  | connected hello stage =>
      rcases startTimers_cases (session.record (.onConnected hello)) with
        ⟨-, running⟩ | ⟨same, started⟩
      · cases running.symm.trans idle
      · exact absurd (same.symm.trans idle) started
  | reported report stage =>
      exact List.forall_mem_append.mpr
        ⟨coherent.idle idle, List.forall_mem_singleton.mpr rfl⟩
  | beat nonce timers => cases idle
  | synced nonce timers => cases timers.symm.trans idle
  | disconnected err connected stage =>
      apply coherent.idle
      cases timers : session.timers with
      | idle => rfl
      | _ =>
          simp only [Session.shutDown, Session.record, timers] at idle
          cases idle
  | closed err unconnected stage =>
      apply coherent.idle
      cases timers : session.timers with
      | idle => rfl
      | _ =>
          simp only [Session.shutDown, timers] at idle
          cases idle
  | silent nonce timers => cases idle
  | counted nonce timers => cases idle
  | stopped nonce timers => cases idle
  | _ => exact coherent.idle idle

theorem Coherent.running_step (coherent : Coherent options session)
    (changed : Change options session next) :
    ∀ nonce, next.timers = .running nonce → next.connected = true ∧
      ∀ sent ∈ next.sent.filterMap nonceOf, sent ≤ nonce := by
  intro nonce running
  cases changed with
  | gaveUp err stage =>
      have untouched := coherent.untouched (by
        rcases stage with stage | stage | stage <;> rw [stage] <;> rfl)
      cases untouched.2.2.2.2.symm.trans running
  | greeted now stage =>
      have untouched := coherent.untouched (by rw [stage]; rfl)
      cases untouched.2.2.2.2.symm.trans running
  | received message now stage =>
      rw [Session.receive_timers] at running
      rw [Session.receive_sent]
      obtain ⟨connected, bounded⟩ := coherent.running nonce running
      refine ⟨?_, bounded⟩
      cases message with
      | none => exact connected
      | some message =>
          cases message with
          | hello hello => rfl
          | _ => exact connected
  | connected hello stage =>
      simp only [Session.startTimers_connected, Session.startTimers_sent]
      refine ⟨coherent.connected.mpr ⟨hello, coherent.greeted hello stage⟩, ?_⟩
      rcases startTimers_cases (session.record (.onConnected hello)) with
        ⟨idle, -⟩ | ⟨same, -⟩
      · intro sent member
        have none : session.sent.filterMap nonceOf = [] :=
          no_nonces (coherent.idle idle)
        rw [Session.record, none] at member
        cases member
      · exact (coherent.running nonce (same.symm.trans running)).2
  | reported report stage =>
      obtain ⟨connected, bounded⟩ := coherent.running nonce running
      refine ⟨connected, ?_⟩
      simp only [Session.send, nonces_append (.report _) rfl]
      exact bounded
  | disconnected err connected stage =>
      refine ⟨connected, ?_⟩
      apply (coherent.running nonce _).2
      cases timers : session.timers with
      | idle =>
          simp only [Session.shutDown, Session.record, timers] at running
          cases running
      | _ => simpa only [Session.shutDown, Session.record, timers] using running
  | closed err unconnected stage =>
      apply coherent.running nonce
      cases timers : session.timers with
      | idle =>
          simp only [Session.shutDown, timers] at running
          cases running
      | _ => simpa only [Session.shutDown, timers] using running
  | silent earlier timers => cases running
  | counted earlier timers =>
      cases running
      obtain ⟨connected, bounded⟩ := coherent.running earlier timers
      exact ⟨connected, fun sent member =>
        Nat.le_succ_of_le (bounded sent member)⟩
  | beat earlier timers =>
      cases running
      obtain ⟨connected, bounded⟩ := coherent.running earlier timers
      refine ⟨connected, ?_⟩
      simp only [Session.send, nonces_beat]
      exact List.forall_mem_append.mpr
        ⟨fun sent member => Nat.le_succ_of_le (bounded sent member),
          List.forall_mem_singleton.mpr (Nat.le_refl _)⟩
  | synced earlier timers =>
      obtain ⟨connected, bounded⟩ := coherent.running nonce running
      refine ⟨connected, ?_⟩
      simp only [Session.send, nonces_append .syncRequest rfl]
      exact bounded
  | stopped earlier timers => cases running
  | _ => exact coherent.running nonce running

theorem Coherent.untouched_step (coherent : Coherent options session)
    (changed : Change options session next) :
    next.stage.isEarly = true → next.sent = [] ∧ next.received = [] ∧
      next.calls = [] ∧ next.connected = false ∧ next.timers = .idle := by
  intro early
  -- the timers do not run yet
  have quiet {nonce : Nat} (timers : session.timers = .running nonce)
      (same : session.stage.isEarly = true) : False := by
    cases (coherent.untouched same).2.2.2.2.symm.trans timers
  cases changed with
  | dialed stage => exact coherent.untouched (by rw [stage]; rfl)
  | opened stage => exact coherent.untouched (by rw [stage]; rfl)
  | received message now stage =>
      cases message with
      | none =>
          simp only [Session.receive, stage] at early
          cases early
      | some message =>
          cases message with
          | bye reason => cases early
          | hello hello => cases early
          | snapshot snapshot => cases early
          | _ =>
              simp only [Session.receive, stage] at early
              cases early
  | applied snapshot report stage => cases report <;> cases early
  | silent nonce timers => exact (quiet timers early).elim
  | counted nonce timers => exact (quiet timers early).elim
  | beat nonce timers => exact (quiet timers early).elim
  | synced nonce timers => exact (quiet timers early).elim
  | stopped nonce timers => exact (quiet timers early).elim
  | unsynced => exact coherent.untouched early
  | cancelled => exact coherent.untouched early
  | _ => cases early

/-- A session that has sent nothing stands where nothing else happens. -/
theorem Coherent.begun_step (coherent : Coherent options session)
    (changed : Change options session next) :
    next.sent = [] → next.stage.isEarly = true ∨
      ∃ err, next.stage = .returned err ∧ next.timers = .idle := by
  intro nothing
  -- the loop has been entered
  have looping (nothing : session.sent = [])
      (late : session.stage.isEarly = false)
      (going : ∀ err, session.stage ≠ .returned err) : False := by
    rcases coherent.begun nothing with early | ⟨err, returned, -⟩
    · cases late.symm.trans early
    · exact going err returned
  have running {nonce : Nat} (nothing : session.sent = [])
      (timers : session.timers = .running nonce) : False := by
    obtain ⟨rest, same, -⟩ := coherent.sent_of_running timers
    cases nothing.symm.trans same
  cases changed with
  | dialed stage => exact .inl rfl
  | opened stage => exact .inl rfl
  | gaveUp err stage =>
      have untouched := coherent.untouched (by
        rcases stage with stage | stage | stage <;> rw [stage] <;> rfl)
      exact .inr ⟨err, rfl, untouched.2.2.2.2⟩
  | greeted now stage =>
      exact absurd nothing (List.append_ne_nil_of_right_ne_nil _
        (List.cons_ne_nil _ _))
  | received message now stage =>
      rw [Session.receive_sent] at nothing
      refine (looping nothing (by rw [stage]; rfl) fun err same => ?_).elim
      cases stage.symm.trans same
  | connected hello stage =>
      simp only [Session.startTimers_sent] at nothing
      refine (looping nothing (by rw [stage]; rfl) fun err same => ?_).elim
      cases stage.symm.trans same
  | reported report stage =>
      exact absurd nothing (List.append_ne_nil_of_right_ne_nil _
        (List.cons_ne_nil _ _))
  | silent nonce timers => exact (running nothing timers).elim
  | counted nonce timers => exact (running nothing timers).elim
  | beat nonce timers =>
      exact absurd nothing (List.append_ne_nil_of_right_ne_nil _
        (List.cons_ne_nil _ _))
  | synced nonce timers =>
      exact absurd nothing (List.append_ne_nil_of_right_ne_nil _
        (List.cons_ne_nil _ _))
  | stopped nonce timers => exact (running nothing timers).elim
  | unsynced => exact coherent.begun nothing
  | cancelled => exact coherent.begun nothing
  | _ =>
      rename_i stage
      refine (looping nothing (by rw [stage]; rfl) fun err same => ?_).elim
      cases stage.symm.trans same

theorem Coherent.released_step (coherent : Coherent options session)
    (changed : Change options session next) :
    ∀ err, next.stage = .returned err →
      ∀ nonce, next.timers ≠ .running nonce := by
  intro err returned nonce running
  cases changed with
  | gaveUp err stage =>
      have untouched := coherent.untouched (by
        rcases stage with stage | stage | stage <;> rw [stage] <;> rfl)
      cases untouched.2.2.2.2.symm.trans running
  | received message now stage =>
      cases message with
      | none =>
          simp only [Session.receive, stage] at returned
          cases returned
      | some message =>
          cases message with
          | bye reason => cases returned
          | hello hello => cases returned
          | snapshot snapshot => cases returned
          | _ =>
              simp only [Session.receive, stage] at returned
              cases returned
  | applied snapshot report stage => cases report <;> cases returned
  | joined err timers stage => cases timers.symm.trans running
  | silent earlier timers => cases running
  | counted earlier timers => exact coherent.released err returned _ timers
  | beat earlier timers => exact coherent.released err returned _ timers
  | synced earlier timers => exact coherent.released err returned _ timers
  | stopped earlier timers => cases running
  | unsynced => exact coherent.released err returned _ running
  | cancelled => exact coherent.released err returned _ running
  | _ => cases returned

theorem Coherent.step (coherent : Coherent options session)
    (changed : Change options session next) : Coherent options next where
  hello := coherent.hello_step changed
  timed := coherent.timed_step changed
  nonces := coherent.nonces_step changed
  handled := coherent.handled_step changed
  answered := coherent.answered_step changed
  told := coherent.told_step changed
  connected := coherent.connected_step changed
  released := coherent.released_step changed
  untouched := coherent.untouched_step changed
  begun := coherent.begun_step changed
  idle := coherent.idle_step changed
  running := coherent.running_step changed
  greeted := coherent.greeted_step changed

end SessionClient

open SessionClient

/-- In every run of the client, whatever its handler does, each of its sessions
is a proper conversation at any time. -/
theorem sessions_are_conversations {σ χ : Type} {options : Options}
    {handler : Handler σ χ} {state : σ} {moves : List (ClientMove χ)}
    {client : Client σ}
    (ran : moves.foldlM (Client.step options handler) (Client.create state) =
      some client) :
    ∀ session ∈ client.sessions, Conversation options session := by
  intro session member
  have coherent : Coherent options session := Client.sessions_hold
    Coherent.initial Coherent.step ran session member
  exact coherent.toConversation

namespace SessionClient

/-- Reports on every snapshot, and counts them. -/
def countingHandler : Handler Nat Unit where
  onConnected count _ _ := count
  onSnapshot count snapshot _ :=
    (some ⟨snapshot.version, snapshot.correlationId, .ok, "", "1.0", false,
      [], [], none⟩, count + 1)
  onDisconnected count _ _ := count

def plainOptions : Options := Options.defaults ⟨"1.0", 0, 0, 0, 0⟩

def firstSnapshot : SnapshotPayload where
  providerName := "home"
  groups := []
  version := 1
  correlationId := 7
  generatedAt := 0

/-- The connection breaks after a snapshot and a heartbeat, and the client
dials again. -/
def brokenSession : List (ClientMove Unit) :=
  [.dialed none, .opened none, .greeted none 1,
    .received (some (.hello ⟨1, "", 0, 30, 0, "home", 1⟩)) 2, .handled (),
    .received (some (.snapshot firstSnapshot)) 3, .heartbeatTick 4 true,
    .handled (), .reported none, .broken ⟨.unavailable, "reset"⟩ false,
    .handled (), .timersStopped, .joined].map .session ++
  [.sessionOver, .woken, .session (.dialed none)]

end SessionClient

theorem sessions_are_conversations_broken :
    ∃ (client : Client Nat) (session : Session), session ∈ client.sessions ∧
      session.sent.length = 3 ∧ Conversation plainOptions session := by
  have ends : (brokenSession.foldlM (Client.step plainOptions countingHandler)
      (Client.create 0)).map (·.ended.map (·.sent.length)) = some [3] := by
    decide +kernel
  obtain ⟨client, ran, same⟩ := Option.map_eq_some_iff.mp ends
  obtain ⟨session, member, length⟩ : ∃ session ∈ client.ended,
      session.sent.length = 3 :=
    List.mem_map.mp (same ▸ List.mem_singleton_self 3)
  have among : session ∈ client.sessions := by
    unfold Client.sessions
    split
    · exact List.mem_append_left _ member
    · exact member
  exact ⟨client, session, among, length,
    sessions_are_conversations ran session among⟩

end FluxIP
