import FluxIP.Domain.SessionDiscipline
import Mathlib.Logic.Relation

/-!
# What the steps on the sessions are made of

Every step but a hello, the opening of a stream and the closing of an account's
sessions is a sequence of a few acts.  What the acts keep holds across these
steps: messages stay sent, a session stays what it is, closed once it is
closed, and leaves the registry only when it is closed.
-/

namespace FluxIP

/-- A hello whose version the server speaks. -/
def AgentMessage.isWelcome : AgentMessage → Bool
  | .hello spoken => decide
      (PROTOCOL_MIN_VERSION ≤ min spoken.protocolVersion PROTOCOL_MAX_VERSION)
  | _ => false

namespace Agents

/-- A change of the fields in which a handler takes notes. -/
structure Marks (change : AgentSession → AgentSession) : Prop extends
    Inert change where
  accountId : ∀ session, (change session).accountId = session.accountId
  effective : ∀ session, (change session).effective = session.effective
  heartbeatSeconds : ∀ session,
    (change session).heartbeatSeconds = session.heartbeatSeconds
  connectedRecorded : ∀ session,
    (change session).connectedRecorded = session.connectedRecorded
  disconnectRecorded : ∀ session,
    (change session).disconnectRecorded = session.disconnectRecorded

/-- One act on the memory of the sessions that sends only what it may. -/
inductive Act (may : SentAgentMessage → Prop) : Agents → Agents → Prop where
  | mark {agents id change} (marks : Marks change) :
      Act may agents (agents.modify id change)
  | send {agents id message} (allowed : may ⟨id, message⟩) :
      Act may agents (agents.send id message)
  | note {agents termination} : Act may agents (agents.note termination)
  | shut {agents session effective}
      (found : agents.sessions session.sessionId = some session)
      (isOpen : session.closed = false) :
      Act may agents (agents.shut session effective)

/-- A sequence of acts. -/
abbrev Acts (may : SentAgentMessage → Prop) : Agents → Agents → Prop :=
  Relation.ReflTransGen (Act may)

/-- The session goes on: it is still the same one, and what it has come to is
not undone. -/
structure Continues (session later : AgentSession) : Prop where
  sessionId : later.sessionId = session.sessionId
  providerId : later.providerId = session.providerId
  accountId : later.accountId = session.accountId
  tokenId : later.tokenId = session.tokenId
  helloSeen : session.helloSeen = true → later.helloSeen = true
  ended : session.ended = true → later.ended = true
  closed : session.closed = true → later.closed = true
  effective : session.closed = true → later.effective = session.effective
  connectedRecorded : session.connectedRecorded = true →
    later.connectedRecorded = true
  disconnectRecorded : session.disconnectRecorded = true →
    later.disconnectRecorded = true

/-- Nothing but its end can be new of the session. -/
structure Keeps (session later : AgentSession) : Prop extends
    Continues session later where
  sameHello : later.helloSeen = session.helloSeen
  sameConnect : later.connectedRecorded = session.connectedRecorded
  sameDisconnect : later.disconnectRecorded = session.disconnectRecorded
  heartbeat : later.heartbeatSeconds = session.heartbeatSeconds ∨
    later.heartbeatSeconds = none

/-- The session was closed. -/
def IsClosed (agents : Agents) (sessionId : Id) : Prop :=
  ∃ session, agents.sessions sessionId = some session ∧ session.closed = true

/-- Messages stay sent and sessions go on. -/
structure Progress (before after : Agents) : Prop where
  sent : before.sent <+: after.sent
  goesOn : ∀ id session, before.sessions id = some session →
    ∃ later, after.sessions id = some later ∧ Continues session later

/-- Only what may be is sent, to open sessions; sessions may end and leave the
registry for that, and else all stays. -/
structure Calm (may : SentAgentMessage → Prop) (before after : Agents) :
    Prop where
  sent : ∃ new, after.sent = before.sent ++ new ∧ ∀ sent ∈ new, may sent ∧
    ∃ session, before.sessions sent.sessionId = some session ∧
      session.ended = false
  goesOn : ∀ id session, before.sessions id = some session →
    ∃ later, after.sessions id = some later ∧ Keeps session later
  known : ∀ id, before.sessions id = none → after.sessions id = none
  shrinks : ∀ providerId active, after.byProvider providerId = some active →
    before.byProvider providerId = some active
  leaves : ∀ providerId active, before.byProvider providerId = some active →
    after.byProvider providerId = none → after.IsClosed active.sessionId

variable {agents before after middle : Agents} {leaving : Option Id}
variable {may : SentAgentMessage → Prop}
variable {sessionId : Id} {session : AgentSession}
variable {change : AgentSession → AgentSession}

theorem Continues.refl (session : AgentSession) : Continues session session :=
  ⟨rfl, rfl, rfl, rfl, id, id, id, fun _ => rfl, id, id⟩

theorem Continues.trans {between later : AgentSession}
    (first : Continues session between) (second : Continues between later) :
    Continues session later where
  sessionId := second.sessionId.trans first.sessionId
  providerId := second.providerId.trans first.providerId
  accountId := second.accountId.trans first.accountId
  tokenId := second.tokenId.trans first.tokenId
  helloSeen := second.helloSeen ∘ first.helloSeen
  ended := second.ended ∘ first.ended
  closed := second.closed ∘ first.closed
  effective isClosed := (second.effective (first.closed isClosed)).trans
    (first.effective isClosed)
  connectedRecorded := second.connectedRecorded ∘ first.connectedRecorded
  disconnectRecorded := second.disconnectRecorded ∘ first.disconnectRecorded

theorem Keeps.refl (session : AgentSession) : Keeps session session :=
  ⟨.refl session, rfl, rfl, rfl, .inl rfl⟩

theorem Keeps.trans {between later : AgentSession}
    (first : Keeps session between) (second : Keeps between later) :
    Keeps session later where
  toContinues := first.toContinues.trans second.toContinues
  sameHello := second.sameHello.trans first.sameHello
  sameConnect := second.sameConnect.trans first.sameConnect
  sameDisconnect := second.sameDisconnect.trans first.sameDisconnect
  heartbeat := by
    rcases second.heartbeat with same | stopped
    · rw [same]
      exact first.heartbeat
    · exact .inr stopped

theorem Marks.keeps (marks : Marks change) (session : AgentSession) :
    Keeps session (change session) where
  sessionId := marks.sessionId session
  providerId := marks.providerId session
  accountId := marks.accountId session
  tokenId := marks.tokenId session
  helloSeen := (marks.helloSeen session).trans
  ended := (marks.ended session).trans
  closed := (marks.closed session).trans
  effective _ := marks.effective session
  connectedRecorded := (marks.connectedRecorded session).trans
  disconnectRecorded := (marks.disconnectRecorded session).trans
  sameHello := marks.helloSeen session
  sameConnect := marks.connectedRecorded session
  sameDisconnect := marks.disconnectRecorded session
  heartbeat := .inl (marks.heartbeatSeconds session)

theorem Progress.refl (agents : Agents) : Progress agents agents :=
  ⟨List.prefix_refl _, fun _ session found =>
    ⟨session, found, .refl session⟩⟩

theorem Progress.trans (first : Progress before middle)
    (second : Progress middle after) : Progress before after := by
  refine ⟨first.sent.trans second.sent, ?_⟩
  intro id session found
  obtain ⟨between, present, goesOn⟩ := first.goesOn id session found
  obtain ⟨later, present, goesOnAgain⟩ := second.goesOn id between present
  exact ⟨later, present, goesOn.trans goesOnAgain⟩

theorem Progress.isClosed (progress : Progress before after)
    (closed : before.IsClosed sessionId) : after.IsClosed sessionId := by
  obtain ⟨session, found, isClosed⟩ := closed
  obtain ⟨later, present, continues⟩ := progress.goesOn _ session found
  exact ⟨later, present, continues.closed isClosed⟩

theorem Progress.greeted (progress : Progress before after)
    (greeted : before.Greeted sessionId) : after.Greeted sessionId := by
  obtain ⟨session, found, seen⟩ := greeted
  obtain ⟨later, present, continues⟩ := progress.goesOn _ session found
  exact ⟨later, present, continues.helloSeen seen⟩

namespace Calm

theorem progress (calm : Calm may before after) : Progress before after := by
  constructor
  · obtain ⟨new, sent, -⟩ := calm.sent
    exact ⟨new, sent.symm⟩
  · intro id session found
    obtain ⟨later, present, keeps⟩ := calm.goesOn id session found
    exact ⟨later, present, keeps.toContinues⟩

theorem refl (agents : Agents) : Calm may agents agents where
  sent := ⟨[], (List.append_nil _).symm, fun _ member => by cases member⟩
  goesOn _ session found := ⟨session, found, .refl session⟩
  known _ absent := absent
  shrinks _ _ registered := registered
  leaves providerId active registered gone := by
    rw [registered] at gone
    cases gone

theorem mono {weaker : SentAgentMessage → Prop}
    (calm : Calm may before after)
    (implies : ∀ sent, may sent → weaker sent) :
    Calm weaker before after where
  sent := by
    obtain ⟨new, sent, allowed⟩ := calm.sent
    refine ⟨new, sent, ?_⟩
    intro message member
    obtain ⟨may, isOpen⟩ := allowed message member
    exact ⟨implies message may, isOpen⟩
  goesOn := calm.goesOn
  known := calm.known
  shrinks := calm.shrinks
  leaves := calm.leaves

/-- A session after calm steps was there before them. -/
theorem earlier (calm : Calm may before after) {id : Id}
    {later : AgentSession} (found : after.sessions id = some later) :
    ∃ session, before.sessions id = some session ∧ Keeps session later := by
  cases present : before.sessions id with
  | none =>
      have absent := calm.known id present
      rw [found] at absent
      cases absent
  | some session =>
      obtain ⟨other, same, keeps⟩ := calm.goesOn id session present
      cases found.symm.trans same
      exact ⟨session, rfl, keeps⟩

theorem trans (first : Calm may before middle)
    (second : Calm may middle after) : Calm may before after where
  sent := by
    obtain ⟨new, sent, allowed⟩ := first.sent
    obtain ⟨newer, sentToo, allowedToo⟩ := second.sent
    refine ⟨new ++ newer, ?_, ?_⟩
    · rw [sentToo, sent, List.append_assoc]
    · intro message member
      rcases List.mem_append.mp member with old | last
      · exact allowed message old
      · obtain ⟨may, between, found, isOpen⟩ := allowedToo message last
        obtain ⟨session, present, keeps⟩ := first.earlier found
        refine ⟨may, session, present, ?_⟩
        apply Bool.eq_false_iff.mpr
        intro ended
        rw [keeps.ended ended] at isOpen
        cases isOpen
  goesOn id session found := by
    obtain ⟨between, present, keeps⟩ := first.goesOn id session found
    obtain ⟨later, present, keepsOn⟩ := second.goesOn id between present
    exact ⟨later, present, keeps.trans keepsOn⟩
  known id absent := second.known id (first.known id absent)
  shrinks providerId active registered :=
    first.shrinks providerId active (second.shrinks providerId active
      registered)
  leaves providerId active registered gone := by
    cases between : middle.byProvider providerId with
    | none =>
        exact second.progress.isClosed
          (first.leaves providerId active registered between)
    | some other =>
        have same := first.shrinks providerId other between
        cases registered.symm.trans same
        exact second.leaves providerId active between gone

end Calm

theorem modify_progress
    (continues : ∀ session, Continues session (change session)) :
    Progress agents (agents.modify sessionId change) := by
  refine ⟨List.prefix_refl _, ?_⟩
  intro id session found
  obtain ⟨later, present, rfl | rfl⟩ := modify_persists found
  · exact ⟨later, present, .refl later⟩
  · exact ⟨_, present, continues session⟩

theorem modify_calm (marks : Marks change) :
    Calm may agents (agents.modify sessionId change) where
  sent := ⟨[], (List.append_nil _).symm, fun _ member => by cases member⟩
  goesOn id session found := by
    obtain ⟨later, present, rfl | rfl⟩ := modify_persists found
    · exact ⟨later, present, .refl later⟩
    · exact ⟨_, present, marks.keeps session⟩
  known id absent := by
    unfold modify
    by_cases same : id = sessionId
    · subst same
      simp [absent]
    · simp only [Function.update_of_ne same]
      exact absent
  shrinks _ _ registered := registered
  leaves providerId active registered gone := by
    cases registered.symm.trans gone

theorem send_calm {message : AgentMessage} (allowed : may ⟨sessionId, message⟩) :
    Calm may agents (agents.send sessionId message) := by
  obtain ⟨sessions, byProvider, -⟩ := send_sessions agents sessionId message
  constructor
  · unfold send
    split
    · rename_i isOpen
      refine ⟨[⟨sessionId, message⟩], rfl, ?_⟩
      intro sent member
      cases List.mem_singleton.mp member
      refine ⟨allowed, ?_⟩
      cases found : agents.sessions sessionId with
      | none => simp [found] at isOpen
      | some session => exact ⟨session, rfl, by simpa [found] using isOpen⟩
    · exact ⟨[], (List.append_nil _).symm, fun _ member => by cases member⟩
  · intro id session found
    rw [sessions]
    exact ⟨session, found, .refl session⟩
  · intro id absent
    rw [sessions]
    exact absent
  · intro providerId active registered
    rw [byProvider] at registered
    exact registered
  · intro providerId active registered gone
    rw [byProvider] at gone
    cases registered.symm.trans gone

/-- The session as it is after it was shut. -/
theorem shut_sessions_self {effective : CloseReason} :
    (agents.shut session effective).sessions session.sessionId =
      some { session with
        ended := true
        closed := true
        heartbeatSeconds := none
        effective := some effective } := by
  unfold shut
  rw [(unregister_sessions _ _).1]
  simp only [setSession, Function.update_self]

theorem shut_calm {effective : CloseReason}
    (found : agents.sessions session.sessionId = some session)
    (isOpen : session.closed = false) :
    Calm may agents (agents.shut session effective) where
  sent := by
    refine ⟨[], ?_, fun _ member => by cases member⟩
    unfold shut
    rw [(unregister_sessions _ _).2.2, List.append_nil]
    rfl
  goesOn id other present := by
    by_cases same : id = session.sessionId
    · subst same
      cases found.symm.trans present
      refine ⟨_, shut_sessions_self, ⟨⟨rfl, rfl, rfl, rfl, fun seen => seen,
        fun _ => rfl, fun _ => rfl, ?_, fun recorded => recorded,
        fun recorded => recorded⟩, rfl, rfl, rfl, .inr rfl⟩⟩
      intro closed
      rw [isOpen] at closed
      cases closed
    · rw [shut_sessions_of_ne same]
      exact ⟨other, present, .refl other⟩
  known id absent := by
    have different : id ≠ session.sessionId := by
      intro same
      rw [same, found] at absent
      cases absent
    rw [shut_sessions_of_ne different]
    exact absent
  shrinks _ _ registered := (unregister_found registered).1
  leaves providerId active registered gone := by
    by_cases same : active.sessionId = session.sessionId
    · rw [same]
      exact ⟨_, shut_sessions_self, rfl⟩
    · have kept : (agents.shut session effective).byProvider providerId =
          some active := unregister_keeps registered same
      cases gone.symm.trans kept

theorem Act.calm (act : Act may before after) : Calm may before after := by
  cases act with
  | mark marks => exact modify_calm marks
  | send allowed => exact send_calm allowed
  | note =>
      have same : Calm may before before := .refl before
      exact ⟨same.sent, same.goesOn, same.known, same.shrinks, same.leaves⟩
  | shut found isOpen => exact shut_calm found isOpen

theorem Acts.calm (acts : Acts may before after) : Calm may before after := by
  induction acts with
  | refl => exact .refl before
  | tail _ act ih => exact ih.trans act.calm

/-! ## The steps as acts -/

theorem Shuts.acts (shuts : Shuts before after sessionId)
    (disciplined : Disciplined before leaving) : Acts may before after := by
  obtain ⟨rfl, -⟩ | ⟨session, effective, found, isOpen, rfl⟩ := shuts
  · exact .refl
  · have identity := disciplined.identity sessionId session found
    have notClosed := disciplined.closed sessionId session found
    subst identity
    exact .single (.shut found (notClosed.trans isOpen))

theorem close_acts {reason : CloseReason}
    (disciplined : Disciplined agents leaving) :
    Acts may agents (agents.close sessionId reason) :=
  (close_shuts disciplined).acts disciplined

theorem finish_acts (disciplined : Disciplined agents leaving) :
    Acts may agents (agents.finish sessionId) :=
  (finish_shuts disciplined).acts disciplined

theorem terminate_acts {reason : CloseReason}
    (disciplined : Disciplined agents none) :
    Acts may agents (agents.terminate sessionId reason) := by
  unfold terminate
  split
  · exact .refl
  · split
    · exact .refl
    · have marks : Marks ({ · with closeReason := some reason }) := by
        constructor
        · constructor <;> exact fun _ => rfl
        · exact fun _ => rfl
        · exact fun _ => rfl
        · exact fun _ => rfl
        · exact fun _ => rfl
        · exact fun _ => rfl
      have marked : Disciplined (agents.modify sessionId
          ({ · with closeReason := some reason })) none :=
        (modify_tidies marks.toInert).disciplined disciplined
      exact (close_acts marked).head (.mark marks)

/-- The heartbeat of a session whose interval is set. -/
def Beats (agents : Agents) (sessionId : Id) (sent : SentAgentMessage) :
    Prop :=
  sent.sessionId = sessionId ∧ ∃ session seconds,
    agents.sessions sessionId = some session ∧
      session.heartbeatSeconds = some seconds

theorem heartbeat_acts {now : Timestamp}
    (disciplined : Disciplined agents none) :
    Acts (agents.Beats sessionId) agents (agents.heartbeat sessionId now) := by
  unfold heartbeat
  split
  · exact .refl
  rename_i session found
  split
  · exact .refl
  rename_i seconds beating
  split
  · exact .refl
  split
  · exact terminate_acts disciplined
  · refine Relation.ReflTransGen.head (Act.mark ?_) (.single (.send ?_))
    · exact ⟨⟨fun _ => rfl, fun _ => rfl, fun _ => rfl, fun _ => rfl,
        fun _ => rfl, fun _ => rfl⟩, fun _ => rfl, fun _ => rfl, fun _ => rfl,
        fun _ => rfl, fun _ => rfl⟩
    · exact ⟨rfl, session, seconds, found, beating⟩

/-- A message pushed to the session registered for a provider. -/
def Pushes (agents : Agents) (providerId : Id) (message : AgentMessage)
    (sent : SentAgentMessage) : Prop :=
  sent.message = message ∧ ∃ active,
    agents.byProvider providerId = some active ∧
      active.sessionId = sent.sessionId

theorem push_acts {providerId : Id} {message : AgentMessage} :
    Acts (agents.Pushes providerId message) agents
      (agents.push providerId message) := by
  unfold push
  split
  · exact .refl
  · rename_i active registered
    exact .single (.send ⟨rfl, active, registered, rfl⟩)

theorem terminateByToken_acts {providerId tokenId : Id} {reason : CloseReason}
    (disciplined : Disciplined agents none) :
    Acts may agents (agents.terminateByToken providerId tokenId reason) := by
  have noted := note_disciplined (.token providerId tokenId) disciplined
  unfold terminateByToken
  dsimp only
  split
  · exact .single .note
  split
  · exact .single .note
  · exact (close_acts noted).head .note

theorem terminateByProvider_acts {providerId : Id} {reason : CloseReason}
    (disciplined : Disciplined agents none) :
    Acts may agents (agents.terminateByProvider providerId reason) := by
  have noted := note_disciplined (.provider providerId) disciplined
  unfold terminateByProvider
  dsimp only
  split
  · exact .single .note
  · exact (close_acts noted).head .note

/-- The closing of an account's sessions closes each by itself. -/
theorem terminateByAccount_progress {accountId : Id} {reason : CloseReason}
    (disciplined : Disciplined agents none) :
    Progress agents (agents.terminateByAccount accountId reason) := by
  refine ⟨List.prefix_refl _, ?_⟩
  intro id session found
  simp only [terminateByAccount, found]
  split
  · have closing : Acts (fun _ => True) agents (agents.close id reason) :=
      close_acts disciplined
    exact closing.calm.progress.goesOn id session found
  · exact ⟨session, rfl, .refl session⟩

/-! ## Opening a stream -/

theorem opening_progress
    (fresh : agents.sessions session.sessionId = none) :
    Progress agents (agents.setSession session) := by
  refine ⟨List.prefix_refl _, ?_⟩
  intro id other found
  have different : id ≠ session.sessionId := by
    intro same
    rw [same, fresh] at found
    cases found
  refine ⟨other, ?_, .refl other⟩
  simp only [setSession, Function.update_of_ne different]
  exact found

/-! ## Hellos -/

/-- Every registered session has said hello. -/
def Introduced (agents : Agents) : Prop :=
  ∀ providerId active, agents.byProvider providerId = some active →
    agents.Greeted active.sessionId

/-- The entry of a session in the registry. -/
def entryOf (session : AgentSession) (now : Timestamp) : ActiveSession :=
  ⟨session.providerId, session.accountId, session.sessionId, session.tokenId,
    now⟩

/-- The bye of a session that is replaced. -/
def byeTo (replaced : ActiveSession) : SentAgentMessage :=
  ⟨replaced.sessionId, .bye "superseded"⟩

/-- The session's hello is taken: it is registered in the place of the one
registered so far, which is told so and closed. -/
structure Greets (before after : Agents) (session : AgentSession)
    (now : Timestamp) : Prop where
  found : before.sessions session.sessionId = some session
  isOpen : session.ended = false
  unseen : session.helloSeen = false
  sent : after.sent = before.sent ++
    ((before.byProvider session.providerId).map byeTo).toList
  entry : after.byProvider session.providerId = some (entryOf session now)
  elsewhere : ∀ providerId, providerId ≠ session.providerId →
    after.byProvider providerId = before.byProvider providerId
  own : after.sessions session.sessionId =
    some { session with lastReceivedAt := now, helloSeen := true }
  goesOn : ∀ id other, id ≠ session.sessionId →
    before.sessions id = some other →
    ∃ later, after.sessions id = some later ∧ Keeps other later
  known : ∀ id, before.sessions id = none → after.sessions id = none
  replaced : ∀ active, before.byProvider session.providerId = some active →
    after.IsClosed active.sessionId ∧
      ∃ other, before.sessions active.sessionId = some other ∧
        other.ended = false ∧ active.sessionId ≠ session.sessionId

theorem Shuts.sent (shuts : Shuts before after sessionId) :
    after.sent = before.sent := by
  obtain ⟨rfl, -⟩ | ⟨session, effective, -, -, rfl⟩ := shuts
  · rfl
  · unfold shut
    rw [(unregister_sessions _ _).2.2]
    rfl

theorem Shuts.sessions_of_ne {id : Id}
    (shuts : Shuts before after sessionId)
    (disciplined : Disciplined before leaving)
    (different : id ≠ sessionId) : after.sessions id = before.sessions id := by
  obtain ⟨rfl, -⟩ | ⟨session, effective, found, -, rfl⟩ := shuts
  · rfl
  · rw [← disciplined.identity sessionId session found] at different
    exact shut_sessions_of_ne different

/-- An entry of another session stays. -/
theorem Shuts.keeps_entry {providerId : Id} {active : ActiveSession}
    (shuts : Shuts before after sessionId)
    (disciplined : Disciplined before leaving)
    (registered : before.byProvider providerId = some active)
    (different : active.sessionId ≠ sessionId) :
    after.byProvider providerId = some active := by
  obtain ⟨rfl, -⟩ | ⟨session, effective, found, -, rfl⟩ := shuts
  · exact registered
  · rw [← disciplined.identity sessionId session found] at different
    exact unregister_keeps registered different

theorem Shuts.isClosed (shuts : Shuts before after sessionId)
    (disciplined : Disciplined before leaving)
    (found : before.sessions sessionId = some session) :
    after.IsClosed sessionId := by
  obtain ⟨rfl, ended⟩ | ⟨own, effective, present, -, rfl⟩ := shuts
  · refine ⟨session, found, ?_⟩
    rw [disciplined.closed sessionId session found]
    exact ended session found
  · rw [← disciplined.identity sessionId own present]
    exact ⟨_, shut_sessions_self, rfl⟩

/-- What becomes of a session that is replaced. -/
structure Supersedes (before after : Agents) (replaced : ActiveSession) :
    Prop where
  calm : Calm (· = byeTo replaced) before after
  sent : after.sent = before.sent ++ [byeTo replaced]
  closed : after.IsClosed replaced.sessionId
  aside : ∀ id, id ≠ replaced.sessionId →
    after.sessions id = before.sessions id
  others : ∀ providerId active, before.byProvider providerId = some active →
    active.sessionId ≠ replaced.sessionId →
    after.byProvider providerId = some active

theorem supersede_spec {replaced : ActiveSession} {other : AgentSession}
    (disciplined : Disciplined agents leaving)
    (found : agents.sessions replaced.sessionId = some other)
    (isOpen : other.ended = false) :
    Supersedes agents (agents.supersede replaced) replaced := by
  have atBye : Disciplined (agents.send replaced.sessionId
      (.bye "superseded")) leaving := send_disciplined _ disciplined
  have shuts : Shuts (agents.send replaced.sessionId (.bye "superseded"))
      (agents.supersede replaced) replaced.sessionId := close_shuts atBye
  obtain ⟨sessions, byProvider, -⟩ :=
    send_sessions agents replaced.sessionId (.bye "superseded")
  constructor
  · have bye : Act (· = byeTo replaced) agents
        (agents.send replaced.sessionId (.bye "superseded")) := .send rfl
    exact bye.calm.trans (shuts.acts atBye).calm
  · rw [shuts.sent]
    unfold send
    simp [found, isOpen, byeTo]
  · rw [← sessions] at found
    exact shuts.isClosed atBye found
  · intro id different
    rw [← sessions]
    exact shuts.sessions_of_ne atBye different
  · intro providerId active registered different
    apply shuts.keeps_entry atBye _ different
    rw [byProvider]
    exact registered

theorem Greets.progress {now : Timestamp}
    (greets : Greets before after session now) : Progress before after := by
  constructor
  · rw [greets.sent]
    exact List.prefix_append _ _
  · intro id other present
    by_cases same : id = session.sessionId
    · subst same
      cases greets.found.symm.trans present
      exact ⟨_, greets.own, rfl, rfl, rfl, rfl, fun _ => rfl, id, id,
        fun _ => rfl, id, id⟩
    · obtain ⟨later, stored, keeps⟩ := greets.goesOn id other same present
      exact ⟨later, stored, keeps.toContinues⟩

/-- The memory once the message is received and the hello taken. -/
def welcome (agents : Agents) (session : AgentSession) (now : Timestamp) :
    Agents :=
  (agents.modify session.sessionId ({ · with lastReceivedAt := now })).greet
    { session with lastReceivedAt := now } now

theorem welcome_sessions_self (now : Timestamp)
    (found : agents.sessions session.sessionId = some session) :
    (agents.welcome session now).sessions session.sessionId =
      some { session with lastReceivedAt := now, helloSeen := true } := by
  simp only [welcome, greet, register, modify, Function.update_self, found,
    Option.map_some]

theorem welcome_sessions_of_ne {id : Id} (now : Timestamp)
    (different : id ≠ session.sessionId) :
    (agents.welcome session now).sessions id = agents.sessions id := by
  simp only [welcome, greet, register, modify,
    Function.update_of_ne different]

theorem welcome_byProvider_self (now : Timestamp) :
    (agents.welcome session now).byProvider session.providerId =
      some (entryOf session now) :=
  greet_byProvider_self now

theorem welcome_byProvider_of_ne {providerId : Id} (now : Timestamp)
    (different : providerId ≠ session.providerId) :
    (agents.welcome session now).byProvider providerId =
      agents.byProvider providerId :=
  greet_byProvider_of_ne now different

theorem received_disciplined {now : Timestamp}
    (disciplined : Disciplined agents none) :
    Disciplined (agents.modify sessionId
      ({ · with lastReceivedAt := now })) none := by
  apply (modify_tidies _).disciplined disciplined
  constructor <;> exact fun _ => rfl

theorem welcome_disciplined (now : Timestamp)
    (disciplined : Disciplined agents none)
    (found : agents.sessions session.sessionId = some session)
    (isOpen : session.ended = false) :
    Disciplined (agents.welcome session now)
      ((agents.byProvider session.providerId).map (·.sessionId)) := by
  have stored : (agents.modify session.sessionId
      ({ · with lastReceivedAt := now })).sessions session.sessionId =
        some { session with lastReceivedAt := now } := by
    simp [modify, found]
  have atHello : Disciplined (agents.modify session.sessionId
      ({ · with lastReceivedAt := now })) none :=
    received_disciplined disciplined
  exact greet_disciplined now atHello stored isOpen

theorem welcome_goesOn {now : Timestamp} {id : Id} {other : AgentSession}
    (different : id ≠ session.sessionId)
    (present : agents.sessions id = some other) :
    (agents.welcome session now).sessions id = some other := by
  rw [welcome_sessions_of_ne now different]
  exact present

theorem welcome_known {now : Timestamp} {id : Id}
    (found : agents.sessions session.sessionId = some session)
    (absent : agents.sessions id = none) :
    (agents.welcome session now).sessions id = none := by
  have different : id ≠ session.sessionId := by
    intro same
    rw [same, found] at absent
    cases absent
  rw [welcome_sessions_of_ne now different]
  exact absent

/-- Nobody is replaced. -/
theorem welcome_greets {now : Timestamp}
    (found : agents.sessions session.sessionId = some session)
    (isOpen : session.ended = false) (unseen : session.helloSeen = false)
    (alone : agents.byProvider session.providerId = none) :
    Greets agents (agents.welcome session now) session now where
  found := found
  isOpen := isOpen
  unseen := unseen
  sent := by
    rw [alone]
    exact (List.append_nil _).symm
  entry := welcome_byProvider_self now
  elsewhere _ different := welcome_byProvider_of_ne now different
  own := welcome_sessions_self now found
  goesOn id other different present :=
    ⟨other, welcome_goesOn different present, .refl other⟩
  known _ absent := welcome_known found absent
  replaced active registered := by
    rw [alone] at registered
    cases registered

theorem supersede_greets {now : Timestamp} {replaced : ActiveSession}
    (introduced : Introduced agents) (disciplined : Disciplined agents none)
    (found : agents.sessions session.sessionId = some session)
    (isOpen : session.ended = false) (unseen : session.helloSeen = false)
    (registered : agents.byProvider session.providerId = some replaced) :
    Greets agents ((agents.welcome session now).supersede replaced) session
      now := by
  obtain ⟨other, present, otherOpen, ofProvider, -⟩ :=
    disciplined.registered session.providerId replaced registered
  have apart : replaced.sessionId ≠ session.sessionId := by
    intro same
    obtain ⟨greeted, stored, seen⟩ := introduced _ replaced registered
    rw [same, found] at stored
    cases stored
    rw [unseen] at seen
    cases seen
  have spec : Supersedes (agents.welcome session now)
      ((agents.welcome session now).supersede replaced) replaced :=
    supersede_spec (welcome_disciplined now disciplined found isOpen)
      (welcome_goesOn apart present) otherOpen
  refine ⟨found, isOpen, unseen, ?_, ?_, ?_, ?_, ?_, ?_, ?_⟩
  · rw [spec.sent, registered]
    rfl
  · exact spec.others _ _ (welcome_byProvider_self now) apart.symm
  · intro providerId different
    have before : (agents.welcome session now).byProvider providerId =
        agents.byProvider providerId := welcome_byProvider_of_ne now different
    cases entry : agents.byProvider providerId with
    | none =>
        rw [entry] at before
        cases after : ((agents.welcome session now).supersede
            replaced).byProvider providerId with
        | none => rfl
        | some active =>
            have kept := spec.calm.shrinks providerId active after
            cases before.symm.trans kept
    | some active =>
        rw [entry] at before
        apply spec.others providerId active before
        intro same
        obtain ⟨another, stored, -, ofOther, -⟩ :=
          disciplined.registered providerId active entry
        rw [same, present] at stored
        cases stored
        exact different (ofOther.symm.trans ofProvider)
  · rw [spec.aside _ apart.symm]
    exact welcome_sessions_self now found
  · intro id another different stored
    exact spec.calm.goesOn id another (welcome_goesOn different stored)
  · intro id absent
    exact spec.calm.known id (welcome_known found absent)
  · intro active same
    cases registered.symm.trans same
    exact ⟨spec.closed, other, present, otherOpen, apart⟩

/-- A message is the first hello of its session and greeted; or it is nothing
that registers anything. -/
theorem process_moves {message : AgentMessage} {now : Timestamp}
    (introduced : Introduced agents) (disciplined : Disciplined agents none) :
    (∃ session data, session.sessionId = sessionId ∧
      (agents.process sessionId message now).1 = .connected data ∧
      data.sessionId = sessionId ∧ message.isWelcome = true ∧
      Greets agents (agents.process sessionId message now).2 session now) ∨
    (∀ data, (agents.process sessionId message now).1 ≠ .connected data) ∧
      Acts (fun _ => False) agents
        (agents.process sessionId message now).2 ∧
      ((agents.process sessionId message now).1 ≠ .finished →
        ∃ session, agents.sessions sessionId = some session ∧
          session.helloSeen = true ∧ session.closed = false) := by
  have marks : Marks ({ · with lastReceivedAt := now }) := by
    constructor
    · constructor <;> exact fun _ => rfl
    · exact fun _ => rfl
    · exact fun _ => rfl
    · exact fun _ => rfl
    · exact fun _ => rfl
    · exact fun _ => rfl
  have ending (reason : CloseReason) : Acts (fun _ => False) agents
      ((agents.modify sessionId
        ({ · with lastReceivedAt := now })).terminate sessionId reason) :=
    (terminate_acts (received_disciplined disciplined)).head (.mark marks)
  unfold process
  cases found : agents.sessions sessionId with
  | none =>
      refine Or.inr ⟨?_, .refl, fun going => absurd rfl going⟩
      rintro data ⟨⟩
  | some session =>
      dsimp only
      split
      · refine Or.inr ⟨?_, .refl, fun going => absurd rfl going⟩
        rintro data ⟨⟩
      rename_i notClosed
      have isOpen : session.closed = false := by simpa using notClosed
      split
      · rename_i hello unseen
        have identity := disciplined.identity sessionId session found
        subst identity
        unfold onHello
        dsimp only
        split
        · refine Or.inr ⟨?_, ending _, fun going => absurd rfl going⟩
          rintro data ⟨⟩
        · rename_i supported
          have speaks : (AgentMessage.hello hello).isWelcome = true :=
            decide_eq_true (Nat.not_lt.mp supported)
          have notEnded : session.ended = false := by
            rw [← disciplined.closed _ session found]
            exact isOpen
          left
          cases registered : agents.byProvider session.providerId with
          | none =>
              have same : (agents.modify session.sessionId
                  ({ · with lastReceivedAt := now })).byProvider
                    session.providerId = none := registered
              simp only [same]
              exact ⟨session, _, rfl, rfl, rfl, speaks,
                welcome_greets found notEnded unseen registered⟩
          | some replaced =>
              have same : (agents.modify session.sessionId
                  ({ · with lastReceivedAt := now })).byProvider
                    session.providerId = some replaced := registered
              simp only [same]
              exact ⟨session, _, rfl, rfl, rfl, speaks,
                supersede_greets introduced disciplined found notEnded unseen
                  registered⟩
      · refine Or.inr ⟨?_, ending _, fun going => absurd rfl going⟩
        rintro data ⟨⟩
      · rename_i seen
        refine Or.inr ⟨?_, .single (.mark marks),
          fun _ => ⟨session, rfl, seen, isOpen⟩⟩
        rintro data ⟨⟩
      · rename_i seen
        refine Or.inr ⟨?_, .single (.mark marks),
          fun _ => ⟨session, rfl, seen, isOpen⟩⟩
        rintro data ⟨⟩
      · refine Or.inr ⟨?_, ending _, fun going => absurd rfl going⟩
        rintro data ⟨⟩
      · refine Or.inr ⟨?_, .single (.mark marks),
          fun going => absurd rfl going⟩
        rintro data ⟨⟩

/-! ## Reasons -/

/-- A session that its handler has terminated is at its end. -/
def Reasoned (agents : Agents) : Prop :=
  ∀ id session, agents.sessions id = some session →
    session.closeReason.isSome = true → session.ended = true

theorem modify_reasoned
    (reason : ∀ session, (change session).closeReason = session.closeReason)
    (ended : ∀ session, (change session).ended = session.ended)
    (reasoned : agents.Reasoned) :
    (agents.modify sessionId change).Reasoned := by
  intro id later found given
  obtain ⟨session, present, rfl | rfl⟩ := modify_found found
  · exact reasoned id later present given
  · rw [reason] at given
    rw [ended]
    exact reasoned id session present given

theorem Shuts.reasoned (shuts : Shuts before after sessionId)
    (reasoned : before.Reasoned) : after.Reasoned := by
  obtain ⟨rfl, -⟩ | ⟨session, effective, -, -, rfl⟩ := shuts
  · exact reasoned
  · intro id later found given
    obtain ⟨-, present⟩ | ⟨-, rfl⟩ := shut_session found
    · exact reasoned id later present given
    · rfl

theorem send_reasoned {message : AgentMessage} (reasoned : agents.Reasoned) :
    (agents.send sessionId message).Reasoned := by
  intro id session found
  rw [(send_sessions _ _ _).1] at found
  exact reasoned id session found

theorem terminate_reasoned {reason : CloseReason}
    (disciplined : Disciplined agents none) (reasoned : agents.Reasoned) :
    (agents.terminate sessionId reason).Reasoned := by
  unfold terminate
  split
  · exact reasoned
  · split
    · exact reasoned
    · have marked : Disciplined (agents.modify sessionId
          ({ · with closeReason := some reason })) none := by
        apply (modify_tidies _).disciplined disciplined
        constructor <;> exact fun _ => rfl
      have shuts : Shuts (agents.modify sessionId
          ({ · with closeReason := some reason }))
          ((agents.modify sessionId
            ({ · with closeReason := some reason })).close sessionId reason)
          sessionId := close_shuts marked
      intro id later found given
      by_cases same : id = sessionId
      · subst same
        exact shuts.ended marked found
      · rw [shuts.sessions_of_ne marked same] at found
        simp only [modify, Function.update_of_ne same] at found
        exact reasoned id later found given

/-- After the handler has terminated a session, the session has ended. -/
theorem terminate_ends {reason : CloseReason}
    (disciplined : Disciplined agents none) (reasoned : agents.Reasoned)
    (found : (agents.terminate sessionId reason).sessions sessionId =
      some session) : session.ended = true := by
  apply terminate_reasoned disciplined reasoned sessionId session found
  unfold terminate at found
  split at found
  · rename_i absent
    rw [absent] at found
    cases found
  · rename_i earlier present
    split at found
    · rename_i given
      cases present.symm.trans found
      exact given
    · have marked : Disciplined (agents.modify sessionId
          ({ · with closeReason := some reason })) none := by
        apply (modify_tidies _).disciplined disciplined
        constructor <;> exact fun _ => rfl
      have shuts : Shuts (agents.modify sessionId
          ({ · with closeReason := some reason }))
          ((agents.modify sessionId
            ({ · with closeReason := some reason })).close sessionId reason)
          sessionId := close_shuts marked
      obtain ⟨same, -⟩ | ⟨own, effective, stored, -, same⟩ := shuts
      · rw [same] at found
        simp only [modify, Function.update_self, present, Option.map_some,
          Option.some.injEq] at found
        rw [← found]
        rfl
      · have identity := marked.identity sessionId own stored
        rw [same, ← identity, shut_sessions_self] at found
        simp only [modify, Function.update_self, present, Option.map_some,
          Option.some.injEq] at stored
        cases found
        rw [← stored]
        rfl

theorem terminateByAccount_reasoned {accountId : Id} {reason : CloseReason}
    (disciplined : Disciplined agents none) (reasoned : agents.Reasoned) :
    (agents.terminateByAccount accountId reason).Reasoned := by
  intro id later found given
  rcases terminateByAccount_session found with closed | ⟨same, -⟩
  · have shuts : Shuts agents (agents.close id reason) id :=
      close_shuts disciplined
    exact shuts.reasoned reasoned id later closed given
  · exact reasoned id later same given

theorem heartbeat_reasoned {now : Timestamp}
    (disciplined : Disciplined agents none) (reasoned : agents.Reasoned) :
    (agents.heartbeat sessionId now).Reasoned := by
  unfold heartbeat
  split
  · exact reasoned
  split
  · exact reasoned
  split
  · exact reasoned
  split
  · exact terminate_reasoned disciplined reasoned
  · apply send_reasoned
    exact modify_reasoned (fun _ => rfl) (fun _ => rfl) reasoned

theorem process_reasoned {message : AgentMessage} {now : Timestamp}
    (disciplined : Disciplined agents none) (reasoned : agents.Reasoned) :
    (agents.process sessionId message now).2.Reasoned := by
  have received : (agents.modify sessionId
      ({ · with lastReceivedAt := now })).Reasoned :=
    modify_reasoned (fun _ => rfl) (fun _ => rfl) reasoned
  have ending (reason : CloseReason) : ((agents.modify sessionId
      ({ · with lastReceivedAt := now })).terminate sessionId
        reason).Reasoned :=
    terminate_reasoned (received_disciplined disciplined) received
  unfold process
  cases found : agents.sessions sessionId with
  | none => exact reasoned
  | some session =>
      dsimp only
      split
      · exact reasoned
      rename_i notClosed
      split
      · rename_i hello unseen
        have identity := disciplined.identity sessionId session found
        subst identity
        have notEnded : session.ended = false := by
          rw [← disciplined.closed _ session found]
          simpa using notClosed
        unfold onHello
        dsimp only
        split
        · exact ending _
        · have welcomed : (agents.welcome session now).Reasoned :=
            modify_reasoned (fun _ => rfl) (fun _ => rfl) received
          have registered : Disciplined (agents.welcome session now)
              ((agents.byProvider session.providerId).map (·.sessionId)) :=
            welcome_disciplined now disciplined found notEnded
          split
          · exact welcomed
          · exact (close_shuts (send_disciplined _ registered)).reasoned
              (send_reasoned welcomed)
      · exact ending _
      · exact received
      · exact received
      · exact ending _
      · exact received

end Agents

end FluxIP
