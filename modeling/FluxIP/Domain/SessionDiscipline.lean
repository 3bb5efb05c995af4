import FluxIP.Domain.AgentSessions

/-!
# The discipline of the session registry

What every step on the memory of the agent sessions keeps: a registered
session is open, an open session past its hello is registered, and no step
but a hello registers anything.
-/

namespace FluxIP

/-- The termination is meant for sessions of this provider and token. -/
def Termination.covers : Termination → (providerId tokenId : Id) → Bool
  | .token ofProvider ofToken, providerId, tokenId =>
      providerId = ofProvider ∧ tokenId = ofToken
  | .provider ofProvider, providerId, _ => providerId = ofProvider

def AgentMessage.isSnapshot : AgentMessage → Bool
  | .snapshot _ => true
  | _ => false

namespace Agents

/-- The snapshots sent on the channel of a session so far. -/
def snapshotsTo (agents : Agents) (sessionId : Id) : List SentAgentMessage :=
  agents.sent.filter fun sent =>
    sent.sessionId = sessionId ∧ sent.message.isSnapshot = true

/-- Every registered session is open, and every open session past its hello is
registered, but for one that is `leaving`. -/
structure Disciplined (agents : Agents) (leaving : Option Id) : Prop where
  identity : ∀ id session, agents.sessions id = some session →
    session.sessionId = id
  closed : ∀ id session, agents.sessions id = some session →
    session.closed = session.ended
  registered : ∀ providerId active,
    agents.byProvider providerId = some active →
    ∃ session, agents.sessions active.sessionId = some session ∧
      session.ended = false ∧ session.providerId = providerId ∧
      session.tokenId = active.tokenId
  live : ∀ id session, agents.sessions id = some session →
    session.helloSeen = true → session.ended = false → some id ≠ leaving →
    ∃ active, agents.byProvider session.providerId = some active ∧
      active.sessionId = id

/-- Steps that open no session, terminate none by a request, and send no
snapshot. -/
structure Carries (before after : Agents) : Prop where
  persists : ∀ id session, before.sessions id = some session →
    ∃ later, after.sessions id = some later ∧
      later.providerId = session.providerId ∧
      later.tokenId = session.tokenId ∧
      (session.helloSeen = true → later.helloSeen = true)
  known : ∀ id session, after.sessions id = some session →
    ∃ earlier, before.sessions id = some earlier
  terminated : after.terminated = before.terminated
  snapshots : ∀ id, after.snapshotsTo id = before.snapshotsTo id

/-- Such steps that register nothing. -/
structure Eases (before after : Agents) : Prop extends
    Carries before after where
  shrinks : ∀ providerId active, after.byProvider providerId = some active →
    before.byProvider providerId = some active

variable {agents before after middle : Agents} {leaving : Option Id}
variable {sessionId : Id} {session : AgentSession}

theorem Carries.refl (agents : Agents) : Carries agents agents where
  persists _ session found := ⟨session, found, rfl, rfl, id⟩
  known _ session found := ⟨session, found⟩
  terminated := rfl
  snapshots _ := rfl

theorem Carries.trans (first : Carries before middle)
    (second : Carries middle after) : Carries before after where
  persists := by
    intro id session found
    obtain ⟨between, found, sameProvider, sameToken, seen⟩ :=
      first.persists id session found
    obtain ⟨later, found, laterProvider, laterToken, laterSeen⟩ :=
      second.persists id between found
    exact ⟨later, found, laterProvider.trans sameProvider,
      laterToken.trans sameToken, laterSeen ∘ seen⟩
  known := by
    intro id session found
    obtain ⟨between, found⟩ := second.known id session found
    exact first.known id between found
  terminated := second.terminated.trans first.terminated
  snapshots id := (second.snapshots id).trans (first.snapshots id)

theorem Eases.refl (agents : Agents) : Eases agents agents :=
  ⟨Carries.refl agents, fun _ _ found => found⟩

theorem Eases.trans (first : Eases before middle)
    (second : Eases middle after) : Eases before after :=
  ⟨first.toCarries.trans second.toCarries, fun _ _ found =>
    first.shrinks _ _ (second.shrinks _ _ found)⟩

/-- The agents are as disciplined as before, and nothing was registered. -/
structure Tidies (before after : Agents) (leaving : Option Id) : Prop where
  disciplined : Disciplined before leaving → Disciplined after leaving
  eases : Eases before after

theorem Tidies.refl (agents : Agents) : Tidies agents agents leaving :=
  ⟨id, Eases.refl agents⟩

theorem Tidies.trans (first : Tidies before middle leaving)
    (second : Tidies middle after leaving) : Tidies before after leaving :=
  ⟨second.disciplined ∘ first.disciplined, first.eases.trans second.eases⟩

/-! ## Changes of a session's other fields -/

/-- A change of fields the registry's discipline does not look at. -/
structure Inert (change : AgentSession → AgentSession) : Prop where
  sessionId : ∀ session, (change session).sessionId = session.sessionId
  providerId : ∀ session, (change session).providerId = session.providerId
  tokenId : ∀ session, (change session).tokenId = session.tokenId
  ended : ∀ session, (change session).ended = session.ended
  closed : ∀ session, (change session).closed = session.closed
  helloSeen : ∀ session, (change session).helloSeen = session.helloSeen

/-- A session after a change was there before it. -/
theorem modify_found {change : AgentSession → AgentSession} {id : Id}
    {later : AgentSession}
    (found : (agents.modify sessionId change).sessions id = some later) :
    ∃ session, agents.sessions id = some session ∧
      (later = session ∨ later = change session) := by
  by_cases same : id = sessionId
  · subst same
    simp only [modify, Function.update_self, Option.map_eq_some_iff] at found
    obtain ⟨session, found, rfl⟩ := found
    exact ⟨session, found, Or.inr rfl⟩
  · simp only [modify, Function.update_of_ne same] at found
    exact ⟨later, found, Or.inl rfl⟩

/-- A session before a change is there after it. -/
theorem modify_persists {change : AgentSession → AgentSession} {id : Id}
    (found : agents.sessions id = some session) :
    ∃ later, (agents.modify sessionId change).sessions id = some later ∧
      (later = session ∨ later = change session) := by
  by_cases same : id = sessionId
  · subst same
    exact ⟨change session, by simp [modify, found], Or.inr rfl⟩
  · refine ⟨session, ?_, Or.inl rfl⟩
    simp only [modify, Function.update_of_ne same]
    exact found

theorem modify_tidies {change : AgentSession → AgentSession}
    (inert : Inert change) :
    Tidies agents (agents.modify sessionId change) leaving := by
  constructor
  · intro disciplined
    constructor
    · intro id later found
      obtain ⟨session, present, rfl | rfl⟩ := modify_found found
      · exact disciplined.identity id later present
      · exact (inert.sessionId session).trans
          (disciplined.identity id session present)
    · intro id later found
      obtain ⟨session, present, rfl | rfl⟩ := modify_found found
      · exact disciplined.closed id later present
      · rw [inert.closed, inert.ended]
        exact disciplined.closed id session present
    · intro providerId active found
      obtain ⟨session, found, isOpen, ofProvider, ofToken⟩ :=
        disciplined.registered providerId active found
      obtain ⟨later, found, rfl | rfl⟩ := modify_persists found
      · exact ⟨later, found, isOpen, ofProvider, ofToken⟩
      · exact ⟨_, found, (inert.ended session).trans isOpen,
          (inert.providerId session).trans ofProvider,
          (inert.tokenId session).trans ofToken⟩
    · intro id later found seen isOpen stays
      obtain ⟨session, present, rfl | rfl⟩ := modify_found found
      · exact disciplined.live id later present seen isOpen stays
      · rw [inert.helloSeen] at seen
        rw [inert.ended] at isOpen
        rw [inert.providerId]
        exact disciplined.live id session present seen isOpen stays
  · refine ⟨⟨?_, ?_, rfl, fun _ => rfl⟩, fun _ _ found => found⟩
    · intro id session found
      obtain ⟨later, found, rfl | rfl⟩ := modify_persists found
      · exact ⟨later, found, rfl, rfl, fun seen => seen⟩
      · exact ⟨_, found, inert.providerId session, inert.tokenId session,
          fun seen => (inert.helloSeen session).trans seen⟩
    · intro id later found
      obtain ⟨session, found, -⟩ := modify_found found
      exact ⟨session, found⟩

/-! ## Messages -/

theorem send_sessions (agents : Agents) (sessionId : Id)
    (message : AgentMessage) :
    (agents.send sessionId message).sessions = agents.sessions ∧
      (agents.send sessionId message).byProvider = agents.byProvider ∧
      (agents.send sessionId message).terminated = agents.terminated := by
  unfold send
  split
  · exact ⟨rfl, rfl, rfl⟩
  · exact ⟨rfl, rfl, rfl⟩

theorem Disciplined.of_same (disciplined : Disciplined before leaving)
    (sessions : after.sessions = before.sessions)
    (byProvider : after.byProvider = before.byProvider) :
    Disciplined after leaving := by
  obtain ⟨identity, closed, registered, live⟩ := disciplined
  rw [← sessions] at identity closed registered live
  rw [← byProvider] at registered live
  exact ⟨identity, closed, registered, live⟩

theorem send_disciplined (message : AgentMessage)
    (disciplined : Disciplined agents leaving) :
    Disciplined (agents.send sessionId message) leaving :=
  disciplined.of_same (send_sessions _ _ message).1
    (send_sessions _ _ message).2.1

theorem send_tidies {message : AgentMessage}
    (other : message.isSnapshot = false) :
    Tidies agents (agents.send sessionId message) leaving := by
  obtain ⟨sessions, byProvider, terminated⟩ :=
    send_sessions agents sessionId message
  refine ⟨send_disciplined message, ⟨?_, ?_, terminated, ?_⟩, ?_⟩
  · intro id session found
    rw [sessions]
    exact ⟨session, found, rfl, rfl, fun seen => seen⟩
  · intro id session found
    rw [sessions] at found
    exact ⟨session, found⟩
  · intro id
    unfold send
    split
    · simp [snapshotsTo, List.filter_append, other]
    · rfl
  · intro providerId active found
    rw [byProvider] at found
    exact found

/-- A snapshot reaches nobody but an open session. -/
theorem snapshotsTo_send {message : AgentMessage} {id : Id}
    (ended : ∀ session, agents.sessions id = some session →
      id = sessionId → session.ended = true) :
    (agents.send sessionId message).snapshotsTo id =
      agents.snapshotsTo id := by
  unfold send
  split
  · rename_i isOpen
    by_cases same : id = sessionId
    · subst same
      cases found : agents.sessions id with
      | none => simp [found] at isOpen
      | some session => simp [found, ended session found rfl] at isOpen
    · simp [snapshotsTo, List.filter_append, Ne.symm same]
  · rfl

/-! ## Closing -/

/-- The session is closed and leaves the registry. -/
def shut (agents : Agents) (session : AgentSession)
    (effective : CloseReason) : Agents :=
  (agents.setSession
    { session with
      ended := true
      closed := true
      heartbeatSeconds := none
      effective := some effective }).unregister
    session.providerId session.sessionId

theorem unregister_found {providerId other : Id} {active : ActiveSession}
    (found : (agents.unregister providerId sessionId).byProvider other =
      some active) :
    agents.byProvider other = some active ∧
      ¬ (other = providerId ∧ active.sessionId = sessionId) := by
  unfold unregister at found
  split at found
  · by_cases same : other = providerId
    · subst same
      simp [Function.update_self] at found
    · simp only [Function.update_of_ne same] at found
      exact ⟨found, fun both => same both.1⟩
  · rename_i notOwn
    refine ⟨found, ?_⟩
    rintro ⟨rfl, rfl⟩
    simp [found] at notOwn

theorem unregister_keeps {providerId other : Id} {active : ActiveSession}
    (found : agents.byProvider other = some active)
    (different : active.sessionId ≠ sessionId) :
    (agents.unregister providerId sessionId).byProvider other =
      some active := by
  unfold unregister
  split
  · rename_i own
    by_cases same : other = providerId
    · subst same
      simp [found, different] at own
    · simp only [Function.update_of_ne same]
      exact found
  · exact found

theorem unregister_sessions (providerId sessionId : Id) :
    (agents.unregister providerId sessionId).sessions = agents.sessions ∧
      (agents.unregister providerId sessionId).terminated =
        agents.terminated ∧
      (agents.unregister providerId sessionId).sent = agents.sent := by
  unfold unregister
  split
  · exact ⟨rfl, rfl, rfl⟩
  · exact ⟨rfl, rfl, rfl⟩

theorem shut_session {effective : CloseReason} {id : Id}
    {later : AgentSession}
    (found : (agents.shut session effective).sessions id = some later) :
    id ≠ session.sessionId ∧ agents.sessions id = some later ∨
      id = session.sessionId ∧ later =
        { session with
          ended := true
          closed := true
          heartbeatSeconds := none
          effective := some effective } := by
  unfold shut at found
  rw [(unregister_sessions _ _).1] at found
  by_cases same : id = session.sessionId
  · subst same
    simp only [setSession, Function.update_self, Option.some.injEq] at found
    exact Or.inr ⟨rfl, found.symm⟩
  · simp only [setSession, Function.update_of_ne same] at found
    exact Or.inl ⟨same, found⟩

theorem shut_sessions_of_ne {effective : CloseReason} {id : Id}
    (different : id ≠ session.sessionId) :
    (agents.shut session effective).sessions id = agents.sessions id := by
  unfold shut
  rw [(unregister_sessions _ _).1]
  simp only [setSession, Function.update_of_ne different]

theorem shut_eases {effective : CloseReason}
    (found : agents.sessions session.sessionId = some session) :
    Eases agents (agents.shut session effective) := by
  refine ⟨⟨?_, ?_, ?_, ?_⟩, ?_⟩
  · intro id other present
    by_cases same : id = session.sessionId
    · subst same
      cases found.symm.trans present
      refine ⟨{ session with
        ended := true
        closed := true
        heartbeatSeconds := none
        effective := some effective }, ?_, rfl, rfl, fun seen => seen⟩
      unfold shut
      rw [(unregister_sessions _ _).1]
      simp only [setSession, Function.update_self]
    · rw [shut_sessions_of_ne same]
      exact ⟨other, present, rfl, rfl, fun seen => seen⟩
  · intro id later present
    obtain ⟨-, present⟩ | ⟨rfl, -⟩ := shut_session present
    · exact ⟨later, present⟩
    · exact ⟨session, found⟩
  · exact (unregister_sessions _ _).2.1
  · intro id
    unfold snapshotsTo shut
    rw [(unregister_sessions _ _).2.2]
    rfl
  · intro providerId active kept
    exact (unregister_found kept).1

/-- Closing a session, also one that a newer one has just replaced. -/
theorem shut_disciplined {effective : CloseReason}
    (found : agents.sessions session.sessionId = some session)
    (disciplined : Disciplined agents leaving)
    (left : leaving = none ∨ leaving = some session.sessionId) :
    Disciplined (agents.shut session effective) none := by
  constructor
  · intro id later present
    obtain ⟨-, present⟩ | ⟨rfl, rfl⟩ := shut_session present
    · exact disciplined.identity id later present
    · rfl
  · intro id later present
    obtain ⟨-, present⟩ | ⟨rfl, rfl⟩ := shut_session present
    · exact disciplined.closed id later present
    · rfl
  · intro providerId active kept
    obtain ⟨registered, notOwn⟩ := unregister_found kept
    obtain ⟨other, present, isOpen, ofProvider, ofToken⟩ :=
      disciplined.registered providerId active registered
    have different : active.sessionId ≠ session.sessionId := by
      intro same
      rw [same, found] at present
      cases present
      exact notOwn ⟨ofProvider.symm, same⟩
    refine ⟨other, ?_, isOpen, ofProvider, ofToken⟩
    rw [shut_sessions_of_ne different]
    exact present
  · intro id later present seen isOpen _
    obtain ⟨different, present⟩ | ⟨rfl, rfl⟩ := shut_session present
    · have stays : some id ≠ leaving := by
        rcases left with rfl | rfl
        · exact fun impossible => by cases impossible
        · exact fun same => different (Option.some.inj same)
      obtain ⟨active, registered, same⟩ :=
        disciplined.live id later present seen isOpen stays
      refine ⟨active, unregister_keeps registered ?_, same⟩
      rw [same]
      exact different
    · cases isOpen

/-! ## The ways a session is closed -/

/-- A session that is not open is left as it is; an open one is shut. -/
def Shuts (before after : Agents) (sessionId : Id) : Prop :=
  (after = before ∧ ∀ session, before.sessions sessionId = some session →
    session.ended = true) ∨
  ∃ session effective, before.sessions sessionId = some session ∧
    session.ended = false ∧ after = before.shut session effective

/-- After the first mark of its end, `onClosed` shuts an open session. -/
theorem onClosed_ended {reason : Option CloseReason}
    (found : agents.sessions sessionId = some session)
    (identity : session.sessionId = sessionId)
    (isOpen : session.closed = false) :
    (agents.modify sessionId ({ · with ended := true })).onClosed sessionId
        reason =
      agents.shut session
        ((reason <|> session.closeReason).getD closedByPeer) := by
  subst identity
  simp [onClosed, modify, found, isOpen, shut, setSession]

theorem finish_shuts (disciplined : Disciplined agents leaving) :
    Shuts agents (agents.finish sessionId) sessionId := by
  cases found : agents.sessions sessionId with
  | none =>
      left
      have same : agents.modify sessionId ({ · with ended := true }) =
          agents := by
        unfold modify
        rw [found, Option.map_none, ← found, Function.update_eq_self]
      simp [finish, same, onClosed, found]
  | some session =>
      have identity := disciplined.identity sessionId session found
      have both := disciplined.closed sessionId session found
      cases ended : session.ended with
      | false =>
          right
          exact ⟨session, _, found, ended,
            onClosed_ended found identity (both.trans ended)⟩
      | true =>
          left
          have same : agents.modify sessionId ({ · with ended := true }) =
              agents := by
            have unchanged : { session with ended := true } = session := by
              rw [← ended]
            unfold modify
            rw [found, Option.map_some, unchanged, ← found,
              Function.update_eq_self]
          simp [finish, same, onClosed, found, both, ended]

/-- A session that is shut stays as it is. -/
theorem onClosed_shut {effective : CloseReason} {reason : Option CloseReason}
    (identity : session.sessionId = sessionId) :
    (agents.shut session effective).onClosed sessionId reason =
      agents.shut session effective := by
  subst identity
  have now : (agents.shut session effective).sessions session.sessionId =
      some { session with
        ended := true
        closed := true
        heartbeatSeconds := none
        effective := some effective } := by
    unfold shut
    rw [(unregister_sessions _ _).1]
    simp only [setSession, Function.update_self]
  simp [onClosed, now]

/-- The reason a closing leaves of the one it is given: the call of every code
but `ok` fails, and its `error` event ends the session first. -/
def leftReason (session : AgentSession) (reason : CloseReason) : CloseReason :=
  if reason.code = .ok then reason
  else session.closeReason.getD closedByPeer

theorem close_open {reason : CloseReason}
    (disciplined : Disciplined agents leaving)
    (found : agents.sessions sessionId = some session)
    (isOpen : session.ended = false) :
    agents.close sessionId reason =
      agents.shut session (leftReason session reason) := by
  have identity := disciplined.identity sessionId session found
  have notClosed : session.closed = false :=
    (disciplined.closed sessionId session found).trans isOpen
  have live : (agents.sessions sessionId).any (!·.ended) = true := by
    simp [found, isOpen]
  unfold close leftReason
  rw [if_pos live]
  dsimp only
  split
  · exact onClosed_ended found identity notClosed
  · -- the `error` event has shut the session before `onClosed`
    have marked : (agents.modify sessionId
        ({ · with ended := true })).finish sessionId =
        agents.shut session (session.closeReason.getD closedByPeer) := by
      have twice : (agents.modify sessionId
          ({ · with ended := true })).modify sessionId
            ({ · with ended := true }) =
          agents.modify sessionId ({ · with ended := true }) := by
        simp [modify, found]
      unfold finish
      rw [twice, onClosed_ended found identity notClosed]
      rfl
    rw [marked, onClosed_shut identity]

theorem close_shuts {reason : CloseReason}
    (disciplined : Disciplined agents leaving) :
    Shuts agents (agents.close sessionId reason) sessionId := by
  cases found : agents.sessions sessionId with
  | none =>
      left
      simp [close, found]
  | some session =>
      cases ended : session.ended with
      | false =>
          exact .inr ⟨session, _, found, ended,
            close_open disciplined found ended⟩
      | true =>
          left
          refine ⟨?_, ?_⟩
          · simp [close, found, ended]
          · intro other present
            cases found.symm.trans present
            exact ended

/-- Afterwards the session is not open. -/
theorem Shuts.ended (shuts : Shuts before after sessionId)
    (disciplined : Disciplined before leaving)
    (found : after.sessions sessionId = some session) :
    session.ended = true := by
  obtain ⟨rfl, ended⟩ | ⟨earlier, effective, present, -, rfl⟩ := shuts
  · exact ended session found
  · have identity := disciplined.identity sessionId earlier present
    obtain ⟨different, -⟩ | ⟨-, rfl⟩ := shut_session found
    · exact absurd identity.symm different
    · rfl

/-! ## Steps that settle -/

/-- Discipline is kept, and nothing is registered. -/
def Settles (before after : Agents) : Prop :=
  Disciplined before none → Disciplined after none ∧ Eases before after

theorem Settles.refl (agents : Agents) : Settles agents agents :=
  fun disciplined => ⟨disciplined, Eases.refl agents⟩

theorem Settles.trans (first : Settles before middle)
    (second : Settles middle after) : Settles before after := by
  intro disciplined
  obtain ⟨between, firstEases⟩ := first disciplined
  obtain ⟨atEnd, secondEases⟩ := second between
  exact ⟨atEnd, firstEases.trans secondEases⟩

theorem Tidies.settles (tidies : Tidies before after none) :
    Settles before after :=
  fun disciplined => ⟨tidies.disciplined disciplined, tidies.eases⟩

/-- Shutting the session that is leaving restores the discipline. -/
theorem Shuts.restores (shuts : Shuts before after sessionId)
    (disciplined : Disciplined before leaving)
    (left : leaving = none ∨ leaving = some sessionId) :
    Disciplined after none ∧ Eases before after := by
  obtain ⟨rfl, ended⟩ | ⟨session, effective, found, -, rfl⟩ := shuts
  · refine ⟨⟨disciplined.identity, disciplined.closed, disciplined.registered,
      ?_⟩, Eases.refl _⟩
    intro id session found seen isOpen _
    apply disciplined.live id session found seen isOpen
    rintro rfl
    rcases left with impossible | same
    · cases impossible
    · cases same
      rw [ended session found] at isOpen
      cases isOpen
  · have identity := disciplined.identity sessionId session found
    subst identity
    exact ⟨shut_disciplined found disciplined left, shut_eases found⟩

theorem finish_settles : Settles agents (agents.finish sessionId) :=
  fun disciplined =>
    (finish_shuts disciplined).restores disciplined (Or.inl rfl)

theorem close_settles (agents : Agents) (sessionId : Id)
    (reason : CloseReason) :
    Settles agents (agents.close sessionId reason) :=
  fun disciplined =>
    (close_shuts disciplined).restores disciplined (Or.inl rfl)

theorem modify_settles {change : AgentSession → AgentSession}
    (inert : Inert change) : Settles agents (agents.modify sessionId change) :=
  (modify_tidies inert).settles

theorem send_settles {message : AgentMessage}
    (other : message.isSnapshot = false) :
    Settles agents (agents.send sessionId message) :=
  (send_tidies other).settles

theorem terminate_settles {reason : CloseReason} :
    Settles agents (agents.terminate sessionId reason) := by
  unfold terminate
  split
  · exact Settles.refl _
  · split
    · exact Settles.refl _
    · apply Settles.trans (modify_settles ?_) (close_settles _ _ _)
      constructor <;> exact fun _ => rfl

theorem heartbeat_settles {now : Timestamp} :
    Settles agents (agents.heartbeat sessionId now) := by
  unfold heartbeat
  split
  · exact Settles.refl _
  split
  · exact Settles.refl _
  split
  · exact Settles.refl _
  split
  · exact terminate_settles
  · apply Settles.trans (modify_settles ?_) (send_settles rfl)
    constructor <;> exact fun _ => rfl

theorem claimDisconnect_settles :
    Settles agents (agents.claimDisconnect sessionId).2 := by
  unfold claimDisconnect
  split
  · apply modify_settles
    constructor <;> exact fun _ => rfl
  · exact Settles.refl _

/-! ## Registration -/

/-- The session's hello is taken and the session registered. -/
def greet (agents : Agents) (session : AgentSession) (now : Timestamp) :
    Agents :=
  (agents.modify session.sessionId ({ · with helloSeen := true })).register
    { providerId := session.providerId
      accountId := session.accountId
      sessionId := session.sessionId
      tokenId := session.tokenId
      connectedAt := now }

theorem greet_byProvider_self (now : Timestamp) :
    (agents.greet session now).byProvider session.providerId =
      some ⟨session.providerId, session.accountId, session.sessionId,
        session.tokenId, now⟩ := by
  simp only [greet, register, Function.update_self]

theorem greet_byProvider_of_ne {providerId : Id} (now : Timestamp)
    (different : providerId ≠ session.providerId) :
    (agents.greet session now).byProvider providerId =
      agents.byProvider providerId := by
  simp only [greet, register, Function.update_of_ne different, modify]

/-- The session registered in its place is the one that is leaving. -/
theorem greet_disciplined (now : Timestamp)
    (disciplined : Disciplined agents none)
    (found : agents.sessions session.sessionId = some session)
    (isOpen : session.ended = false) :
    Disciplined (agents.greet session now)
      ((agents.byProvider session.providerId).map (·.sessionId)) := by
  constructor
  · intro id later present
    obtain ⟨earlier, stored, rfl | rfl⟩ := modify_found present
    · exact disciplined.identity id later stored
    · exact disciplined.identity id earlier stored
  · intro id later present
    obtain ⟨earlier, stored, rfl | rfl⟩ := modify_found present
    · exact disciplined.closed id later stored
    · exact disciplined.closed id earlier stored
  · intro providerId active registered
    by_cases same : providerId = session.providerId
    · subst same
      rw [greet_byProvider_self] at registered
      cases registered
      refine ⟨{ session with helloSeen := true }, ?_, isOpen, rfl, rfl⟩
      simp only [greet, register, modify, Function.update_self, found,
        Option.map_some]
    · rw [greet_byProvider_of_ne now same] at registered
      obtain ⟨other, present, otherOpen, ofProvider, ofToken⟩ :=
        disciplined.registered providerId active registered
      obtain ⟨later, present, rfl | rfl⟩ := modify_persists present
      · exact ⟨later, present, otherOpen, ofProvider, ofToken⟩
      · exact ⟨_, present, otherOpen, ofProvider, ofToken⟩
  · intro id later present seen laterOpen stays
    by_cases own : id = session.sessionId
    · subst own
      obtain ⟨earlier, present, which⟩ := modify_found present
      cases found.symm.trans present
      have ofProvider : later.providerId = session.providerId := by
        rcases which with rfl | rfl
        · rfl
        · rfl
      rw [ofProvider]
      exact ⟨_, greet_byProvider_self now, rfl⟩
    · have before : agents.sessions id = some later := by
        simpa only [greet, register, modify, Function.update_of_ne own]
          using present
      obtain ⟨active, registered, same⟩ :=
        disciplined.live id later before seen laterOpen (by simp)
      by_cases ofProvider : later.providerId = session.providerId
      · rw [ofProvider] at registered
        rw [registered] at stays
        exact absurd (congrArg some same.symm) stays
      · rw [greet_byProvider_of_ne now ofProvider]
        exact ⟨active, registered, same⟩

theorem greet_carries (agents : Agents) (session : AgentSession)
    (now : Timestamp) :
    Carries agents (agents.greet session now) where
  persists := by
    intro id earlier found
    have kept : ∃ later, (agents.greet session now).sessions id = some later ∧
        (later = earlier ∨ later = { earlier with helloSeen := true }) :=
      modify_persists found
    obtain ⟨later, present, rfl | rfl⟩ := kept
    · exact ⟨later, present, rfl, rfl, fun seen => seen⟩
    · exact ⟨_, present, rfl, rfl, fun _ => rfl⟩
  known := by
    intro id later found
    obtain ⟨earlier, found, -⟩ := modify_found found
    exact ⟨earlier, found⟩
  terminated := rfl
  snapshots _ := rfl

/-- What is registered after a step was registered before, or is this
session. -/
def RegistersOnly (before after : Agents) (session : AgentSession) : Prop :=
  ∀ providerId active, after.byProvider providerId = some active →
    before.byProvider providerId = some active ∨
      providerId = session.providerId ∧ active.tokenId = session.tokenId

/-- The session has said hello. -/
def Greeted (agents : Agents) (sessionId : Id) : Prop :=
  ∃ session, agents.sessions sessionId = some session ∧
    session.helloSeen = true

theorem Carries.greeted (carries : Carries before after)
    (greeted : before.Greeted sessionId) : after.Greeted sessionId := by
  obtain ⟨session, found, seen⟩ := greeted
  obtain ⟨later, present, -, -, still⟩ :=
    carries.persists sessionId session found
  exact ⟨later, present, still seen⟩

theorem greet_registersOnly (now : Timestamp) :
    RegistersOnly agents (agents.greet session now) session := by
  intro providerId active registered
  by_cases same : providerId = session.providerId
  · subst same
    rw [greet_byProvider_self] at registered
    cases registered
    exact Or.inr ⟨rfl, rfl⟩
  · rw [greet_byProvider_of_ne now same] at registered
    exact Or.inl registered

theorem greet_greeted (now : Timestamp)
    (found : agents.sessions session.sessionId = some session) :
    (agents.greet session now).Greeted session.sessionId := by
  refine ⟨{ session with helloSeen := true }, ?_, rfl⟩
  simp only [greet, register, modify, Function.update_self, found,
    Option.map_some]

theorem supersede_restores {replaced : ActiveSession}
    (disciplined : Disciplined agents (some replaced.sessionId)) :
    Disciplined (agents.supersede replaced) none ∧
      Eases agents (agents.supersede replaced) := by
  have bye : Tidies agents (agents.send replaced.sessionId
      (.bye "superseded")) (some replaced.sessionId) := send_tidies rfl
  have atBye := bye.disciplined disciplined
  obtain ⟨atEnd, eases⟩ :=
    (close_shuts atBye).restores atBye (Or.inr rfl)
  exact ⟨atEnd, bye.eases.trans eases⟩

/-- A hello either ends its session or registers it. -/
theorem onHello_spec (session : AgentSession) (hello : HelloMessage)
    (now : Timestamp) (disciplined : Disciplined agents none)
    (found : agents.sessions session.sessionId = some session)
    (isOpen : session.ended = false) :
    (∃ after, agents.onHello session hello now = (.finished, after) ∧
      Settles agents after) ∨
    PROTOCOL_MIN_VERSION ≤ min hello.protocolVersion PROTOCOL_MAX_VERSION ∧
      ∃ data after, agents.onHello session hello now =
          (.connected data, after) ∧
        Disciplined after none ∧ Carries agents after ∧
        RegistersOnly agents after session ∧
        after.Greeted session.sessionId := by
  unfold onHello
  dsimp only
  split
  · exact Or.inl ⟨_, rfl, terminate_settles⟩
  · rename_i spoken
    refine Or.inr ⟨Nat.le_of_not_lt spoken, ?_⟩
    have registered := greet_disciplined now disciplined found isOpen
    have carries := greet_carries agents session now
    have greeted := greet_greeted now found
    cases replaced : agents.byProvider session.providerId with
    | none =>
        rw [replaced] at registered
        exact ⟨_, _, rfl, registered, carries, greet_registersOnly now,
          greeted⟩
    | some other =>
        rw [replaced] at registered
        obtain ⟨atEnd, eases⟩ := supersede_restores registered
        refine ⟨_, _, rfl, atEnd, carries.trans eases.toCarries, ?_,
          eases.toCarries.greeted greeted⟩
        intro providerId active kept
        exact greet_registersOnly now providerId active
          (eases.shrinks providerId active kept)

/-- The message is the first hello on the open stream of this session. -/
structure FirstHello (agents : Agents) (sessionId : Id)
    (message : AgentMessage) (session : AgentSession) : Prop where
  hello : ∃ hello, message = .hello hello ∧
    PROTOCOL_MIN_VERSION ≤ min hello.protocolVersion PROTOCOL_MAX_VERSION
  found : agents.sessions sessionId = some session
  isOpen : session.closed = false
  unseen : session.helloSeen = false

/-- What a message does: only a first hello registers, and whatever follows a
message, its session has said hello by then. -/
structure Processed (before : Agents) (sessionId : Id)
    (message : AgentMessage) (result : Processing × Agents) : Prop where
  disciplined : Disciplined result.2 none
  carries : Carries before result.2
  greeted : result.1 ≠ .finished → result.2.Greeted sessionId
  registers : Eases before result.2 ∨
    ∃ session, FirstHello before sessionId message session ∧
      RegistersOnly before result.2 session

theorem Settles.processed (settles : Settles before after)
    (sessionId : Id) (message : AgentMessage)
    (disciplined : Disciplined before none) :
    Processed before sessionId message (.finished, after) := by
  obtain ⟨atEnd, eases⟩ := settles disciplined
  exact ⟨atEnd, eases.toCarries, fun impossible => absurd rfl impossible,
    Or.inl eases⟩

theorem process_spec (message : AgentMessage) (now : Timestamp)
    (disciplined : Disciplined agents none) :
    Processed agents sessionId message
      (agents.process sessionId message now) := by
  have received : Tidies agents
      (agents.modify sessionId ({ · with lastReceivedAt := now })) none := by
    apply modify_tidies
    constructor <;> exact fun _ => rfl
  have atReceived := received.disciplined disciplined
  unfold process
  cases found : agents.sessions sessionId with
  | none => exact (Settles.refl agents).processed _ _ disciplined
  | some session =>
      have going (result : Processing) (seen : session.helloSeen = true) :
          Processed agents sessionId message (result,
            agents.modify sessionId ({ · with lastReceivedAt := now })) :=
        ⟨atReceived, received.eases.toCarries,
          fun _ => received.eases.toCarries.greeted ⟨session, found, seen⟩,
          Or.inl received.eases⟩
      have ending (reason : CloseReason) :
          Processed agents sessionId message (.finished,
            (agents.modify sessionId
              ({ · with lastReceivedAt := now })).terminate sessionId
                reason) :=
        (received.settles.trans terminate_settles).processed _ _ disciplined
      dsimp only
      split
      · exact (Settles.refl agents).processed _ _ disciplined
      rename_i notClosed
      split
      · rename_i hello unseen
        have identity := disciplined.identity sessionId session found
        have isOpen : session.ended = false := by
          rw [← disciplined.closed sessionId session found]
          simpa using notClosed
        have stored : (agents.modify sessionId
            ({ · with lastReceivedAt := now })).sessions session.sessionId =
              some { session with lastReceivedAt := now } := by
          simp [modify, identity, found]
        obtain ⟨after, same, settles⟩ |
            ⟨spoken, data, after, same, atEnd, carries, registers, greeted⟩ :=
          onHello_spec { session with lastReceivedAt := now }
            hello now atReceived stored isOpen
        · have whole := (received.settles.trans settles).processed
            sessionId (.hello hello) disciplined
          rw [← same] at whole
          exact whole
        · have connected : (agents.modify sessionId
              ({ · with lastReceivedAt := now })).onHello session hello now =
                (.connected data, after) := same
          rw [connected]
          refine ⟨atEnd, received.eases.toCarries.trans carries,
            fun _ => identity ▸ greeted, Or.inr ⟨session, ?_, ?_⟩⟩
          · exact ⟨⟨hello, rfl, spoken⟩, found, by simpa using notClosed,
              unseen⟩
          · exact fun providerId active kept =>
              registers providerId active kept
      · exact ending _
      · rename_i seen
        exact going _ seen
      · rename_i seen
        exact going _ seen
      · exact ending _
      · exact going _ (by assumption)

/-! ## Terminations -/

/-- Nothing the termination is meant for is registered. -/
def Revoked (agents : Agents) (termination : Termination) : Prop :=
  ∀ providerId active, agents.byProvider providerId = some active →
    termination.covers providerId active.tokenId = false

theorem Eases.revoked {termination : Termination} (eases : Eases before after)
    (revoked : before.Revoked termination) : after.Revoked termination :=
  fun providerId active kept =>
    revoked providerId active (eases.shrinks providerId active kept)

/-- The termination is written down. -/
def note (agents : Agents) (termination : Termination) : Agents :=
  { agents with terminated := agents.terminated ++ [termination] }

theorem note_disciplined (termination : Termination)
    (disciplined : Disciplined agents leaving) :
    Disciplined (agents.note termination) leaving :=
  disciplined.of_same rfl rfl

theorem close_unregisters {providerId : Id} {active : ActiveSession}
    (reason : CloseReason) (disciplined : Disciplined agents none)
    (registered : agents.byProvider providerId = some active) :
    (agents.close active.sessionId reason).byProvider providerId = none := by
  obtain ⟨atEnd, eases⟩ :=
    close_settles agents active.sessionId reason disciplined
  cases kept : (agents.close active.sessionId reason).byProvider providerId with
  | none => rfl
  | some other =>
      have same := eases.shrinks providerId other kept
      rw [registered] at same
      cases same
      obtain ⟨session, found, isOpen, -⟩ :=
        atEnd.registered providerId active kept
      have ended := (close_shuts disciplined).ended disciplined found
      rw [isOpen] at ended
      cases ended

/-- A termination is written down and carried out. -/
structure Terminates (before after : Agents) (termination : Termination) :
    Prop where
  disciplined : Disciplined after none
  eases : Eases (before.note termination) after
  revoked : after.Revoked termination

theorem terminateByToken_spec (providerId tokenId : Id) (reason : CloseReason)
    (disciplined : Disciplined agents none) :
    Terminates agents (agents.terminateByToken providerId tokenId reason)
      (.token providerId tokenId) := by
  have noted := note_disciplined (.token providerId tokenId) disciplined
  unfold terminateByToken
  dsimp only
  split
  · rename_i absent
    refine ⟨noted, Eases.refl _, ?_⟩
    intro ofProvider active registered
    by_cases same : ofProvider = providerId
    · subst same
      rw [absent] at registered
      cases registered
    · simp [Termination.covers, same]
  · rename_i session present
    split
    · rename_i otherToken
      refine ⟨noted, Eases.refl _, ?_⟩
      intro ofProvider active registered
      by_cases same : ofProvider = providerId
      · subst same
        rw [present] at registered
        cases registered
        simp [Termination.covers, otherToken]
      · simp [Termination.covers, same]
    · obtain ⟨atEnd, eases⟩ :=
        close_settles _ session.sessionId reason noted
      refine ⟨atEnd, eases, ?_⟩
      intro ofProvider active registered
      by_cases same : ofProvider = providerId
      · subst same
        have gone : _ = none :=
          close_unregisters reason noted present
        cases gone.symm.trans registered
      · simp [Termination.covers, same]

theorem terminateByProvider_spec (providerId : Id) (reason : CloseReason)
    (disciplined : Disciplined agents none) :
    Terminates agents (agents.terminateByProvider providerId reason)
      (.provider providerId) := by
  have noted := note_disciplined (.provider providerId) disciplined
  unfold terminateByProvider
  dsimp only
  split
  · rename_i absent
    refine ⟨noted, Eases.refl _, ?_⟩
    intro ofProvider active registered
    by_cases same : ofProvider = providerId
    · subst same
      rw [absent] at registered
      cases registered
    · simp [Termination.covers, same]
  · rename_i session present
    obtain ⟨atEnd, eases⟩ :=
      close_settles _ session.sessionId reason noted
    refine ⟨atEnd, eases, ?_⟩
    intro ofProvider active registered
    by_cases same : ofProvider = providerId
    · subst same
      have gone : _ = none :=
        close_unregisters reason noted present
      cases gone.symm.trans registered
    · simp [Termination.covers, same]

/-- What becomes of a session when its account's sessions are closed. -/
theorem terminateByAccount_session {accountId : Id} {reason : CloseReason}
    {id : Id}
    (found : (agents.terminateByAccount accountId reason).sessions id =
      some session) :
    (agents.close id reason).sessions id = some session ∨
      (agents.sessions id = some session ∧
        ∀ active, agents.byProvider session.providerId = some active →
          active.sessionId = id → active.accountId ≠ accountId) := by
  cases present : agents.sessions id with
  | none => simp [terminateByAccount, present] at found
  | some earlier =>
      simp only [terminateByAccount, present] at found
      split at found
      · exact .inl found
      · rename_i kept
        cases found
        refine .inr ⟨rfl, ?_⟩
        rintro active registered same ofAccount
        simp [registered, same, ofAccount] at kept

theorem terminateByAccount_registered {accountId : Id} {reason : CloseReason}
    {providerId : Id} {active : ActiveSession}
    (disciplined : Disciplined agents none)
    (registered : (agents.terminateByAccount accountId reason).byProvider
      providerId = some active) :
    agents.byProvider providerId = some active ∧
      active.accountId ≠ accountId := by
  cases present : agents.byProvider providerId with
  | none => simp [terminateByAccount, present] at registered
  | some earlier =>
      simp only [terminateByAccount, present] at registered
      split at registered
      · have gone := close_unregisters reason disciplined present
        cases gone.symm.trans registered
      · rename_i other
        cases registered
        exact ⟨rfl, other⟩

theorem terminateByAccount_settles (agents : Agents) (accountId : Id)
    (reason : CloseReason) :
    Settles agents (agents.terminateByAccount accountId reason) := by
  intro disciplined
  have closes (id : Id) := close_settles agents id reason disciplined
  have kept : ∀ id session, agents.sessions id = some session →
      (∀ active, agents.byProvider session.providerId = some active →
        active.sessionId = id → active.accountId ≠ accountId) →
      (agents.terminateByAccount accountId reason).sessions id =
        some session := by
    intro id session found apart
    simp only [terminateByAccount, found, ite_eq_right_iff, Option.any_eq_true]
    rintro ⟨active, registered, same⟩
    have both : active.sessionId = id ∧ active.accountId = accountId := by
      simpa using same
    exact absurd both.2 (apart active registered both.1)
  refine ⟨⟨?_, ?_, ?_, ?_⟩, ⟨⟨?_, ?_, rfl, fun _ => rfl⟩, ?_⟩⟩
  · intro id session found
    rcases terminateByAccount_session found with closed | ⟨present, -⟩
    · exact (closes id).1.identity id session closed
    · exact disciplined.identity id session present
  · intro id session found
    rcases terminateByAccount_session found with closed | ⟨present, -⟩
    · exact (closes id).1.closed id session closed
    · exact disciplined.closed id session present
  · intro providerId active registered
    obtain ⟨present, other⟩ :=
      terminateByAccount_registered disciplined registered
    obtain ⟨session, found, isOpen, ofProvider, ofToken⟩ :=
      disciplined.registered providerId active present
    refine ⟨session, kept _ session found ?_, isOpen, ofProvider, ofToken⟩
    intro also registeredAlso _
    rw [ofProvider, present] at registeredAlso
    cases registeredAlso
    exact other
  · intro id session found seen isOpen stays
    rcases terminateByAccount_session found with closed | ⟨present, apart⟩
    · have ended := (close_shuts disciplined).ended disciplined closed
      rw [isOpen] at ended
      cases ended
    · obtain ⟨active, registered, same⟩ :=
        disciplined.live id session present seen isOpen stays
      refine ⟨active, ?_, same⟩
      simp only [terminateByAccount, registered]
      exact if_neg (apart active registered same)
  · intro id session found
    by_cases apart : ∀ active,
        agents.byProvider session.providerId = some active →
        active.sessionId = id → active.accountId ≠ accountId
    · exact ⟨session, kept id session found apart, rfl, rfl, fun seen => seen⟩
    · obtain ⟨later, closed, rest⟩ := (closes id).2.persists id session found
      refine ⟨later, ?_, rest⟩
      simp only [not_forall, not_not] at apart
      obtain ⟨active, registered, same, ofAccount⟩ := apart
      simp [terminateByAccount, found, registered, same, ofAccount, closed]
  · intro id session found
    cases present : agents.sessions id with
    | none => simp [terminateByAccount, present] at found
    | some earlier => exact ⟨earlier, rfl⟩
  · exact fun providerId active registered =>
      (terminateByAccount_registered disciplined registered).1

/-! ## Opening a session -/

/-- A new session is neither registered nor past its hello. -/
theorem setSession_disciplined (disciplined : Disciplined agents none)
    (fresh : agents.sessions session.sessionId = none)
    (isOpen : session.closed = session.ended)
    (unseen : session.helloSeen = false) :
    Disciplined (agents.setSession session) none := by
  have others : ∀ id other, agents.sessions id = some other →
      (agents.setSession session).sessions id = some other := by
    intro id other found
    have different : id ≠ session.sessionId := by
      rintro rfl
      rw [fresh] at found
      cases found
    simp only [setSession, Function.update_of_ne different]
    exact found
  have origin : ∀ id other,
      (agents.setSession session).sessions id = some other →
      id = session.sessionId ∧ other = session ∨
        agents.sessions id = some other := by
    intro id other found
    by_cases same : id = session.sessionId
    · subst same
      simp only [setSession, Function.update_self, Option.some.injEq] at found
      exact Or.inl ⟨rfl, found.symm⟩
    · simp only [setSession, Function.update_of_ne same] at found
      exact Or.inr found
  constructor
  · intro id other found
    obtain ⟨rfl, rfl⟩ | found := origin id other found
    · rfl
    · exact disciplined.identity id other found
  · intro id other found
    obtain ⟨rfl, rfl⟩ | found := origin id other found
    · exact isOpen
    · exact disciplined.closed id other found
  · intro providerId active registered
    obtain ⟨other, found, rest⟩ :=
      disciplined.registered providerId active registered
    exact ⟨other, others _ other found, rest⟩
  · intro id other found seen otherOpen stays
    obtain ⟨rfl, rfl⟩ | found := origin id other found
    · rw [unseen] at seen
      cases seen
    · exact disciplined.live id other found seen otherOpen stays

end Agents

end FluxIP
