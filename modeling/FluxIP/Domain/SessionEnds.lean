import FluxIP.Domain.SessionActs

/-!
# What ends a session

The reason an open session is left with by the step that ends it.  A handler
notes its own reason before it closes the channel; whoever closes the channel
past the handler notes none.
-/

namespace FluxIP

namespace Agents

variable {agents : Agents} {id sessionId : Id} {reason : CloseReason}
variable {session later : AgentSession} {leaving : Option Id}

/-- The session was open and has ended. -/
structure Ends (before after : Agents) (session later : AgentSession) :
    Prop where
  found : before.sessions session.sessionId = some session
  isOpen : session.ended = false
  present : after.sessions session.sessionId = some later
  ended : later.ended = true

/-- What leaves the session alone does not end it. -/
theorem Ends.changed {before after : Agents}
    (ends : Ends before after session later) :
    after.sessions session.sessionId ≠ before.sessions session.sessionId := by
  intro same
  rw [ends.present, ends.found] at same
  have isEnded := ends.ended
  rw [Option.some.inj same, ends.isOpen] at isEnded
  cases isEnded

/-- A change that leaves the mark of the end alone ends nothing. -/
theorem modify_not_ends {change : AgentSession → AgentSession}
    (keeps : ∀ session, (change session).ended = session.ended) :
    ¬ Ends agents (agents.modify id change) session later := by
  intro ends
  have isEnded := ends.ended
  obtain ⟨earlier, found, rfl | rfl⟩ := modify_found ends.present
  · rw [ends.found] at found
    cases found
    rw [ends.isOpen] at isEnded
    cases isEnded
  · rw [ends.found] at found
    cases found
    rw [keeps, ends.isOpen] at isEnded
    cases isEnded

theorem close_ends (disciplined : Disciplined agents leaving)
    (ends : Ends agents (agents.close id reason) session later) :
    id = session.sessionId ∧
      later.effective = some (leftReason session reason) := by
  have own : id = session.sessionId := by
    by_contra other
    exact ends.changed ((close_shuts disciplined).sessions_of_ne disciplined
      (Ne.symm other))
  subst own
  have present := ends.present
  rw [close_open disciplined ends.found ends.isOpen, shut_sessions_self]
    at present
  cases present
  exact ⟨rfl, rfl⟩

theorem finish_ends (disciplined : Disciplined agents leaving)
    (ends : Ends agents (agents.finish id) session later) :
    id = session.sessionId ∧
      later.effective = some (session.closeReason.getD closedByPeer) := by
  have own : id = session.sessionId := by
    by_contra other
    exact ends.changed ((finish_shuts disciplined).sessions_of_ne disciplined
      (Ne.symm other))
  subst own
  have notClosed : session.closed = false :=
    (disciplined.closed _ session ends.found).trans ends.isOpen
  have present := ends.present
  unfold finish at present
  rw [onClosed_ended ends.found rfl notClosed, shut_sessions_self] at present
  cases present
  exact ⟨rfl, rfl⟩

/-- The handler has noted its reason when the `error` event ends the
session. -/
theorem terminate_ends_with (disciplined : Disciplined agents none)
    (reasoned : agents.Reasoned)
    (ends : Ends agents (agents.terminate id reason) session later) :
    id = session.sessionId ∧ later.effective = some reason := by
  unfold terminate at ends
  split at ends
  · exact absurd rfl ends.changed
  · split at ends
    · exact absurd rfl ends.changed
    · have marked : Disciplined (agents.modify id
          ({ · with closeReason := some reason })) none := by
        apply (modify_tidies _).disciplined disciplined
        constructor <;> exact fun _ => rfl
      have own : id = session.sessionId := by
        by_contra other
        apply ends.changed
        rw [(close_shuts marked).sessions_of_ne marked (Ne.symm other)]
        simp only [modify, Function.update_of_ne (Ne.symm other)]
      subst own
      have noted : Ends (agents.modify session.sessionId
          ({ · with closeReason := some reason }))
          ((agents.modify session.sessionId
            ({ · with closeReason := some reason })).close session.sessionId
              reason)
          { session with closeReason := some reason } later := by
        refine ⟨?_, ends.isOpen, ends.present, ends.ended⟩
        simp [modify, ends.found]
      obtain ⟨-, effective⟩ := close_ends marked noted
      refine ⟨rfl, ?_⟩
      rw [effective]
      unfold leftReason
      split
      · rfl
      · rfl

/-- What a step makes of a session after a note was taken of it. -/
theorem Ends.noted {change : AgentSession → AgentSession} {after : Agents}
    (marks : Marks change)
    (reasons : ∀ session, (change session).closeReason = session.closeReason)
    (ends : Ends agents after session later) :
    ∃ noted, Ends (agents.modify id change) after noted later ∧
      noted.sessionId = session.sessionId ∧
      noted.closeReason = session.closeReason := by
  by_cases own : session.sessionId = id
  · refine ⟨change session, ⟨?_, ?_, ?_, ends.ended⟩, marks.sessionId session,
      reasons session⟩
    · rw [marks.sessionId, ← own]
      simp only [modify, Function.update_self, ends.found, Option.map_some]
    · exact (marks.ended session).trans ends.isOpen
    · rw [marks.sessionId]
      exact ends.present
  · refine ⟨session, ⟨?_, ends.isOpen, ends.present, ends.ended⟩, rfl, rfl⟩
    simp only [modify, Function.update_of_ne own]
    exact ends.found

theorem supersede_ends {replaced : ActiveSession}
    (disciplined : Disciplined agents leaving)
    (ends : Ends agents (agents.supersede replaced) session later) :
    replaced.sessionId = session.sessionId ∧
      later.effective = some (session.closeReason.getD closedByPeer) := by
  have sent : Ends (agents.send replaced.sessionId (.bye "superseded"))
      (agents.supersede replaced) session later := by
    refine ⟨?_, ends.isOpen, ends.present, ends.ended⟩
    rw [(send_sessions _ _ _).1]
    exact ends.found
  exact close_ends (send_disciplined _ disciplined) sent

theorem welcome_ends {receiver : AgentSession} {now : Timestamp}
    {after : Agents} (found : agents.sessions receiver.sessionId = some receiver)
    (ends : Ends agents after session later) :
    ∃ noted, Ends (agents.welcome receiver now) after noted later ∧
      noted.sessionId = session.sessionId ∧
      noted.closeReason = session.closeReason := by
  by_cases own : session.sessionId = receiver.sessionId
  · have same : session = receiver := by
      have present := ends.found
      rw [own, found] at present
      exact (Option.some.inj present).symm
    subst same
    exact ⟨{ session with lastReceivedAt := now, helloSeen := true },
      ⟨welcome_sessions_self now found, ends.isOpen, ends.present, ends.ended⟩,
      rfl, rfl⟩
  · refine ⟨session, ⟨?_, ends.isOpen, ends.present, ends.ended⟩, rfl, rfl⟩
    exact welcome_goesOn own ends.found

/-- Why a handler terminates its session after a message. -/
def handlerCause (session : AgentSession) : AgentMessage → DisconnectReason
  | .bye _ => if session.helloSeen then .closed else .error
  | _ => .error

/-- A message ends the session it came on, for its own cause; or a hello ends
the session it replaces, past its handler. -/
theorem process_ends {message : AgentMessage} {now : Timestamp}
    (introduced : Introduced agents) (disciplined : Disciplined agents none)
    (reasoned : agents.Reasoned)
    (ends : Ends agents (agents.process sessionId message now).2 session
      later) :
    (sessionId = session.sessionId ∧ ∃ reason, later.effective = some reason ∧
      reason.disconnect = handlerCause session message) ∨
    (sessionId ≠ session.sessionId ∧
      later.effective = some (session.closeReason.getD closedByPeer)) := by
  have marks : Marks ({ · with lastReceivedAt := now }) := by
    constructor
    · constructor <;> exact fun _ => rfl
    · exact fun _ => rfl
    · exact fun _ => rfl
    · exact fun _ => rfl
    · exact fun _ => rfl
    · exact fun _ => rfl
  have received : (agents.modify sessionId
      ({ · with lastReceivedAt := now })).Reasoned :=
    modify_reasoned (fun _ => rfl) (fun _ => rfl) reasoned
  -- the session is terminated by its own handler
  have terminates (reason : CloseReason)
      (ends : Ends agents ((agents.modify sessionId
        ({ · with lastReceivedAt := now })).terminate sessionId reason) session
          later) :
      sessionId = session.sessionId ∧ later.effective = some reason := by
    obtain ⟨noted, atNote, same, -⟩ := ends.noted marks (fun _ => rfl)
    obtain ⟨own, effective⟩ := terminate_ends_with
      (received_disciplined disciplined) received atNote
    exact ⟨own.trans same, effective⟩
  unfold process at ends
  cases found : agents.sessions sessionId with
  | none =>
      simp only [found] at ends
      exact absurd rfl ends.changed
  | some receiver =>
      simp only [found] at ends
      split at ends
      · exact absurd rfl ends.changed
      rename_i notClosed
      split at ends
      · rename_i hello unseen
        have identity := disciplined.identity sessionId receiver found
        subst identity
        have notEnded : receiver.ended = false := by
          rw [← disciplined.closed _ receiver found]
          simpa using notClosed
        unfold onHello at ends
        dsimp only at ends
        split at ends
        · obtain ⟨own, effective⟩ := terminates _ ends
          exact .inl ⟨own, _, effective, rfl⟩
        · have welcomed : Disciplined (agents.welcome receiver now)
              ((agents.byProvider receiver.providerId).map (·.sessionId)) :=
            welcome_disciplined now disciplined found notEnded
          have after : ∃ noted : AgentSession,
              Ends (agents.welcome receiver now) _ noted later ∧
                noted.sessionId = session.sessionId ∧
                noted.closeReason = session.closeReason :=
            welcome_ends found ends
          obtain ⟨noted, atWelcome, same, sameReason⟩ := after
          cases registered : agents.byProvider receiver.providerId with
          | none =>
              have alone : (agents.modify receiver.sessionId
                  ({ · with lastReceivedAt := now })).byProvider
                    receiver.providerId = none := registered
              simp only [alone] at atWelcome
              exact absurd rfl atWelcome.changed
          | some replaced =>
              have replaces : (agents.modify receiver.sessionId
                  ({ · with lastReceivedAt := now })).byProvider
                    receiver.providerId = some replaced := registered
              simp only [replaces] at atWelcome
              obtain ⟨isReplaced, effective⟩ :=
                supersede_ends welcomed atWelcome
              refine .inr ⟨?_, sameReason ▸ effective⟩
              intro own
              obtain ⟨greeted, present, seen⟩ :=
                introduced receiver.providerId replaced registered
              rw [isReplaced, same, ← own, found] at present
              rw [← Option.some.inj present, unseen] at seen
              cases seen
      · rename_i unseen _
        obtain ⟨own, effective⟩ := terminates _ ends
        refine .inl ⟨own, _, effective, ?_⟩
        subst own
        have same : receiver = session := by
          have present := ends.found
          rw [found] at present
          exact Option.some.inj present
        subst same
        unfold handlerCause
        split
        · rw [unseen]
          rfl
        · rfl
      · exact absurd ends (modify_not_ends fun _ => rfl)
      · exact absurd ends (modify_not_ends fun _ => rfl)
      · rename_i seen
        obtain ⟨own, effective⟩ := terminates _ ends
        refine .inl ⟨own, _, effective, ?_⟩
        subst own
        have same : receiver = session := by
          have present := ends.found
          rw [found] at present
          exact Option.some.inj present
        subst same
        unfold handlerCause
        rw [seen]
        rfl
      · exact absurd ends (modify_not_ends fun _ => rfl)

theorem heartbeat_ends {now : Timestamp}
    (disciplined : Disciplined agents none) (reasoned : agents.Reasoned)
    (ends : Ends agents (agents.heartbeat sessionId now) session later) :
    ∃ reason, later.effective = some reason ∧
      reason.disconnect = .timeout := by
  unfold heartbeat at ends
  split at ends
  · exact absurd rfl ends.changed
  split at ends
  · exact absurd rfl ends.changed
  split at ends
  · exact absurd rfl ends.changed
  split at ends
  · obtain ⟨-, effective⟩ := terminate_ends_with disciplined reasoned ends
    exact ⟨_, effective, rfl⟩
  · rename_i _ beating _ _ _ _ _ _
    have sent : Ends agents (agents.modify sessionId
        ({ · with nonce := beating.nonce + 1 })) session later := by
      refine ⟨ends.found, ends.isOpen, ?_, ends.ended⟩
      have present := ends.present
      rw [(send_sessions _ _ _).1] at present
      exact present
    exact absurd sent (modify_not_ends fun _ => rfl)

theorem terminateByToken_ends {providerId tokenId : Id}
    (disciplined : Disciplined agents none)
    (ends : Ends agents (agents.terminateByToken providerId tokenId reason)
      session later) :
    later.effective = some (leftReason session reason) := by
  have noted := note_disciplined (.token providerId tokenId) disciplined
  unfold terminateByToken at ends
  dsimp only at ends
  split at ends
  · exact absurd rfl ends.changed
  · split at ends
    · exact absurd rfl ends.changed
    · exact (close_ends noted
        ⟨ends.found, ends.isOpen, ends.present, ends.ended⟩).2

theorem terminateByProvider_ends {providerId : Id}
    (disciplined : Disciplined agents none)
    (ends : Ends agents (agents.terminateByProvider providerId reason)
      session later) :
    later.effective = some (leftReason session reason) := by
  have noted := note_disciplined (.provider providerId) disciplined
  unfold terminateByProvider at ends
  dsimp only at ends
  split at ends
  · exact absurd rfl ends.changed
  · exact (close_ends noted
      ⟨ends.found, ends.isOpen, ends.present, ends.ended⟩).2

theorem terminateByAccount_ends {accountId : Id}
    (disciplined : Disciplined agents none)
    (ends : Ends agents (agents.terminateByAccount accountId reason) session
      later) :
    later.effective = some (leftReason session reason) := by
  rcases terminateByAccount_session ends.present with closed | ⟨same, -⟩
  · exact (close_ends disciplined
      ⟨ends.found, ends.isOpen, closed, ends.ended⟩).2
  · have isEnded := ends.ended
    rw [ends.found] at same
    rw [← Option.some.inj same, ends.isOpen] at isEnded
    cases isEnded

end Agents

end FluxIP
