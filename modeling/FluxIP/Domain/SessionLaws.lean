import FluxIP.Domain.AgentSessions

/-!
# What holds of every session

A property of single sessions that survives each change the process makes to
the fields of one, and what the steps on the memory of the process make of it.
-/

namespace FluxIP

/-- The changes of a session's fields keep the property, as long as the reasons
of its endings are `given`.  A handler never gives supersession as its own. -/
structure AgentSession.Law (given : CloseReason → Prop)
    (holds : AgentSession → Prop) : Prop where
  own : ∀ reason, reason.disconnect ≠ .superseded → given reason
  opened : ∀ providerId accountId sessionId tokenId lastReceivedAt,
    holds { providerId, accountId, sessionId, tokenId, lastReceivedAt }
  ended : ∀ session, holds session → holds { session with ended := true }
  helloSeen : ∀ session, holds session →
    holds { session with helloSeen := true }
  received : ∀ session now, holds session →
    holds { session with lastReceivedAt := now }
  nonce : ∀ session nonce, holds session → holds { session with nonce }
  connected : ∀ session, holds session →
    holds { session with connectedRecorded := true }
  claimed : ∀ session, holds session →
    holds { session with disconnectRecorded := true }
  noted : ∀ session reason, given reason → holds session →
    holds { session with closeReason := some reason }
  closed : ∀ session effective, holds session →
    given effective ∨ session.closeReason = some effective ∨
      effective = Agents.closedByPeer →
    holds { session with
      closed := true
      heartbeatSeconds := none
      effective := some effective }

namespace Agents

/-- The property holds of every session. -/
def Every (holds : AgentSession → Prop) (agents : Agents) : Prop :=
  ∀ id session, agents.sessions id = some session → holds session

variable {given : CloseReason → Prop} {holds : AgentSession → Prop}
variable {agents : Agents} {sessionId : Id} {reason : CloseReason}
variable {change : AgentSession → AgentSession}

theorem Every.modify
    (keeps : ∀ session, agents.sessions sessionId = some session →
      holds session → holds (change session))
    (held : agents.Every holds) :
    (agents.modify sessionId change).Every holds := by
  intro id session found
  by_cases own : id = sessionId
  · subst own
    simp only [Agents.modify, Function.update_self,
      Option.map_eq_some_iff] at found
    obtain ⟨earlier, present, rfl⟩ := found
    exact keeps earlier present (held id earlier present)
  · simp only [Agents.modify, Function.update_of_ne own] at found
    exact held id session found

theorem Every.unregister {providerId : Id} (held : agents.Every holds) :
    (agents.unregister providerId sessionId).Every holds := by
  unfold Agents.unregister
  split
  · exact held
  · exact held

theorem Every.send {message : AgentMessage} (held : agents.Every holds) :
    (agents.send sessionId message).Every holds := by
  unfold Agents.send
  split
  · exact held
  · exact held

theorem Every.push {providerId : Id} {message : AgentMessage}
    (held : agents.Every holds) :
    (agents.push providerId message).Every holds := by
  unfold Agents.push
  split
  · exact held
  · exact held.send

theorem Every.setSession {session : AgentSession} (fresh : holds session)
    (held : agents.Every holds) : (agents.setSession session).Every holds := by
  intro id other found
  by_cases own : id = session.sessionId
  · subst own
    simp only [Agents.setSession, Function.update_self,
      Option.some.injEq] at found
    rw [← found]
    exact fresh
  · simp only [Agents.setSession, Function.update_of_ne own] at found
    exact held id other found

/-! ## Closing -/

theorem Every.onClosed {cause : Option CloseReason}
    (law : AgentSession.Law given holds)
    (isGiven : ∀ reason, cause = some reason → given reason)
    (held : agents.Every holds) :
    (agents.onClosed sessionId cause).Every holds := by
  unfold Agents.onClosed
  split
  · exact held
  · split
    · exact held
    · apply Every.unregister
      apply Every.modify _ held
      intro session present earlier
      apply law.closed session _ earlier
      cases cause with
      | some cause => exact .inl (isGiven cause rfl)
      | none =>
          cases noted : session.closeReason with
          | some own => exact .inr (.inl rfl)
          | none => exact .inr (.inr rfl)

theorem Every.finish (law : AgentSession.Law given holds)
    (held : agents.Every holds) : (agents.finish sessionId).Every holds := by
  apply Every.onClosed law
  · exact fun reason same => by cases same
  · exact Every.modify (fun session _ => law.ended session) held

/-- After the listener has ended a session, it does not end again. -/
theorem onClosed_finish {cause : Option CloseReason} :
    (agents.finish sessionId).onClosed sessionId cause =
      agents.finish sessionId := by
  have isClosed : ∀ session,
      (agents.finish sessionId).sessions sessionId = some session →
      session.closed = true := by
    intro session found
    unfold Agents.finish Agents.onClosed at found
    split at found
    · rename_i absent
      rw [absent] at found
      cases found
    · rename_i earlier present
      split at found
      · rename_i closed
        cases present.symm.trans found
        exact closed
      · have same : ∀ agents : Agents, ∀ providerId,
            (agents.unregister providerId sessionId).sessions =
              agents.sessions := by
          intro agents providerId
          unfold Agents.unregister
          split <;> rfl
        rw [same] at found
        simp only [Agents.modify, Function.update_self,
          Option.map_eq_some_iff] at found
        obtain ⟨_, -, rfl⟩ := found
        rfl
  generalize agents.finish sessionId = finished at isClosed ⊢
  unfold Agents.onClosed
  split
  · rfl
  · rename_i session found
    rw [if_pos (isClosed session found)]

/-- The reason of a closing counts when the call does not fail. -/
theorem Every.close (law : AgentSession.Law given holds)
    (isGiven : reason.code = .ok → given reason)
    (held : agents.Every holds) :
    (agents.close sessionId reason).Every holds := by
  have ended : (agents.modify sessionId
      ({ · with ended := true })).Every holds :=
    Every.modify (fun session _ => law.ended session) held
  unfold Agents.close
  split
  · dsimp only
    split
    · rename_i isOk
      apply Every.onClosed law _ ended
      intro cause same
      cases same
      exact isGiven isOk
    · rw [onClosed_finish]
      exact ended.finish law
  · exact held

theorem Every.terminate (law : AgentSession.Law given holds)
    (isGiven : given reason) (held : agents.Every holds) :
    (agents.terminate sessionId reason).Every holds := by
  unfold Agents.terminate
  split
  · exact held
  · split
    · exact held
    · apply Every.close law (fun _ => isGiven)
      exact Every.modify (fun session _ => law.noted session _ isGiven) held

theorem Every.supersede {replaced : ActiveSession}
    (law : AgentSession.Law given holds) (held : agents.Every holds) :
    (agents.supersede replaced).Every holds := by
  apply Every.close law
  · exact fun isOk => by cases isOk
  · exact held.send

/-! ## Messages and terminations -/

theorem Every.onHello {session : AgentSession} {hello : HelloMessage}
    {now : Timestamp} (law : AgentSession.Law given holds)
    (held : agents.Every holds) :
    (agents.onHello session hello now).2.Every holds := by
  have registered : ∀ active, ((agents.modify session.sessionId
      ({ · with helloSeen := true })).register active).Every holds := by
    intro active
    exact Every.modify (fun session _ => law.helloSeen session) held
  unfold Agents.onHello
  dsimp only
  split
  · exact held.terminate law (law.own _ (fun same => by cases same))
  · split
    · exact registered _
    · exact (registered _).supersede law

theorem Every.process {message : AgentMessage} {now : Timestamp}
    (law : AgentSession.Law given holds) (held : agents.Every holds) :
    (agents.process sessionId message now).2.Every holds := by
  have received : (agents.modify sessionId
      ({ · with lastReceivedAt := now })).Every holds :=
    Every.modify (fun session _ => law.received session now) held
  unfold Agents.process
  split
  · exact held
  · split
    · exact held
    · dsimp only
      split
      · exact received.onHello law
      · exact received.terminate law (law.own _ (fun same => by cases same))
      · exact received
      · exact received
      · exact received.terminate law (law.own _ (fun same => by cases same))
      · exact received

theorem Every.heartbeat {now : Timestamp}
    (law : AgentSession.Law given holds) (held : agents.Every holds) :
    (agents.heartbeat sessionId now).Every holds := by
  unfold Agents.heartbeat
  split
  · exact held
  split
  · exact held
  split
  · exact held
  split
  · exact held.terminate law (law.own _ (fun same => by cases same))
  · apply Every.send
    exact Every.modify (fun session _ => law.nonce session _) held

theorem Every.claimDisconnect (law : AgentSession.Law given holds)
    (held : agents.Every holds) :
    (agents.claimDisconnect sessionId).2.Every holds := by
  unfold Agents.claimDisconnect
  split
  · exact Every.modify (fun session _ => law.claimed session) held
  · exact held

theorem Every.terminateByToken {providerId tokenId : Id}
    (law : AgentSession.Law given holds) (isGiven : given reason)
    (held : agents.Every holds) :
    (agents.terminateByToken providerId tokenId reason).Every holds := by
  unfold Agents.terminateByToken
  dsimp only
  split
  · exact held
  · split
    · exact held
    · exact Every.close law (fun _ => isGiven) held

theorem Every.terminateByProvider {providerId : Id}
    (law : AgentSession.Law given holds) (isGiven : given reason)
    (held : agents.Every holds) :
    (agents.terminateByProvider providerId reason).Every holds := by
  unfold Agents.terminateByProvider
  dsimp only
  split
  · exact held
  · exact Every.close law (fun _ => isGiven) held

theorem Every.terminateByAccount {accountId : Id}
    (law : AgentSession.Law given holds) (isGiven : given reason)
    (held : agents.Every holds) :
    (agents.terminateByAccount accountId reason).Every holds := by
  intro id session found
  simp only [Agents.terminateByAccount] at found
  split at found
  · cases found
  · rename_i earlier present
    split at found
    · have closed : (agents.close id reason).Every holds :=
        Every.close law (fun _ => isGiven) held
      exact closed id session found
    · cases found
      exact held id session present

end Agents

end FluxIP
