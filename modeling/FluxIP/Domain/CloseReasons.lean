import FluxIP.Domain.SessionLaws

/-!
# Why sessions end

A session that is replaced is closed with an error code, and the listener of
its stream ends it before the reason arrives.  So no session ends as superseded,
unless somebody else terminates it as such.
-/

namespace FluxIP

def CloseReason.supersedes (reason : CloseReason) : Bool :=
  reason.disconnect = .superseded

/-- No session was terminated or has ended as superseded. -/
def AgentSession.Unsuperseded (session : AgentSession) : Prop :=
  (∀ reason, session.closeReason = some reason →
    reason.supersedes = false) ∧
  ∀ reason, session.effective = some reason → reason.supersedes = false

theorem AgentSession.Unsuperseded.law :
    AgentSession.Law (·.supersedes = false) AgentSession.Unsuperseded where
  own reason other := decide_eq_false other
  opened _ _ _ _ _ := by
    constructor
    · exact fun reason given => by cases given
    · exact fun reason given => by cases given
  ended _ unsuperseded := unsuperseded
  helloSeen _ unsuperseded := unsuperseded
  received _ _ unsuperseded := unsuperseded
  nonce _ _ unsuperseded := unsuperseded
  connected _ unsuperseded := unsuperseded
  claimed _ unsuperseded := unsuperseded
  noted session reason other unsuperseded := by
    refine ⟨?_, unsuperseded.2⟩
    intro given same
    cases same
    exact other
  closed session effective unsuperseded origin := by
    refine ⟨unsuperseded.1, ?_⟩
    intro reason same
    cases same
    rcases origin with other | noted | rfl
    · exact other
    · exact unsuperseded.1 effective noted
    · rfl

namespace Agents

def Unsuperseded (agents : Agents) : Prop :=
  ∀ id session, agents.sessions id = some session → session.Unsuperseded

end Agents

end FluxIP
