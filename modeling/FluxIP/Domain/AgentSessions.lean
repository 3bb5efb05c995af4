import FluxIP.Domain.AgentProtocol
import Mathlib.Logic.Function.Basic

/-!
# Agent sessions in the memory of the process

The registry of live sessions, the channel of each stream and the fields of
its session handler, with the steps the process takes on them between two
awaits.
-/

namespace FluxIP

/-- What the stream has authenticated as, and the fields of its channel
(`ended`) and of its session handler. -/
structure AgentSession where
  providerId : Id
  accountId : Id
  sessionId : Id
  tokenId : Id
  ended : Bool := false
  helloSeen : Bool := false
  connectedRecorded : Bool := false
  closed : Bool := false
  disconnectRecorded : Bool := false
  closeReason : Option CloseReason := none
  effective : Option CloseReason := none
  heartbeatSeconds : Option Nat := none
  nonce : Nat := 0
  lastReceivedAt : Timestamp := 0
  deriving DecidableEq, Repr

structure ActiveSession where
  providerId : Id
  accountId : Id
  sessionId : Id
  tokenId : Id
  connectedAt : Timestamp
  deriving DecidableEq, Repr

/-- A message that went out on the channel of a session. -/
structure SentAgentMessage where
  sessionId : Id
  message : AgentMessage
  deriving DecidableEq, Repr

/-- The sessions a termination is meant for. -/
inductive Termination where
  | token (providerId tokenId : Id)
  | provider (providerId : Id)
  deriving DecidableEq, Repr

/-- `byProvider` is the map of the registry.  `sent` and `terminated` are the
messages sent and the terminations made so far. -/
structure Agents where
  byProvider : Id → Option ActiveSession := fun _ => none
  sessions : Id → Option AgentSession := fun _ => none
  sent : List SentAgentMessage := []
  terminated : List Termination := []

namespace Agents

def setSession (agents : Agents) (session : AgentSession) : Agents :=
  { agents with
    sessions :=
      Function.update agents.sessions session.sessionId (some session) }

def modify (agents : Agents) (sessionId : Id)
    (change : AgentSession → AgentSession) : Agents :=
  { agents with
    sessions := Function.update agents.sessions sessionId
      ((agents.sessions sessionId).map change) }

/-! ## The registry -/

def unregister (agents : Agents) (providerId sessionId : Id) : Agents :=
  if (agents.byProvider providerId).any (·.sessionId = sessionId) then
    { agents with
      byProvider := Function.update agents.byProvider providerId none }
  else agents

def register (agents : Agents) (session : ActiveSession) : Agents :=
  { agents with
    byProvider := Function.update agents.byProvider session.providerId
      (some session) }

/-! ## The channel -/

/-- `channel.send` -/
def send (agents : Agents) (sessionId : Id) (message : AgentMessage) :
    Agents :=
  if (agents.sessions sessionId).any (!·.ended) then
    { agents with sent := agents.sent ++ [⟨sessionId, message⟩] }
  else agents

def closedByPeer : CloseReason := ⟨.ok, "closed", .closed⟩

/-- `onClosed` up to its first await. -/
def onClosed (agents : Agents) (sessionId : Id)
    (reason : Option CloseReason) : Agents :=
  match agents.sessions sessionId with
  | none => agents
  | some session =>
      if session.closed then agents
      else
        (agents.modify sessionId fun session =>
          { session with
            closed := true
            heartbeatSeconds := none
            effective := some
              ((reason <|> session.closeReason).getD closedByPeer) }).unregister
          session.providerId sessionId

/-- The listener of the stream's `cancelled`, `close` and `error` events; its
`end` event does the same. -/
def finish (agents : Agents) (sessionId : Id) : Agents :=
  (agents.modify sessionId ({ · with ended := true })).onClosed sessionId none

/-- `channel.close`: every code but `ok` fails the call, whose `error` event is
emitted to the listener at once. -/
def close (agents : Agents) (sessionId : Id) (reason : CloseReason) :
    Agents :=
  if (agents.sessions sessionId).any (!·.ended) then
    let ended := agents.modify sessionId ({ · with ended := true })
    let failed := if reason.code = .ok then ended else ended.finish sessionId
    failed.onClosed sessionId (some reason)
  else agents

/-! ## Messages and terminations -/

def push (agents : Agents) (providerId : Id) (message : AgentMessage) :
    Agents :=
  match agents.byProvider providerId with
  | none => agents
  | some session => agents.send session.sessionId message

def terminateByToken (agents : Agents) (providerId tokenId : Id)
    (reason : CloseReason) : Agents :=
  let agents := { agents with
    terminated := agents.terminated ++ [Termination.token providerId tokenId] }
  match agents.byProvider providerId with
  | none => agents
  | some session =>
      if session.tokenId ≠ tokenId then agents
      else agents.close session.sessionId reason

def terminateByProvider (agents : Agents) (providerId : Id)
    (reason : CloseReason) : Agents :=
  let agents := { agents with
    terminated := agents.terminated ++ [Termination.provider providerId] }
  match agents.byProvider providerId with
  | none => agents
  | some session => agents.close session.sessionId reason

/-- The loop closes the sessions of the account one after the other.  Each
closing acts on its own session and its own entry of the registry, so the
result is read off entry by entry. -/
def terminateByAccount (agents : Agents) (accountId : Id)
    (reason : CloseReason) : Agents :=
  { agents with
    byProvider := fun providerId =>
      match agents.byProvider providerId with
      | none => none
      | some session =>
          if session.accountId = accountId then
            (agents.close session.sessionId reason).byProvider providerId
          else some session
    sessions := fun sessionId =>
      match agents.sessions sessionId with
      | none => none
      | some session =>
          if (agents.byProvider session.providerId).any fun active =>
              active.sessionId = sessionId ∧ active.accountId = accountId then
            (agents.close sessionId reason).sessions sessionId
          else some session }

/-! ## The session handler -/

/-- The handler's own `terminate`: the first reason counts. -/
def terminate (agents : Agents) (sessionId : Id) (reason : CloseReason) :
    Agents :=
  match agents.sessions sessionId with
  | none => agents
  | some session =>
      if session.closeReason.isSome then agents
      else
        (agents.modify sessionId
          ({ · with closeReason := some reason })).close sessionId reason

/-- What a message leads to after the part of `process` that awaits nothing. -/
inductive Processing where
  | finished
  | connected (data : TraefikProviderAgentConnectedData)
  | reported (report : ReportMessage)
  | syncRequested
  deriving DecidableEq, Repr

def versionUnsupported (protocolVersion : Nat) : String :=
  "protocol_version_unsupported: agent speaks v" ++
    toString protocolVersion ++ ", server supports v" ++
    toString PROTOCOL_MIN_VERSION ++ "..v" ++
    toString PROTOCOL_MAX_VERSION ++ ", update the agent"

/-- A session that is replaced by a newer one says bye and is closed. -/
def supersede (agents : Agents) (replaced : ActiveSession) : Agents :=
  (agents.send replaced.sessionId (.bye "superseded")).close
    replaced.sessionId
    ⟨.aborted, "superseded by a newer connection", .superseded⟩

/-- `onHello` up to its first await. -/
def onHello (agents : Agents) (session : AgentSession)
    (hello : HelloMessage) (now : Timestamp) : Processing × Agents :=
  let accepted := min hello.protocolVersion PROTOCOL_MAX_VERSION
  if accepted < PROTOCOL_MIN_VERSION then
    (.finished, agents.terminate session.sessionId
      ⟨.failedPrecondition, versionUnsupported hello.protocolVersion, .error⟩)
  else
    let replaced := agents.byProvider session.providerId
    let registered :=
      (agents.modify session.sessionId ({ · with helloSeen := true })).register
        { providerId := session.providerId
          accountId := session.accountId
          sessionId := session.sessionId
          tokenId := session.tokenId
          connectedAt := now }
    let data : TraefikProviderAgentConnectedData :=
      { sessionId := session.sessionId
        tokenId := session.tokenId
        agentVersion := hello.agentVersion
        protocolVersion := accepted
        maxOfflineSeconds := hello.maxOfflineSeconds
        replacedPrevious := replaced.isSome
        connectedAt := now }
    match replaced with
    | none => (.connected data, registered)
    | some replaced => (.connected data, registered.supersede replaced)

/-- `process` up to its first await. -/
def process (agents : Agents) (sessionId : Id) (message : AgentMessage)
    (now : Timestamp) : Processing × Agents :=
  match agents.sessions sessionId with
  | none => (.finished, agents)
  | some session =>
      if session.closed then (.finished, agents)
      else
        let received :=
          agents.modify sessionId ({ · with lastReceivedAt := now })
        match session.helloSeen, message with
        | false, .hello hello => received.onHello session hello now
        | false, _ => (.finished, received.terminate sessionId
            ⟨.failedPrecondition, "hello must be the first message", .error⟩)
        | true, .report report => (.reported report, received)
        | true, .syncRequest => (.syncRequested, received)
        | true, .bye reason => (.finished, received.terminate sessionId
            ⟨.ok, if reason = "" then "agent said bye" else reason, .closed⟩)
        | true, _ => (.finished, received)

/-- Missed heartbeat intervals before a silent peer is dropped. -/
def HEARTBEAT_MISSES_ALLOWED : Nat := 3

/-- The callback of the heartbeat interval. -/
def heartbeat (agents : Agents) (sessionId : Id) (now : Timestamp) : Agents :=
  match agents.sessions sessionId with
  | none => agents
  | some session =>
      match session.heartbeatSeconds with
      | none => agents
      | some seconds =>
          if session.closed then agents
          else if max 1 seconds * 1000 * HEARTBEAT_MISSES_ALLOWED <
              now - session.lastReceivedAt then
            agents.terminate sessionId
              ⟨.deadlineExceeded, "heartbeat timeout", .timeout⟩
          else
            (agents.modify sessionId
              ({ · with nonce := session.nonce + 1 })).send sessionId
                (.heartbeat (session.nonce + 1))

/-- The claim of `onClosed` to record the disconnect: granted once, after the
connect was recorded. -/
def claimDisconnect (agents : Agents) (sessionId : Id) : Bool × Agents :=
  if (agents.sessions sessionId).any fun session =>
      session.connectedRecorded && !session.disconnectRecorded then
    (true, agents.modify sessionId ({ · with disconnectRecorded := true }))
  else (false, agents)

end Agents

end FluxIP
