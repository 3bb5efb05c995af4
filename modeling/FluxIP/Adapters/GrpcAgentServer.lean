import FluxIP.Adapters.SnapshotPublisher

/-!
# The agent server and its sessions

A stream is authenticated and opened; from then on each message, each end of
the transport and each tick of the heartbeat is handled on its own, as the
event loop does.  `now` is what a step reads from the clock.
-/

namespace FluxIP

open Async

/-! ## The throttle -/

namespace RedisAuthThrottle

def THROTTLE_MAX_FAILURES : Nat := 10
def THROTTLE_WINDOW_SECONDS : Nat := 300

def isBlocked (source : String) : Backend Bool := do
  let count ← Backend.getCounter source
  pure (decide (THROTTLE_MAX_FAILURES ≤ count))

def recordFailure (source : String) : Backend Unit := do
  let count ← Backend.incr source
  Program.onlyIf (count = 1) (Backend.expire source THROTTLE_WINDOW_SECONDS)

end RedisAuthThrottle

/-! ## Opening a stream -/

/-- The metadata of a call: the provider it names, its `authorization` header,
and where it comes from. -/
structure SessionCall where
  provider : Option Id
  authorization : String
  source : String
  deriving DecidableEq, Repr

/-- `throttled` tells whether a throttle is configured, `hashAgentToken` is the
SHA-256 of a token. -/
structure GrpcAgentServerDeps where
  throttled : Bool
  hashAgentToken : String → String
  publisher : SnapshotPublisherDeps
  agentHeartbeatSeconds : Nat
  serverVersion : String

structure AgentAuth where
  accountId : Id
  providerId : Id
  tokenId : Id
  deriving DecidableEq, Repr

inductive Authentication where
  | throttled
  | rejected
  | authenticated (auth : AgentAuth)
  deriving DecidableEq, Repr

/-- The token a header presents, empty if it is no bearer token. -/
def presentedToken (header : String) : String :=
  if String.ofList ((header.toList.take 7).map Char.toLower) = "bearer " then
    trim (String.ofList (header.toList.drop 7))
  else ""

/-- The active token a presented one is verified against. -/
def verifiedToken (deps : GrpcAgentServerDeps) (state : TraefikProviderState)
    (presented : String) : Option ProviderTokenState :=
  (activeTokens state).find? (·.hash = deps.hashAgentToken presented)

namespace GrpcAgentServer

def reject (deps : GrpcAgentServerDeps) (source : String) :
    Backend Authentication := do
  Program.onlyIf deps.throttled (RedisAuthThrottle.recordFailure source)
  pure .rejected

/-- The checks after the throttle. -/
def verify (deps : GrpcAgentServerDeps) (call : SessionCall) :
    Backend Authentication :=
  let presented := presentedToken call.authorization
  match call.provider with
  | none => reject deps call.source
  | some providerId =>
      if presented = "" then reject deps call.source
      else do
        let account ← Backend.resolveAccountId .traefikProvider providerId
        match account with
        | none => reject deps call.source
        | some accountId =>
            let loaded ← ProviderStore.loadActive accountId providerId
            match loaded.bind (verifiedToken deps ·.state presented) with
            | none => reject deps call.source
            | some token =>
                pure (.authenticated ⟨accountId, providerId, token.tokenId⟩)

def authenticate (deps : GrpcAgentServerDeps) (call : SessionCall) :
    Backend Authentication :=
  if deps.throttled then do
    let blocked ← RedisAuthThrottle.isBlocked call.source
    if blocked then pure .throttled else verify deps call
  else verify deps call

/-- `onSession`: the stream of an authenticated call gets its channel and its
handler. -/
def onSession (deps : GrpcAgentServerDeps) (call : SessionCall)
    (now : Timestamp) : Backend Unit := do
  let authentication ← authenticate deps call
  match authentication with
  | .authenticated auth =>
      Backend.memory
        (.openSession auth.providerId auth.accountId auth.tokenId now)
  | _ => pure ()

end GrpcAgentServer

/-! ## The session handler -/

namespace AgentSessionHandler

def sendCurrentSnapshot (deps : GrpcAgentServerDeps) (auth : AgentAuth)
    (sessionId : Id) (now : Timestamp) : Backend Unit := do
  let snapshot ← SnapshotPublisher.publishNow deps.publisher auth.accountId
    auth.providerId now
  match snapshot with
  | none => pure ()
  | some payload =>
      Backend.memory (.sendAgent sessionId (.snapshot payload))

/-- The server's `hello`. -/
def helloMessage (deps : GrpcAgentServerDeps) (providerName : String)
    (accepted : Nat) : HelloMessage where
  protocolVersion := PROTOCOL_MAX_VERSION
  agentVersion := deps.serverVersion
  maxOfflineSeconds := 0
  heartbeatSeconds := deps.agentHeartbeatSeconds
  maxSnapshotBytes := deps.publisher.agentSnapshotMaxBytes
  providerName
  acceptedVersion := accepted

/-- `onHello` after the session is registered. -/
def afterHello (deps : GrpcAgentServerDeps) (auth : AgentAuth)
    (sessionId : Id) (data : TraefikProviderAgentConnectedData)
    (now : Timestamp) : Backend Unit := do
  let _ ← ProviderStore.append auth.accountId auth.providerId
    (.agentConnected data)
  Backend.memory (.recordConnected sessionId)
  let loaded ← ProviderStore.loadActive auth.accountId auth.providerId
  Backend.memory (.sendAgent sessionId (.hello (helloMessage deps
    ((loaded.map (·.state.name)).getD "") data.protocolVersion)))
  sendCurrentSnapshot deps auth sessionId now
  Backend.memory (.startHeartbeat sessionId deps.agentHeartbeatSeconds)

def appliedData (report : ReportMessage) (now : Timestamp) :
    TraefikProviderSnapshotAppliedData where
  version := report.version
  correlationId := report.correlationId
  agentVersion := report.agentVersion
  stale := report.stale
  files := report.files
  templates := report.templates
  traefikCheck := report.traefikCheck
  appliedAt := now

def applyFailedData (report : ReportMessage) (now : Timestamp) :
    TraefikProviderSnapshotApplyFailedData where
  version := report.version
  correlationId := report.correlationId
  reason := (truthy (some report.error)).getD "unknown error"
  appliedAt := now

/-- The event a report is recorded as. -/
def reportEvent (report : ReportMessage) (now : Timestamp) :
    Option TraefikProviderEvent :=
  match report.result with
  | .ignoredStale => none
  | .ok => some (.snapshotApplied (appliedData report now))
  | .error => some (.snapshotApplyFailed (applyFailedData report now))

def onReport (auth : AgentAuth) (report : ReportMessage) (now : Timestamp) :
    Backend Unit :=
  match reportEvent report now with
  | none => pure ()
  | some event => do
      let _ ← ProviderStore.append auth.accountId auth.providerId event
      pure ()

/-- `process` after its part that awaits nothing. -/
def afterProcess (deps : GrpcAgentServerDeps) (auth : AgentAuth)
    (sessionId : Id) (now : Timestamp) : Agents.Processing → Backend Unit
  | .finished => pure ()
  | .connected data => afterHello deps auth sessionId data now
  | .reported report => onReport auth report now
  | .syncRequested => sendCurrentSnapshot deps auth sessionId now

def process (deps : GrpcAgentServerDeps) (auth : AgentAuth) (sessionId : Id)
    (message : AgentMessage) (now : Timestamp) : Backend Unit := do
  let processing ← Backend.memory (.process sessionId message now)
  afterProcess deps auth sessionId now processing

def internalError : CloseReason := ⟨.internal, "internal error", .error⟩

/-- `handle`: messages take turns on the chain of their session. -/
def handle (deps : GrpcAgentServerDeps) (auth : AgentAuth) (sessionId : Id)
    (message : AgentMessage) (now : Timestamp) : Backend Unit :=
  KeyedMutex.run (.chain sessionId)
    (Program.tryCatch (process deps auth sessionId message now) fun _ =>
      Backend.memory (.terminate sessionId internalError))

/-- What `onClosed` does after its claim to record the disconnect. -/
def recordDisconnect (auth : AgentAuth) (sessionId : Id)
    (effective : CloseReason) (now : Timestamp) : Backend Unit := do
  let stillThere ← ProviderStore.load auth.accountId auth.providerId
  match stillThere.state.providerId with
  | none => pure ()
  | some _ =>
      Program.tryCatch
        (do
          let _ ← ProviderStore.append auth.accountId auth.providerId
            (.agentDisconnected ⟨sessionId, effective.disconnect, now⟩)
          pure ())
        fun _ => pure ()

/-- `onClosed` after its first step: wait for the chain, then record. -/
def afterClosed (auth : AgentAuth) (sessionId : Id) (now : Timestamp) :
    Backend Unit := do
  let effective ← Backend.memory (.closed sessionId)
  KeyedMutex.run (.chain sessionId) (pure ())
  let claimed ← Backend.memory (.claimDisconnect sessionId)
  Program.onlyIf claimed (recordDisconnect auth sessionId effective now)

end AgentSessionHandler

/-! ## The snapshot coordinator -/

namespace SnapshotCoordinator

def push (providerId : Id) (snapshot : SnapshotPayload) : Backend Unit :=
  Backend.memory (.push providerId (.snapshot snapshot))

/-- The `try` block of `run`. -/
def publishAndPush (deps : GrpcAgentServerDeps) (accountId providerId : Id)
    (causationIds : List Id) (now : Timestamp) : Backend Unit := do
  let result ← SnapshotPublisher.publish deps.publisher accountId providerId
    causationIds.getLast? causationIds.dropLast now
  match result with
  | none => pure ()
  | some result =>
      Program.onlyIf result.changed (push providerId result.snapshot)

/-- `run` for a provider whose collapsed triggers have these causes. -/
def run (deps : GrpcAgentServerDeps) (accountId providerId : Id)
    (causationIds : List Id) (now : Timestamp) : Backend Unit :=
  Program.tryCatch
    (publishAndPush deps accountId providerId causationIds now)
    fun _ => pure ()

/-- One provider of the periodic resync. -/
def resync (deps : GrpcAgentServerDeps) (accountId providerId : Id)
    (now : Timestamp) : Backend Unit :=
  Program.tryCatch
    (do
      let result ← SnapshotPublisher.publish deps.publisher accountId
        providerId none [] now
      match result with
      | none => pure ()
      | some result => push providerId result.snapshot)
    fun _ => pure ()

end SnapshotCoordinator

end FluxIP
