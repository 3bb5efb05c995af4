import FluxIP.Domain.Events

/-!
# The session protocol between backend and agent
-/

namespace FluxIP

def PROTOCOL_MIN_VERSION : Nat := 1
def PROTOCOL_MAX_VERSION : Nat := 1

/-! ## Snapshots -/

structure SnapshotEntry where
  deviceName : String
  ips : List String
  deriving DecidableEq, Repr

structure SnapshotGroup where
  key : String
  entries : List SnapshotEntry
  deriving DecidableEq, Repr

structure SnapshotContent where
  providerName : String
  groups : List SnapshotGroup
  deriving DecidableEq, Repr

structure SnapshotPayload extends SnapshotContent where
  version : Nat
  correlationId : Id
  generatedAt : Timestamp
  deriving DecidableEq, Repr

/-! ## Messages -/

structure HelloMessage where
  protocolVersion : Nat
  agentVersion : String
  maxOfflineSeconds : Nat := 0
  heartbeatSeconds : Nat := 0
  maxSnapshotBytes : Nat := 0
  providerName : String := ""
  acceptedVersion : Nat := 0
  deriving DecidableEq, Repr

inductive ReportResult where
  | ok
  | error
  | ignoredStale
  deriving DecidableEq, Repr

structure ReportMessage where
  version : Nat
  correlationId : Id
  result : ReportResult
  error : String
  agentVersion : String
  stale : Bool
  files : List FileChecksum
  templates : List FileChecksum
  traefikCheck : Option TraefikCheckResult
  deriving DecidableEq, Repr

inductive AgentMessage where
  | hello (message : HelloMessage)
  | snapshot (payload : SnapshotPayload)
  | report (message : ReportMessage)
  | heartbeat (nonce : Nat)
  | syncRequest
  | bye (reason : String)
  deriving DecidableEq, Repr

/-! ## How a session ends -/

inductive CloseCode where
  | ok
  | unauthenticated
  | failedPrecondition
  | aborted
  | unavailable
  | deadlineExceeded
  | internal
  deriving DecidableEq, Repr

structure CloseReason where
  code : CloseCode
  message : String
  disconnect : DisconnectReason
  deriving DecidableEq, Repr

end FluxIP
