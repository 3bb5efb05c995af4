import FluxIP.Domain.Aggregates
import Mathlib.Data.List.AList

/-!
# Projections

The disposable read models kept in Redis: one hash per list, one field per
aggregate, the summary as the value.
-/

namespace FluxIP

structure IpClientSummary where
  ipClientId : Id
  label : String
  status : IpClientStatus
  lastKnownIPv4 : Option String
  lastKnownIPv6 : Option String
  notificationPreference : NotificationPreference
  deriving DecidableEq, Repr

structure ActionSummary where
  actionId : Id
  ipClientId : Id
  type : ActionType
  addressFamilies : List AddressFamily
  config : Option ActionConfig
  status : ActionStatus
  deriving DecidableEq, Repr

structure ExecutionSummary where
  executionId : Id
  actionId : Id
  ipClientId : Id
  triggeredBy : Option TriggeredBy
  ipValuesUsed : IpValuesUsed
  status : ActionExecutionStatus
  attempt : Nat
  error : Option String
  startedAt : Option Timestamp
  completedAt : Option Timestamp
  failedAt : Option Timestamp
  deriving DecidableEq, Repr

def IpClientState.toSummary (state : IpClientState) : Option IpClientSummary :=
  state.ipClientId.map fun ipClientId =>
    { ipClientId
      label := state.label
      status := state.status
      lastKnownIPv4 := state.lastKnownIPv4
      lastKnownIPv6 := state.lastKnownIPv6
      notificationPreference := state.notificationPreference }

def ActionState.toSummary (state : ActionState) : Option ActionSummary :=
  match state.actionId, state.ipClientId, state.type with
  | some actionId, some ipClientId, some type => some
      { actionId
        ipClientId
        type
        addressFamilies := state.addressFamilies
        config := state.config
        status := state.status }
  | _, _, _ => none

def ActionExecutionState.toSummary (state : ActionExecutionState) :
    Option ExecutionSummary :=
  match state.executionId, state.actionId, state.ipClientId with
  | some executionId, some actionId, some ipClientId => some
      { executionId
        actionId
        ipClientId
        triggeredBy := state.triggeredBy
        ipValuesUsed := state.ipValuesUsed
        status := state.status
        attempt := state.attempt
        error := state.error
        startedAt := state.startedAt
        completedAt := state.completedAt
        failedAt := state.failedAt }
  | _, _, _ => none

/-- The name of a projection's hash. -/
inductive ProjectionKey where
  | ipClients (accountId : Id)
  | actions (accountId ipClientId : Id)
  | executions (accountId actionId : Id)
  deriving DecidableEq, Repr

def ProjectionKey.accountId : ProjectionKey → Id
  | .ipClients accountId => accountId
  | .actions accountId _ => accountId
  | .executions accountId _ => accountId

/-- The value stored under one field of a hash. -/
inductive ProjectionRow where
  | ipClient (summary : IpClientSummary)
  | action (summary : ActionSummary)
  | execution (summary : ExecutionSummary)
  deriving DecidableEq, Repr

/-- A Redis hash: its fields, each with a value. -/
abbrev ProjectionHash := AList fun _ : Id => ProjectionRow

end FluxIP
