import FluxIP.Domain.Replay

/-!
# Running an action by hand
-/

namespace FluxIP

open Async

namespace ActionRun

/-- The last known addresses a manual run uses. -/
def knownAddresses (state : IpClientState) : IpValuesUsed :=
  ⟨state.lastKnownIPv4, state.lastKnownIPv6⟩

/-- The client an action can be run for, or the status of the refusal. -/
def runnable (accountId : Id) (state : ActionState) : Except Nat Id :=
  if state.actionId.isSome ∧ state.accountId = some accountId then
    if state.type = some .traefikConfigDelivery then .error 409
    else
      match state.status, state.ipClientId with
      | .enabled, some ipClientId => .ok ipClientId
      | _, _ => .error 409
  else .error 404

/-- The route once the action is known to be enabled. -/
def enqueue (accountId actionId ipClientId : Id) : Backend Nat := do
  let client ← loadIpClient accountId ipClientId
  if (truthy client.state.lastKnownIPv4).isNone &&
      (truthy client.state.lastKnownIPv6).isNone then pure 409
  else
    let executionId ← Backend.ulid
    let causationEventId ← Backend.ulid
    Backend.addExecution (.manual executionId)
      { accountId
        executionId
        actionId
        ipClientId
        causationEventId
        triggeredBy := .manual
        ipValues := knownAddresses client.state }
    pure 202

/-- `POST /actions/:id/run` -/
def run (accountId actionId : Id) : Backend Nat := do
  let loaded ← loadAction accountId actionId
  match runnable accountId loaded.state with
  | .error status => pure status
  | .ok ipClientId => enqueue accountId actionId ipClientId

end ActionRun

end FluxIP
