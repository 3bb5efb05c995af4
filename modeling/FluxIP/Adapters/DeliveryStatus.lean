import FluxIP.Domain.TraefikProvider

/-!
# What the routes say about a provider's agent

The state of the connection and of an action's delivery, derived from the
folded provider and from whether a session is registered.
-/

namespace FluxIP

inductive ProviderConnectionState where
  | neverConnected
  | connected
  | disconnected
  | stale
  deriving DecidableEq, Repr

/-- Stale is disconnected for longer than the agent's own maximum. -/
def deriveConnectionState (processStartedAt : Timestamp)
    (state : TraefikProviderState) (connected : Bool) (now : Timestamp) :
    ProviderConnectionState :=
  if connected then .connected
  else
    match state.lastConnectedAt with
    | none => .neverConnected
    | some connectedAt =>
        let maxOffline := state.maxOfflineSeconds.getD 0 * 1000
        if maxOffline = 0 then .disconnected
        else
          let explicit := state.lastDisconnectedAt.getD 0
          let ended := max explicit connectedAt
          let since :=
            if state.lastPresence = .connected then max ended processStartedAt
            else ended
          if maxOffline < now - since then .stale else .disconnected

inductive DeliveryStatus where
  | applied
  | pending
  | error
  | agentDisconnected
  | disabled
  deriving DecidableEq, Repr

/-- The agent reports versions, so an action's status follows its provider's
state at the currently published version. -/
def deriveDeliveryStatus (processStartedAt : Timestamp)
    (state : TraefikProviderState) (connected actionEnabled : Bool)
    (now : Timestamp) : DeliveryStatus :=
  if !actionEnabled then .disabled
  else if deriveConnectionState processStartedAt state connected now ≠
      .connected then .agentDisconnected
  else
    match state.lastPublished with
    | none => .pending
    | some published =>
        if state.lastApplyError.any (published.version ≤ ·.version) then .error
        else if state.lastApplied.any (published.version ≤ ·.version) then
          .applied
        else .pending

/-- An action is applied when the version last reported as applied is no older
than the published one. -/
theorem applied_of_status {processStartedAt now : Timestamp}
    {state : TraefikProviderState} {connected actionEnabled : Bool}
    (status : deriveDeliveryStatus processStartedAt state connected
      actionEnabled now = .applied) :
    ∃ published applied, state.lastPublished = some published ∧
      state.lastApplied = some applied ∧
      published.version ≤ applied.version := by
  unfold deriveDeliveryStatus at status
  split at status
  · cases status
  split at status
  · cases status
  split at status
  · cases status
  · rename_i published found
    split at status
    · cases status
    split at status
    · rename_i reported
      cases last : state.lastApplied with
      | none => simp [last] at reported
      | some applied =>
          refine ⟨published, applied, found, rfl, ?_⟩
          simpa [last] using reported
    · cases status

end FluxIP
