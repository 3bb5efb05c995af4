import FluxIP.Domain.Events

/-!
# Aggregate states

The state each stream folds to, and its reducer.  A reducer leaves the state
alone on every event it does not name.
-/

namespace FluxIP

/-! ## Accounts -/

inductive AccountStatus where
  | active
  | closed
  deriving DecidableEq, Repr

structure AccountState where
  accountId : Option Id := none
  deviceLimit : Nat := 0
  status : AccountStatus := .active
  deriving DecidableEq, Repr

def initialAccountState : AccountState := {}

def accountReducer (state : AccountState) (event : StoredEvent) :
    AccountState :=
  match event.data with
  | .account (.registered accountId deviceLimit _) =>
      { accountId := some accountId, deviceLimit, status := .active }
  | .account (.deviceLimitOverridden _ _ newLimit _ _) =>
      { state with deviceLimit := newLimit }
  | .account (.closed _ _) => { state with status := .closed }
  | _ => state

/-! ## IP clients -/

inductive IpClientStatus where
  | enabled
  | disabled
  | decommissioned
  deriving DecidableEq, Repr

structure IpClientState where
  ipClientId : Option Id := none
  accountId : Option Id := none
  label : String := ""
  credentialHash : Option String := none
  status : IpClientStatus := .enabled
  lastKnownIPv4 : Option String := none
  lastKnownIPv6 : Option String := none
  notificationPreference : NotificationPreference := .off
  deriving DecidableEq, Repr

def initialIpClientState : IpClientState := {}

def ipClientReducer (state : IpClientState) (event : StoredEvent) :
    IpClientState :=
  match event.data with
  | .ipClient (.registered ipClientId accountId label credentialHash _) =>
      { state with
        ipClientId := some ipClientId
        accountId := some accountId
        label
        credentialHash := some credentialHash
        status := .enabled }
  | .ipClient (.credentialRotated credentialHash _) =>
      { state with credentialHash := some credentialHash }
  | .ipClient (.enabled _) => { state with status := .enabled }
  | .ipClient (.disabled _) => { state with status := .disabled }
  | .ipClient (.decommissioned _) => { state with status := .decommissioned }
  | .ipClient (.ipChanged data) =>
      { state with
        lastKnownIPv4 := data.newIPv4 <|> state.lastKnownIPv4
        lastKnownIPv6 := data.newIPv6 <|> state.lastKnownIPv6 }
  | .ipClient (.notificationPreferenceSet preference) =>
      { state with notificationPreference := preference }
  | _ => state

/-! ## Action executions -/

inductive ActionExecutionStatus where
  | running
  | succeeded
  | failed
  deriving DecidableEq, Repr

structure ActionExecutionState where
  executionId : Option Id := none
  accountId : Option Id := none
  actionId : Option Id := none
  ipClientId : Option Id := none
  triggeredBy : Option TriggeredBy := none
  causationEventId : Option Id := none
  ipValuesUsed : IpValuesUsed := {}
  attempt : Nat := 0
  status : ActionExecutionStatus := .running
  error : Option String := none
  startedAt : Option Timestamp := none
  completedAt : Option Timestamp := none
  failedAt : Option Timestamp := none
  deriving DecidableEq, Repr

def initialActionExecutionState : ActionExecutionState := {}

def actionExecutionReducer (state : ActionExecutionState)
    (event : StoredEvent) : ActionExecutionState :=
  match event.data with
  | .actionExecution (.started data) =>
      { state with
        executionId := some data.executionId
        accountId := some data.accountId
        actionId := some data.actionId
        ipClientId := some data.ipClientId
        triggeredBy := some data.triggeredBy
        causationEventId := some data.causationEventId
        ipValuesUsed := data.ipValuesUsed
        attempt := data.attempt
        status := .running
        startedAt := some data.startedAt }
  | .actionExecution (.succeeded data) =>
      { state with
        status := .succeeded
        error := none
        completedAt := some data.completedAt }
  | .actionExecution (.failed data) =>
      { state with
        status := .failed
        attempt := data.attempt
        error := some data.error
        failedAt := some data.failedAt }
  | _ => state

/-! ## Provider credentials and notification channels -/

inductive RevocableStatus where
  | active
  | revoked
  deriving DecidableEq, Repr

structure ProviderCredentialState where
  credentialId : Option Id := none
  accountId : Option Id := none
  provider : String := ""
  label : String := ""
  encryptedSecret : Option String := none
  secretLast4 : String := ""
  status : RevocableStatus := .active
  deriving DecidableEq, Repr

def initialProviderCredentialState : ProviderCredentialState := {}

def providerCredentialReducer (state : ProviderCredentialState)
    (event : StoredEvent) : ProviderCredentialState :=
  match event.data with
  | .providerCredential
      (.stored credentialId accountId provider label encryptedSecret
        secretLast4 _) =>
      { credentialId := some credentialId
        accountId := some accountId
        provider
        label
        encryptedSecret := some encryptedSecret
        secretLast4
        status := .active }
  | .providerCredential (.rotated encryptedSecret _) =>
      { state with encryptedSecret := some encryptedSecret }
  | .providerCredential (.revoked _) => { state with status := .revoked }
  | _ => state

structure NotificationChannelState where
  channelId : Option Id := none
  accountId : Option Id := none
  type : String := ""
  addresses : List String := []
  status : RevocableStatus := .active
  deriving DecidableEq, Repr

def initialNotificationChannelState : NotificationChannelState := {}

def notificationChannelReducer (state : NotificationChannelState)
    (event : StoredEvent) : NotificationChannelState :=
  match event.data with
  | .notificationChannel (.registered channelId accountId type addresses _) =>
      { channelId := some channelId
        accountId := some accountId
        type
        addresses
        status := .active }
  | .notificationChannel (.reconfigured addresses _) =>
      { state with addresses }
  | .notificationChannel (.revoked _) => { state with status := .revoked }
  | _ => state

/-! ## Actions -/

inductive ActionStatus where
  | enabled
  | disabled
  | detached
  deriving DecidableEq, Repr

/-- `firewallOwnedEntries` is the CIDR the action itself last recorded as
written, per address family; it says nothing about which rule it was written
to. -/
structure ActionState where
  actionId : Option Id := none
  accountId : Option Id := none
  ipClientId : Option Id := none
  type : Option ActionType := none
  addressFamilies : List AddressFamily := []
  config : Option ActionConfig := none
  status : ActionStatus := .enabled
  firewallOwnedEntries : FamilyValues := {}
  deriving DecidableEq, Repr

def initialActionState : ActionState := {}

def actionReducer (state : ActionState) (event : StoredEvent) : ActionState :=
  match event.data with
  | .action (.attached data) =>
      { state with
        actionId := some data.actionId
        accountId := some data.accountId
        ipClientId := some data.ipClientId
        type := some data.type
        addressFamilies := data.addressFamilies
        config := some data.config
        status := .enabled }
  | .action (.reconfigured data) =>
      { state with
        addressFamilies := data.addressFamilies.getD state.addressFamilies
        config := data.config <|> state.config }
  | .action (.enabled _) => { state with status := .enabled }
  | .action (.disabled _) => { state with status := .disabled }
  | .action (.detached _) => { state with status := .detached }
  | .action (.firewallRuleApplied data) =>
      { state with
        firewallOwnedEntries :=
          { ipv4 := data.ipv4 <|> state.firewallOwnedEntries.ipv4
            ipv6 := data.ipv6 <|> state.firewallOwnedEntries.ipv6 } }
  | _ => state

end FluxIP
