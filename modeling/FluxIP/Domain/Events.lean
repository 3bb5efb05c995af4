/-!
# Domain events

The seven event vocabularies of the backend, one inductive type per aggregate,
and the stored event that carries one of them.  The name of an event is its
constructor; its data are the constructor's fields.  Identifiers (ULIDs, and
the identity provider's subject for an account) are only ever compared, so
they are natural numbers here.  Points in time are milliseconds.
-/

namespace FluxIP

abbrev Id := Nat
abbrev Timestamp := Nat

inductive AddressFamily where
  | ipv4
  | ipv6
  deriving DecidableEq, Repr

/-- A record `{ ipv4?: string; ipv6?: string }`. -/
structure FamilyValues where
  ipv4 : Option String := none
  ipv6 : Option String := none
  deriving DecidableEq, Repr

def FamilyValues.get (values : FamilyValues) : AddressFamily → Option String
  | .ipv4 => values.ipv4
  | .ipv6 => values.ipv6

def FamilyValues.set (values : FamilyValues) (family : AddressFamily)
    (value : Option String) : FamilyValues :=
  match family with
  | .ipv4 => { values with ipv4 := value }
  | .ipv6 => { values with ipv6 := value }

/-- `Object.values(record)` -/
def FamilyValues.values (values : FamilyValues) : List String :=
  values.ipv4.toList ++ values.ipv6.toList

/-- A string that is present and not empty, as JavaScript's truth test sees it. -/
def truthy : Option String → Option String
  | some "" => none
  | value => value

theorem truthy_eq_some {value : Option String} {text : String} :
    truthy value = some text ↔
      value = some text ∧ text ≠ "" := by
  unfold truthy
  split
  · simp [eq_comm]
  · rename_i other
    constructor
    · intro same
      refine ⟨same, ?_⟩
      intro empty
      subst empty
      exact other same
    · exact fun both => both.1

abbrev IpValuesUsed := FamilyValues

/-! ## Accounts -/

inductive AccountEvent where
  | registered (accountId : Id) (deviceLimit : Nat) (registeredAt : Timestamp)
  | deviceLimitOverridden (accountId : Id) (previousLimit newLimit : Nat)
      (overriddenBy : String) (overriddenAt : Timestamp)
  | closed (accountId : Id) (closedAt : Timestamp)
  deriving DecidableEq, Repr

/-! ## IP clients -/

inductive NotificationPreference where
  | off
  | failuresOnly
  | all
  deriving DecidableEq, Repr

structure IpClientIpChangedData where
  previousIPv4 : Option String
  newIPv4 : Option String
  previousIPv6 : Option String
  newIPv6 : Option String
  settledAt : Timestamp
  deriving DecidableEq, Repr

structure IpClientIpReportReceivedData where
  reportedIPv4 : Option String
  reportedIPv6 : Option String
  receivedAt : Timestamp
  deriving DecidableEq, Repr

inductive IpClientEvent where
  | registered (ipClientId accountId : Id) (label credentialHash : String)
      (registeredAt : Timestamp)
  | credentialRotated (credentialHash : String) (rotatedAt : Timestamp)
  | enabled (ipClientId : Id)
  | disabled (ipClientId : Id)
  | decommissioned (decommissionedAt : Timestamp)
  | ipReportReceived (data : IpClientIpReportReceivedData)
  | ipChanged (data : IpClientIpChangedData)
  | notificationPreferenceSet (preference : NotificationPreference)
  deriving DecidableEq, Repr

/-! ## Actions -/

/-- The three action types the attach route accepts. -/
inductive ActionType where
  | hetznerCloudDnsUpdate
  | hetznerCloudFirewallRuleUpdate
  | traefikConfigDelivery
  deriving DecidableEq, Repr

/-- `PUT /actions/:id` stores the config of a DNS action without looking at
`zone` and `recordName`, so either may be absent. -/
structure UpdateDnsRecordConfig where
  providerCredentialId : Id
  zone : Option String
  recordName : Option String
  deriving DecidableEq, Repr

inductive Direction where
  | in
  | out
  deriving DecidableEq, Repr

inductive Protocol where
  | tcp
  | udp
  | icmp
  | esp
  | ah
  | gre
  deriving DecidableEq, Repr

structure UpdateFirewallRuleConfig where
  providerCredentialId : Id
  firewallId : Nat
  direction : Direction
  protocol : Protocol
  port : Option String
  description : String
  deriving DecidableEq, Repr

structure TraefikConfigDeliveryConfig where
  traefikProviderId : Id
  group : String
  deriving DecidableEq, Repr

inductive ActionConfig where
  | dns (config : UpdateDnsRecordConfig)
  | firewall (config : UpdateFirewallRuleConfig)
  | delivery (config : TraefikConfigDeliveryConfig)
  deriving DecidableEq, Repr

/-- `"providerCredentialId" in config`, with the id it finds. -/
def ActionConfig.providerCredentialId : ActionConfig → Option Id
  | .dns config => some config.providerCredentialId
  | .firewall config => some config.providerCredentialId
  | .delivery _ => none

/-- `config as UpdateDnsRecordConfig`: the fields another shape lacks are
undefined. -/
def ActionConfig.asDns : ActionConfig → Option UpdateDnsRecordConfig
  | .dns config => some config
  | .firewall config => some ⟨config.providerCredentialId, none, none⟩
  | .delivery _ => none

/-- `config as UpdateFirewallRuleConfig`, for the shapes the routes let into a
firewall action. -/
def ActionConfig.asFirewall : ActionConfig → Option UpdateFirewallRuleConfig
  | .firewall config => some config
  | _ => none

def ActionConfig.asDelivery : ActionConfig → Option TraefikConfigDeliveryConfig
  | .delivery config => some config
  | _ => none

structure ActionAttachedData where
  actionId : Id
  accountId : Id
  ipClientId : Id
  type : ActionType
  addressFamilies : List AddressFamily
  config : ActionConfig
  attachedAt : Timestamp
  deriving DecidableEq, Repr

structure ActionReconfiguredData where
  addressFamilies : Option (List AddressFamily)
  config : Option ActionConfig
  reconfiguredAt : Timestamp
  deriving DecidableEq, Repr

structure ActionFirewallRuleAppliedData where
  actionId : Id
  ipv4 : Option String
  ipv6 : Option String
  appliedAt : Timestamp
  deriving DecidableEq, Repr

inductive ActionEvent where
  | attached (data : ActionAttachedData)
  | reconfigured (data : ActionReconfiguredData)
  | enabled (actionId : Id)
  | disabled (actionId : Id)
  | detached (detachedAt : Timestamp)
  | firewallRuleApplied (data : ActionFirewallRuleAppliedData)
  deriving DecidableEq, Repr

/-! ## Action executions -/

inductive TriggeredBy where
  | ipChange
  | manual
  deriving DecidableEq, Repr

structure ActionExecutionStartedData where
  executionId : Id
  accountId : Id
  actionId : Id
  ipClientId : Id
  triggeredBy : TriggeredBy
  causationEventId : Id
  ipValuesUsed : IpValuesUsed
  attempt : Nat
  startedAt : Timestamp
  deriving DecidableEq, Repr

structure ActionExecutionSucceededData where
  completedAt : Timestamp
  providerResponseSummary : String
  deriving DecidableEq, Repr

structure ActionExecutionFailedData where
  attempt : Nat
  error : String
  retriesExhausted : Bool
  failedAt : Timestamp
  deriving DecidableEq, Repr

/-- How an execution ended, as a notification names it. -/
inductive ExecutionOutcome where
  | succeeded
  | failed
  deriving DecidableEq, Repr

inductive ActionExecutionEvent where
  | started (data : ActionExecutionStartedData)
  | succeeded (data : ActionExecutionSucceededData)
  | failed (data : ActionExecutionFailedData)
  | notificationSent (channelId : Id) (outcomeNotified : ExecutionOutcome)
      (sentAt : Timestamp)
  deriving DecidableEq, Repr

/-! ## Provider credentials and notification channels -/

/-- A stored secret is represented by the token it decrypts to. -/
inductive ProviderCredentialEvent where
  | stored (credentialId accountId : Id)
      (provider label encryptedSecret secretLast4 : String)
      (storedAt : Timestamp)
  | rotated (encryptedSecret : String) (rotatedAt : Timestamp)
  | revoked (revokedAt : Timestamp)
  deriving DecidableEq, Repr

inductive NotificationChannelEvent where
  | registered (channelId accountId : Id) (type : String)
      (addresses : List String) (registeredAt : Timestamp)
  | reconfigured (addresses : List String) (reconfiguredAt : Timestamp)
  | revoked (revokedAt : Timestamp)
  deriving DecidableEq, Repr

/-! ## Traefik providers -/

inductive ConnectionMode where
  | agentInitiated
  | serverInitiated
  deriving DecidableEq, Repr

structure TraefikProviderCreatedData where
  providerId : Id
  accountId : Id
  name : String
  connectionMode : ConnectionMode
  createdAt : Timestamp
  deriving DecidableEq, Repr

structure TraefikProviderTokenIssuedData where
  tokenId : Id
  tokenHash : String
  last4 : String
  issuedAt : Timestamp
  deriving DecidableEq, Repr

structure TraefikProviderTokenRevokedData where
  tokenId : Id
  revokedAt : Timestamp
  deriving DecidableEq, Repr

structure TraefikProviderSnapshotPublishedData where
  contentHash : String
  groupCount : Nat
  entryCount : Nat
  correlationId : Id
  absorbedCausationIds : List Id
  publishedAt : Timestamp
  deriving DecidableEq, Repr

inductive PublishFailure where
  | tooLarge
  | internal
  deriving DecidableEq, Repr

structure TraefikProviderSnapshotPublishFailedData where
  reason : PublishFailure
  correlationId : Id
  absorbedCausationIds : List Id
  failedAt : Timestamp
  deriving DecidableEq, Repr

inductive DisconnectReason where
  | closed
  | superseded
  | revoked
  | timeout
  | error
  deriving DecidableEq, Repr

structure TraefikProviderAgentConnectedData where
  sessionId : Id
  tokenId : Id
  agentVersion : String
  protocolVersion : Nat
  maxOfflineSeconds : Nat
  replacedPrevious : Bool
  connectedAt : Timestamp
  deriving DecidableEq, Repr

structure TraefikProviderAgentDisconnectedData where
  sessionId : Id
  reason : DisconnectReason
  disconnectedAt : Timestamp
  deriving DecidableEq, Repr

structure FileChecksum where
  name : String
  sha256 : String
  deriving DecidableEq, Repr

inductive TraefikCheckStatus where
  | ok
  | missing
  | unreachable
  deriving DecidableEq, Repr

structure TraefikCheckResult where
  status : TraefikCheckStatus
  loaded : List String
  missing : List String
  deriving DecidableEq, Repr

structure TraefikProviderSnapshotAppliedData where
  version : Nat
  correlationId : Id
  agentVersion : String
  stale : Bool
  files : List FileChecksum
  templates : List FileChecksum
  traefikCheck : Option TraefikCheckResult
  appliedAt : Timestamp
  deriving DecidableEq, Repr

structure TraefikProviderSnapshotApplyFailedData where
  version : Nat
  correlationId : Id
  reason : String
  appliedAt : Timestamp
  deriving DecidableEq, Repr

inductive TraefikProviderEvent where
  | created (data : TraefikProviderCreatedData)
  | renamed (name : String) (renamedAt : Timestamp)
  | deleted (deletedAt : Timestamp)
  | tokenIssued (data : TraefikProviderTokenIssuedData)
  | tokenRevoked (data : TraefikProviderTokenRevokedData)
  | snapshotPublished (data : TraefikProviderSnapshotPublishedData)
  | snapshotPublishFailed (data : TraefikProviderSnapshotPublishFailedData)
  | agentConnected (data : TraefikProviderAgentConnectedData)
  | agentDisconnected (data : TraefikProviderAgentDisconnectedData)
  | snapshotApplied (data : TraefikProviderSnapshotAppliedData)
  | snapshotApplyFailed (data : TraefikProviderSnapshotApplyFailedData)
  deriving DecidableEq, Repr

/-! ## Stored events -/

inductive AggregateType where
  | account
  | ipClient
  | action
  | actionExecution
  | providerCredential
  | notificationChannel
  | traefikProvider
  deriving DecidableEq, Repr

/-- The name an error message gives the aggregate type. -/
def AggregateType.name : AggregateType → String
  | .account => "account"
  | .ipClient => "ip_client"
  | .action => "action"
  | .actionExecution => "action_execution"
  | .providerCredential => "provider_credential"
  | .notificationChannel => "notification_channel"
  | .traefikProvider => "traefik_provider"

/-- The name and data of an event. -/
inductive EventData where
  | account (event : AccountEvent)
  | ipClient (event : IpClientEvent)
  | action (event : ActionEvent)
  | actionExecution (event : ActionExecutionEvent)
  | providerCredential (event : ProviderCredentialEvent)
  | notificationChannel (event : NotificationChannelEvent)
  | traefikProvider (event : TraefikProviderEvent)
  deriving DecidableEq, Repr

structure StoredEvent where
  id : Id
  aggregateType : AggregateType
  aggregateId : Id
  sequenceNumber : Nat
  accountId : Id
  data : EventData
  deriving DecidableEq, Repr

/-- An event to append, with the position its writer expects it to get.  The
ULID its writer draws for it is drawn by the insertion here. -/
structure AppendEventInput where
  aggregateType : AggregateType
  aggregateId : Id
  accountId : Id
  expectedSequenceNumber : Nat
  data : EventData
  deriving DecidableEq, Repr

/-- The stream an account-scoped read names. -/
structure ReadStreamParams where
  accountId : Id
  aggregateType : AggregateType
  aggregateId : Id
  deriving DecidableEq, Repr

end FluxIP
