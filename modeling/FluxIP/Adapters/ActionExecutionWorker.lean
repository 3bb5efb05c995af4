import FluxIP.Adapters.HetznerDns
import FluxIP.Adapters.HetznerFirewall
import FluxIP.Domain.Replay

/-!
# The action execution worker

One attempt of an execution job.  `AttemptClock` holds what the attempt reads
from the clock for the events it appends.
-/

namespace FluxIP

open Async

structure ActionExecutionWorkerDeps where
  executors : (type : ActionType) → Option (ActionExecutor type)
  notificationChannels : String → Bool
  sourceLabel : String

/-- The executors the process registers: one per Hetzner API, none for Traefik
delivery. -/
def registeredExecutors : (type : ActionType) → Option (ActionExecutor type)
  | .hetznerCloudDnsUpdate => some hetznerDnsExecutor
  | .hetznerCloudFirewallRuleUpdate => some hetznerFirewallExecutor
  | .traefikConfigDelivery => none

/-- The name of an action type in messages. -/
def ActionType.name : ActionType → String
  | .hetznerCloudDnsUpdate => "hetzner_cloud_dns_update"
  | .hetznerCloudFirewallRuleUpdate => "hetzner_cloud_firewall_rule_update"
  | .traefikConfigDelivery => "traefik_config_delivery"

def ExecutionOutcome.name : ExecutionOutcome → String
  | .succeeded => "succeeded"
  | .failed => "failed"

structure AttemptClock where
  startedAt : Timestamp := 0
  completedAt : Timestamp := 0
  failedAt : Timestamp := 0
  appliedAt : Timestamp := 0
  sentAt : Timestamp := 0
  deriving DecidableEq, Repr

/-- One delivery of a job: `attempt` is `job.attemptsMade + 1`, `maxAttempts`
is `job.opts.attempts ?? 1`. -/
structure Delivery where
  data : ActionExecutionJobData
  attempt : Nat
  maxAttempts : Nat
  clock : AttemptClock := {}
  deriving DecidableEq, Repr

def loadExecution (accountId executionId : Id) :
    Backend (LoadAggregateResult ActionExecutionState) :=
  loadAggregate ⟨accountId, .actionExecution, executionId⟩
    initialActionExecutionState actionExecutionReducer

def nextSequence (accountId executionId : Id) : Backend Nat := do
  let loaded ← loadExecution accountId executionId
  pure (loaded.version + 1)

def appendExecutionEvent (accountId executionId : Id)
    (event : ActionExecutionEvent) : Backend Unit := do
  let expectedSequenceNumber ← nextSequence accountId executionId
  let _ ← Backend.append
    { aggregateType := .actionExecution
      aggregateId := executionId
      accountId
      expectedSequenceNumber
      data := .actionExecution event }
  pure ()

def upsertExecutionProjection (accountId : Id) (state : ActionExecutionState) :
    Backend Unit :=
  match state.toSummary with
  | none => pure ()
  | some summary =>
      Backend.hset (.executions accountId summary.actionId)
        summary.executionId (.execution summary)

def refreshExecutionProjection (accountId executionId : Id) :
    Backend Unit := do
  let loaded ← loadExecution accountId executionId
  upsertExecutionProjection accountId loaded.state

/-- The client's preference wants to hear of this outcome. -/
def NotificationPreference.wants (preference : NotificationPreference)
    (outcome : ExecutionOutcome) : Bool :=
  match preference, outcome with
  | .off, _ => false
  | .failuresOnly, .succeeded => false
  | .failuresOnly, .failed => true
  | .all, _ => true

/-- The channel a notification goes to, if there is an active one with an
address. -/
def NotificationChannelState.destination (channel : NotificationChannelState) :
    Option Id :=
  match channel.channelId, channel.status, channel.addresses with
  | some channelId, .active, _ :: _ => some channelId
  | _, _, _ => none

/-- The `try` block of `maybeSendNotification`. -/
def sendNotification (deps : ActionExecutionWorkerDeps) (delivery : Delivery)
    (outcome : ExecutionOutcome) : Backend Unit := do
  let data := delivery.data
  let client ← loadIpClient data.accountId data.ipClientId
  if client.state.notificationPreference.wants outcome then
    let loaded ← loadAggregate
      ⟨data.accountId, .notificationChannel, data.accountId⟩
      initialNotificationChannelState notificationChannelReducer
    let channel := loaded.state
    match channel.destination with
    | none => pure ()
    | some channelId =>
        if deps.notificationChannels channel.type then
          Backend.send channel.type
            { addresses := channel.addresses
              subject := "FluxIP: Action execution " ++ outcome.name
              body := "Execution " ++ toString data.executionId ++
                " for IP Client " ++ toString data.ipClientId ++ " " ++
                outcome.name ++ "." }
          appendExecutionEvent data.accountId data.executionId
            (.notificationSent channelId outcome delivery.clock.sentAt)
        else pure ()
  else pure ()

def maybeSendNotification (deps : ActionExecutionWorkerDeps)
    (delivery : Delivery) (outcome : ExecutionOutcome) : Backend Unit :=
  Program.tryCatch (sendNotification deps delivery outcome) fun _ => pure ()

/-- The secret of a credential that is stored and not revoked. -/
def ProviderCredentialState.activeSecret (state : ProviderCredentialState) :
    Option String :=
  match truthy state.encryptedSecret, state.status with
  | some secret, .active => some secret
  | _, _ => none

/-- The first step of both `resolve…ExecutorConfig` functions. -/
def resolveApiToken (accountId providerCredentialId : Id) :
    Backend String := do
  let credential ← loadProviderCredential accountId providerCredentialId
  match credential.state.activeSecret with
  | none =>
      Backend.throw "Provider Credential is missing or has been revoked"
  | some apiToken => pure apiToken

def resolveDnsExecutorConfig (deps : ActionExecutionWorkerDeps)
    (accountId : Id) (config : UpdateDnsRecordConfig) :
    Backend HetznerDnsResolvedConfig := do
  let apiToken ← resolveApiToken accountId config.providerCredentialId
  pure
    { apiToken
      zoneName := config.zone
      recordName := config.recordName
      sourceLabel := deps.sourceLabel }

def resolveFirewallExecutorConfig (accountId : Id)
    (config : UpdateFirewallRuleConfig) (previousEntries : FamilyValues) :
    Backend HetznerFirewallResolvedConfig := do
  let apiToken ← resolveApiToken accountId config.providerCredentialId
  pure
    { apiToken
      accountId
      firewallId := config.firewallId
      direction := config.direction
      protocol := config.protocol
      port := config.port
      description := config.description
      previousEntries }

/-- A config of a shape its action type never has. -/
def wrongShape {α : Type} : Backend α :=
  Backend.throw "Provider Credential is missing or has been revoked"

/-- The `resolvedConfig` of the executor for this type. -/
def resolveExecutorConfig (deps : ActionExecutionWorkerDeps) (accountId : Id)
    (config : ActionConfig) (firewallOwnedEntries : FamilyValues) :
    (type : ActionType) → Backend (ResolvedConfig type)
  | .hetznerCloudDnsUpdate =>
      match config.asDns with
      | some config => resolveDnsExecutorConfig deps accountId config
      | none => wrongShape
  | .hetznerCloudFirewallRuleUpdate =>
      match config.asFirewall with
      | some config =>
          resolveFirewallExecutorConfig accountId config firewallOwnedEntries
      | none => wrongShape
  | .traefikConfigDelivery => pure ()

/-- The data of a `firewall_rule_applied` event. -/
def firewallRuleAppliedData (delivery : Delivery)
    (ipValues : IpValuesUsed) : ActionFirewallRuleAppliedData where
  actionId := delivery.data.actionId
  ipv4 := (HetznerFirewallExecutor.added ipValues).ipv4
  ipv6 := (HetznerFirewallExecutor.added ipValues).ipv6
  appliedAt := delivery.clock.appliedAt

/-- One pass of the loop of `appendFirewallRuleAppliedEventBestEffort`. -/
def appendFirewallRuleApplied (delivery : Delivery)
    (ipValues : IpValuesUsed) : Backend Unit := do
  let data := delivery.data
  let loaded ← loadAction data.accountId data.actionId
  let _ ← Backend.append
    { aggregateType := .action
      aggregateId := data.actionId
      accountId := data.accountId
      expectedSequenceNumber := loaded.version + 1
      data := .action
        (.firewallRuleApplied (firewallRuleAppliedData delivery ipValues)) }
  pure ()

/-- Two passes at most: only a version conflict of the first one leads to the
second.  Whatever else happens is logged. -/
def appendFirewallRuleAppliedEventBestEffort (delivery : Delivery)
    (ipValues : IpValuesUsed) : Backend Unit := do
  let first ← (appendFirewallRuleApplied delivery ipValues).attempt
  match first with
  | .error (.concurrency _ _ _) => do
      let _ ← (appendFirewallRuleApplied delivery ipValues).attempt
      pure ()
  | _ => pure ()

/-- The families of the action that are among the reported addresses. -/
def relevantIpValues (addressFamilies : List AddressFamily)
    (ipValues : IpValuesUsed) : IpValuesUsed where
  ipv4 := if .ipv4 ∈ addressFamilies then ipValues.ipv4 else none
  ipv6 := if .ipv6 ∈ addressFamilies then ipValues.ipv6 else none

/-- Some family of the action has no reported address. -/
def missingFamily (addressFamilies : List AddressFamily)
    (ipValues : IpValuesUsed) : Bool :=
  addressFamilies.any fun family => (truthy (ipValues.get family)).isNone

/-- The `try` block: execute and record. -/
def executeAndRecord (deps : ActionExecutionWorkerDeps) (delivery : Delivery)
    (type : ActionType) (config : ActionConfig) (action : ActionState)
    (executor : ActionExecutor type) : Backend Unit := do
  let data := delivery.data
  let ipValues := relevantIpValues action.addressFamilies data.ipValues
  let resolvedConfig ← resolveExecutorConfig deps data.accountId config
    action.firewallOwnedEntries type
  Backend.invoke data.executionId
  let result ← executor.execute resolvedConfig ipValues
  appendExecutionEvent data.accountId data.executionId
    (.succeeded ⟨delivery.clock.completedAt, result.summary⟩)
  Program.onlyIf (type = .hetznerCloudFirewallRuleUpdate)
    (appendFirewallRuleAppliedEventBestEffort delivery ipValues)
  refreshExecutionProjection data.accountId data.executionId
  maybeSendNotification deps delivery .succeeded

/-- The `catch` block: record the failure and rethrow. -/
def recordFailure (deps : ActionExecutionWorkerDeps) (delivery : Delivery)
    (error : Err) : Backend Unit := do
  let data := delivery.data
  let isFinalAttempt := decide (delivery.maxAttempts ≤ delivery.attempt)
  appendExecutionEvent data.accountId data.executionId
    (.failed ⟨delivery.attempt, error.message, isFinalAttempt,
      delivery.clock.failedAt⟩)
  refreshExecutionProjection data.accountId data.executionId
  Program.onlyIf isFinalAttempt (maybeSendNotification deps delivery .failed)
  .fail error

def missingFamilyMessage : String :=
  "Required address family missing from the reported IP change"

/-- An address family the action needs was not reported. -/
def failMissingFamily (deps : ActionExecutionWorkerDeps)
    (delivery : Delivery) : Backend Unit := do
  let data := delivery.data
  appendExecutionEvent data.accountId data.executionId
    (.failed ⟨delivery.attempt, missingFamilyMessage, true,
      delivery.clock.failedAt⟩)
  refreshExecutionProjection data.accountId data.executionId
  maybeSendNotification deps delivery .failed

/-- What an attempt does with the action it has loaded. -/
def executeAction (deps : ActionExecutionWorkerDeps) (delivery : Delivery)
    (action : ActionState) : Backend Unit :=
  match action.actionId, action.status, action.config, action.type with
  | some _, .enabled, some config, some type =>
      if missingFamily action.addressFamilies delivery.data.ipValues then
        failMissingFamily deps delivery
      else
        match deps.executors type with
        | none =>
            Backend.throw ("No ActionExecutor registered for type \"" ++
              type.name ++ "\"")
        | some executor =>
            Program.tryCatch
              (executeAndRecord deps delivery type config action executor)
              (recordFailure deps delivery)
  | _, _, _, _ => pure ()

def startedData (delivery : Delivery) : ActionExecutionStartedData where
  executionId := delivery.data.executionId
  accountId := delivery.data.accountId
  actionId := delivery.data.actionId
  ipClientId := delivery.data.ipClientId
  triggeredBy := delivery.data.triggeredBy
  causationEventId := delivery.data.causationEventId
  ipValuesUsed := delivery.data.ipValues
  attempt := delivery.attempt
  startedAt := delivery.clock.startedAt

/-- The processor of the action execution queue. -/
def processExecution (deps : ActionExecutionWorkerDeps)
    (delivery : Delivery) : Backend Unit := do
  let data := delivery.data
  appendExecutionEvent data.accountId data.executionId
    (.started (startedData delivery))
  let loaded ← loadAction data.accountId data.actionId
  executeAction deps delivery loaded.state

/-- A job of the action execution queue, with all its attempts. -/
def executionJob (deps : ActionExecutionWorkerDeps)
    (data : ActionExecutionJobData) (attempts : Nat)
    (clock : Nat → AttemptClock) : Backend Unit :=
  Program.retrying
    (fun attempt => processExecution deps
      { data, attempt, maxAttempts := attempts, clock := clock attempt })
    1 attempts

end FluxIP
