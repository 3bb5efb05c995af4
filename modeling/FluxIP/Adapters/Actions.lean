import FluxIP.Adapters.HetznerFirewall
import FluxIP.Domain.DeliveryActions
import FluxIP.Domain.ProviderStore
import FluxIP.Domain.Text

/-!
# The routes of the actions

The routes that write.  A route returns its HTTP status; `now` is what it
reads from the clock.
-/

namespace FluxIP

open Async

/-- A group name: 1 to 63 lowercase letters, digits, `.`, `_` or `-`, the first
one a letter or a digit. -/
def GROUP_PATTERN (group : String) : Bool :=
  match group.toList with
  | [] => false
  | first :: rest =>
      (first.isLower || first.isDigit) && decide (rest.length ≤ 62) &&
        rest.all fun c => c.isLower || c.isDigit || c ∈ ['.', '_', '-']

/-- The `config` of a request body, each field as far as it is there. -/
structure ActionConfigBody where
  providerCredentialId : Option Id := none
  zone : Option String := none
  recordName : Option String := none
  firewallId : Option Nat := none
  direction : Option Direction := none
  protocol : Option Protocol := none
  port : Option String := none
  description : Option String := none
  traefikProviderId : Option Id := none
  group : Option String := none
  deriving DecidableEq, Repr

/-- The body of `POST`; an unknown type is no type. -/
structure AttachBody where
  type : Option ActionType := none
  addressFamilies : Option (List AddressFamily) := none
  config : Option ActionConfigBody := none
  deriving DecidableEq, Repr

/-- The body of `PUT`. -/
structure ReconfigureBody where
  addressFamilies : Option (List AddressFamily) := none
  config : Option ActionConfigBody := none
  deriving DecidableEq, Repr

/-- `snapshots` tells whether a snapshot scheduler is configured, `providers`
whether a provider store is. -/
structure ActionsRouteDeps where
  providers : Bool
  snapshots : Bool
  deriving DecidableEq, Repr

namespace Actions

/-! ## Snapshots and projections -/

/-- The provider a delivery action delivers to. -/
def deliveryTarget (state : ActionState) : Option Id :=
  if state.type = some .traefikConfigDelivery then
    (state.config.bind ActionConfig.asDelivery).map (·.traefikProviderId)
  else none

/-- The ids `scheduleDelivery` collects. -/
def deliveryTargets (states : List ActionState) : List Id :=
  (states.filterMap deliveryTarget).eraseDups

def scheduleDelivery (deps : ActionsRouteDeps) (accountId : Id)
    (states : List ActionState) : Backend Unit :=
  Program.onlyIf deps.snapshots
    (Program.onlyIf (deliveryTargets states ≠ [])
      (Backend.schedule accountId (deliveryTargets states) none))

def currentState (accountId actionId : Id) : Backend ActionState := do
  let loaded ← loadAction accountId actionId
  pure loaded.state

def upsertActionProjection (accountId : Id) (state : ActionState) :
    Backend Unit :=
  match state.toSummary with
  | none => pure ()
  | some summary =>
      if summary.status = .detached then
        Backend.hdel (.actions accountId summary.ipClientId) summary.actionId
      else
        Backend.hset (.actions accountId summary.ipClientId) summary.actionId
          (.action summary)

def refreshProjection (accountId actionId : Id) : Backend Unit := do
  let loaded ← loadAction accountId actionId
  upsertActionProjection accountId loaded.state

/-! ## Validation -/

/-- The device already delivers to the provider, through another action than
the one to ignore. -/
def clashes (existing : List DeliveryAction)
    (ipClientId : Option Id) (traefikProviderId : Id)
    (ignoreActionId : Option Id) : Bool :=
  existing.any fun action =>
    some action.ipClientId = ipClientId ∧
      action.traefikProviderId = traefikProviderId ∧
      some action.actionId ≠ ignoreActionId

/-- The config of a delivery action, or the status of the refusal. -/
def validateDeliveryConfig (deps : ActionsRouteDeps) (accountId : Id)
    (ipClientId : Option Id) (raw : Option ActionConfigBody)
    (ignoreActionId : Option Id) :
    Backend (Except Nat TraefikConfigDeliveryConfig) :=
  if deps.providers then
    let group := trim ((raw.bind (·.group)).getD "")
    match raw.bind (·.traefikProviderId) with
    | none => pure (.error 422)
    | some traefikProviderId =>
        if GROUP_PATTERN group then do
          let provider ← ProviderStore.loadActive accountId traefikProviderId
          if provider.isNone then pure (.error 404)
          else
            let existing ← listDeliveryActions accountId
            if clashes existing ipClientId traefikProviderId ignoreActionId
            then pure (.error 409)
            else pure (.ok ⟨traefikProviderId, group⟩)
        else pure (.error 422)
  else pure (.error 500)

/-- The token of a credential that is owned, active and there. -/
def activeToken (accountId : Id) (state : ProviderCredentialState) :
    Option String :=
  if state.credentialId.isSome ∧ state.accountId = some accountId ∧
      state.status = .active then
    truthy state.encryptedSecret
  else none

def loadOwnedActiveCredential (accountId : Id) :
    Option Id → Backend (Option String)
  | none => pure none
  | some credentialId => do
      let loaded ← loadProviderCredential accountId credentialId
      pure (activeToken accountId loaded.state)

def UpdateFirewallRuleConfig.selector (config : UpdateFirewallRuleConfig) :
    RuleSelector where
  direction := config.direction
  protocol := config.protocol
  port := config.port
  description := config.description

/-- The status of the refusal, if the selector is refused. -/
def validateFirewallSelector (apiToken : String)
    (config : UpdateFirewallRuleConfig) : Backend (Option Nat) := do
  let rules ← (Backend.getFirewall apiToken config.firewallId).attempt
  match rules with
  | .error _ => pure (some 400)
  | .ok rules =>
      match matchFirewallRule rules
        (UpdateFirewallRuleConfig.selector config) with
      | .rule _ => pure none
      | _ => pure (some 422)

/-- The config of a DNS action as `POST` requires it. -/
def requiredDns (config : ActionConfigBody) : Option ActionConfig :=
  match config.providerCredentialId, truthy config.zone,
      truthy config.recordName with
  | some providerCredentialId, some zone, some recordName =>
      some (.dns ⟨providerCredentialId, some zone, some recordName⟩)
  | _, _, _ => none

/-- The config of a firewall action: firewall id, direction, protocol and
description are required. -/
def requiredFirewall (config : ActionConfigBody) :
    Option UpdateFirewallRuleConfig :=
  match config.providerCredentialId, config.firewallId.filter (· ≠ 0),
      config.direction, config.protocol, truthy config.description with
  | some providerCredentialId, some firewallId, some direction, some protocol,
      some description => some
        { providerCredentialId
          firewallId
          direction
          protocol
          port := config.port
          description }
  | _, _, _, _, _ => none

/-- The checks of a firewall config: the credential, then the selector. -/
def validateFirewallConfig (accountId : Id)
    (config : UpdateFirewallRuleConfig) :
    Backend (Except Nat ActionConfig) := do
  let credential ←
    loadOwnedActiveCredential accountId (some config.providerCredentialId)
  match credential with
  | none => pure (.error 400)
  | some apiToken =>
      let refusal ← validateFirewallSelector apiToken config
      match refusal with
      | some status => pure (.error status)
      | none => pure (.ok (.firewall config))

/-! ## Cleaning up -/

/-- The recorded entries of some families. -/
def ownedEntries (state : ActionState) (families : List AddressFamily) :
    FamilyValues where
  ipv4 := if .ipv4 ∈ families then truthy state.firewallOwnedEntries.ipv4
    else none
  ipv6 := if .ipv6 ∈ families then truthy state.firewallOwnedEntries.ipv6
    else none

def cleanupConfig (accountId : Id) (apiToken : String)
    (config : UpdateFirewallRuleConfig) : HetznerFirewallResolvedConfig where
  apiToken := apiToken
  accountId := accountId
  firewallId := config.firewallId
  direction := config.direction
  protocol := config.protocol
  port := config.port
  description := config.description
  previousEntries := {}

def cleanupFirewallEntries (accountId : Id)
    (config : UpdateFirewallRuleConfig) (remove : FamilyValues) :
    Backend Unit := do
  let credential ←
    loadOwnedActiveCredential accountId (some config.providerCredentialId)
  match credential with
  | none => pure ()
  | some apiToken =>
      Program.tryCatch
        (applyFirewallRuleUpdate (cleanupConfig accountId apiToken config)
          remove {})
        fun _ => pure ()

/-- One attempt, whose exception is logged. -/
def cleanupFirewallEntriesBestEffort (accountId : Id) (state : ActionState)
    (families : List AddressFamily) : Backend Unit :=
  if ownedEntries state families = {} then pure ()
  else
    match state.config.bind ActionConfig.asFirewall with
    | none => pure ()
    | some config =>
        cleanupFirewallEntries accountId config (ownedEntries state families)

/-! ## Attaching -/

def appendInput (accountId actionId : Id) (version : Nat)
    (event : ActionEvent) : AppendEventInput where
  aggregateType := .action
  aggregateId := actionId
  accountId := accountId
  expectedSequenceNumber := version + 1
  data := .action event

/-- A traefik delivery action delivers every address the device has. -/
def attachedFamilies (body : AttachBody) : List AddressFamily :=
  if body.type = some .traefikConfigDelivery then [.ipv4, .ipv6]
  else body.addressFamilies.getD []

/-- The device an action can be attached to. -/
def attachable (accountId : Id) (device : IpClientState) : Bool :=
  device.ipClientId.isSome ∧ device.accountId = some accountId ∧
    device.status ≠ .decommissioned

/-- The checks of `POST` for each type, with the config to store. -/
def validateAttach (deps : ActionsRouteDeps) (accountId ipClientId : Id)
    (config : Option ActionConfigBody) :
    ActionType → Backend (Except Nat ActionConfig)
  | .traefikConfigDelivery => do
      let device ← loadIpClient accountId ipClientId
      if attachable accountId device.state then
        let validation ← validateDeliveryConfig deps accountId
          (some ipClientId) config none
        pure (validation.map ActionConfig.delivery)
      else pure (.error 404)
  | .hetznerCloudDnsUpdate =>
      match config.bind requiredDns with
      | none => pure (.error 400)
      | some required => do
          let credential ← loadOwnedActiveCredential accountId
            required.providerCredentialId
          pure (if credential.isNone then .error 400 else .ok required)
  | .hetznerCloudFirewallRuleUpdate =>
      match config.bind requiredFirewall with
      | none => pure (.error 400)
      | some required => validateFirewallConfig accountId required

/-- `POST` with a valid body. -/
def attachValid (deps : ActionsRouteDeps) (accountId ipClientId : Id)
    (type : ActionType) (addressFamilies : List AddressFamily)
    (config : ActionConfig) (now : Timestamp) : Backend Nat := do
  let actionId ← Backend.ulid
  let _ ← Backend.append (appendInput accountId actionId 0 (.attached
    { actionId
      accountId
      ipClientId
      type
      addressFamilies
      config
      attachedAt := now }))
  refreshProjection accountId actionId
  let state ← currentState accountId actionId
  scheduleDelivery deps accountId [state]
  pure 201

/-- `POST /ip-clients/:ipClientId/actions` -/
def attach (deps : ActionsRouteDeps) (accountId ipClientId : Id)
    (body : AttachBody) (now : Timestamp) : Backend Nat :=
  match body.type with
  | none => pure 400
  | some type =>
      if attachedFamilies body = [] then pure 400
      else do
        let validation ←
          validateAttach deps accountId ipClientId body.config type
        match validation with
        | .error status => pure status
        | .ok config =>
            attachValid deps accountId ipClientId type (attachedFamilies body)
              config now

/-! ## Reconfiguring -/

/-- The action exists and belongs to the account. -/
def owns (accountId : Id) (state : ActionState) : Bool :=
  state.actionId.isSome ∧ state.accountId = some accountId

def loadOwnedAction (accountId actionId : Id) :
    Backend (Option (LoadAggregateResult ActionState)) := do
  let loaded ← loadAction accountId actionId
  pure (if owns accountId loaded.state then some loaded else none)

/-- The checks of `PUT` for a config that names a credential: an action that is
no firewall action stores it without looking at the rest. -/
def validateCredentialConfig (accountId : Id) (type : Option ActionType)
    (config : ActionConfigBody) : Backend (Except Nat ActionConfig) :=
  match config.providerCredentialId with
  | none => pure (.error 400)
  | some providerCredentialId => do
      let credential ←
        loadOwnedActiveCredential accountId (some providerCredentialId)
      match credential with
      | none => pure (.error 400)
      | some apiToken =>
          if type = some .hetznerCloudFirewallRuleUpdate then
            match requiredFirewall config with
            | none => pure (.error 400)
            | some required =>
                let refusal ← validateFirewallSelector apiToken required
                match refusal with
                | some status => pure (.error status)
                | none => pure (.ok (.firewall required))
          else
            pure (.ok (.dns
              ⟨providerCredentialId, config.zone, config.recordName⟩))

/-- The checks of `PUT`, with the config to store, if the body has one. -/
def validateReconfigure (deps : ActionsRouteDeps) (accountId actionId : Id)
    (state : ActionState) :
    Option ActionConfigBody → Backend (Except Nat (Option ActionConfig))
  | none => pure (.ok none)
  | some config =>
      if state.type = some .traefikConfigDelivery then do
        let validation ← validateDeliveryConfig deps accountId
          state.ipClientId (some config) (some actionId)
        pure (validation.map fun config => some (.delivery config))
      else do
        let validation ←
          validateCredentialConfig accountId state.type config
        pure (validation.map some)

/-- The families `PUT` records: none for a delivery action. -/
def reconfiguredFamilies (state : ActionState) (body : ReconfigureBody) :
    Option (List AddressFamily) :=
  if state.type = some .traefikConfigDelivery then none
  else body.addressFamilies

/-- The families a reconfiguration drops. -/
def droppedFamilies (state : ActionState)
    (addressFamilies : List AddressFamily) : List AddressFamily :=
  state.addressFamilies.filter (· ∉ addressFamilies)

def cleanupDropped (accountId : Id) (state : ActionState) :
    Option (List AddressFamily) → Backend Unit
  | none => pure ()
  | some addressFamilies =>
      Program.onlyIf (state.type = some .hetznerCloudFirewallRuleUpdate)
        (cleanupFirewallEntriesBestEffort accountId state
          (droppedFamilies state addressFamilies))

/-- `PUT` with a valid body. -/
def reconfigureValid (deps : ActionsRouteDeps) (accountId actionId : Id)
    (owned : LoadAggregateResult ActionState) (body : ReconfigureBody)
    (config : Option ActionConfig) (now : Timestamp) : Backend Nat := do
  let _ ← Backend.append (appendInput accountId actionId owned.version
    (.reconfigured
      { addressFamilies := reconfiguredFamilies owned.state body
        config
        reconfiguredAt := now }))
  refreshProjection accountId actionId
  let state ← currentState accountId actionId
  scheduleDelivery deps accountId [owned.state, state]
  cleanupDropped accountId owned.state body.addressFamilies
  pure 200

/-- `PUT /actions/:id` -/
def reconfigure (deps : ActionsRouteDeps) (accountId actionId : Id)
    (body : ReconfigureBody) (now : Timestamp) : Backend Nat := do
  let owned ← loadOwnedAction accountId actionId
  match owned with
  | none => pure 404
  | some owned =>
      if body.addressFamilies = some [] then pure 400
      else
        let validation ← validateReconfigure deps accountId actionId
          owned.state body.config
        match validation with
        | .error status => pure status
        | .ok config =>
            reconfigureValid deps accountId actionId owned body config now

/-! ## Enabling, disabling and detaching -/

/-- What the three routes that change the status of an action share: they
append `event` unless the action is detached, and answer `atEnd` then. -/
def changeStatus (deps : ActionsRouteDeps) (accountId actionId : Id)
    (event : ActionEvent) (atEnd : Nat)
    (afterwards : ActionState → Backend Unit) : Backend Nat := do
  let owned ← loadOwnedAction accountId actionId
  match owned with
  | none => pure 404
  | some owned =>
      if owned.state.status = .detached then pure atEnd
      else
        let _ ← Backend.append
          (appendInput accountId actionId owned.version event)
        refreshProjection accountId actionId
        scheduleDelivery deps accountId [owned.state]
        afterwards owned.state
        pure 200

/-- `POST /actions/:id/enable` -/
def enable (deps : ActionsRouteDeps) (accountId actionId : Id) : Backend Nat :=
  changeStatus deps accountId actionId (.enabled actionId) 409
    fun _ => pure ()

/-- `POST /actions/:id/disable` -/
def disable (deps : ActionsRouteDeps) (accountId actionId : Id) :
    Backend Nat :=
  changeStatus deps accountId actionId (.disabled actionId) 409
    fun _ => pure ()

/-- What `DELETE` removes from the rule of a firewall action. -/
def cleanupDetached (accountId : Id) (state : ActionState) : Backend Unit :=
  Program.onlyIf (state.type = some .hetznerCloudFirewallRuleUpdate)
    (cleanupFirewallEntriesBestEffort accountId state [.ipv4, .ipv6])

/-- `DELETE /actions/:id` -/
def detach (deps : ActionsRouteDeps) (accountId actionId : Id)
    (now : Timestamp) : Backend Nat :=
  changeStatus deps accountId actionId (.detached now) 200
    (cleanupDetached accountId)

/-! ## The calls they make -/

theorem upsertActionProjection_quiet (accountId : Id) (state : ActionState) :
    (upsertActionProjection accountId state).Calls
      fun call => Backend.quiet call = true := by
  unfold upsertActionProjection
  split
  · trivial
  split
  · exact Backend.quiet_call _ rfl
  · exact Backend.quiet_call _ rfl

theorem refreshProjection_quiet (accountId actionId : Id) :
    (refreshProjection accountId actionId).Calls
      fun call => Backend.quiet call = true := by
  apply Program.Calls.bind
  · exact Backend.quiet_of_reads (loadAggregate_reads _ _ _)
  · exact fun loaded => upsertActionProjection_quiet accountId loaded.state

theorem currentState_reads (accountId actionId : Id) :
    (currentState accountId actionId).Calls
      fun call => Backend.reads call = true := by
  apply Program.Calls.bind (loadAggregate_reads _ _ _)
  exact fun _ => trivial

theorem scheduleDelivery_quiet (deps : ActionsRouteDeps) (accountId : Id)
    (states : List ActionState) :
    (scheduleDelivery deps accountId states).Calls
      fun call => Backend.quiet call = true :=
  Program.Calls.onlyIf (Program.Calls.onlyIf (Backend.quiet_call _ rfl))

theorem validateDeliveryConfig_reads (deps : ActionsRouteDeps)
    (accountId : Id) (ipClientId : Option Id) (raw : Option ActionConfigBody)
    (ignoreActionId : Option Id) :
    (validateDeliveryConfig deps accountId ipClientId raw
      ignoreActionId).Calls fun call => Backend.reads call = true := by
  unfold validateDeliveryConfig
  split
  · dsimp only
    split
    · trivial
    split
    · apply Program.Calls.bind (ProviderStore.loadActive_reads _ _)
      intro provider
      split
      · trivial
      apply Program.Calls.bind (listDeliveryActions_reads _)
      intro existing
      split <;> trivial
    · trivial
  · trivial

theorem loadOwnedActiveCredential_reads (accountId : Id)
    (credentialId : Option Id) :
    (loadOwnedActiveCredential accountId credentialId).Calls
      fun call => Backend.reads call = true := by
  cases credentialId with
  | none => trivial
  | some credentialId =>
      apply Program.Calls.bind (loadAggregate_reads _ _ _)
      exact fun _ => trivial

theorem validateFirewallSelector_quiet (apiToken : String)
    (config : UpdateFirewallRuleConfig) :
    (validateFirewallSelector apiToken config).Calls
      fun call => Backend.quiet call = true := by
  apply Program.Calls.bind
  · apply Program.Calls.attempt
    exact Backend.quiet_call _ rfl
  intro rules
  split
  · trivial
  split <;> trivial

theorem validateFirewallConfig_quiet (accountId : Id)
    (config : UpdateFirewallRuleConfig) :
    (validateFirewallConfig accountId config).Calls
      fun call => Backend.quiet call = true := by
  apply Program.Calls.bind
  · exact Backend.quiet_of_reads (loadOwnedActiveCredential_reads _ _)
  intro credential
  split
  · trivial
  apply Program.Calls.bind (validateFirewallSelector_quiet _ _)
  intro refusal
  split <;> trivial

theorem validateAttach_quiet (deps : ActionsRouteDeps)
    (accountId ipClientId : Id) (config : Option ActionConfigBody)
    (type : ActionType) :
    (validateAttach deps accountId ipClientId config type).Calls
      fun call => Backend.quiet call = true := by
  cases type with
  | traefikConfigDelivery =>
      apply Program.Calls.bind
      · exact Backend.quiet_of_reads (loadAggregate_reads _ _ _)
      intro device
      split
      · apply Program.Calls.bind
        · exact Backend.quiet_of_reads
            (validateDeliveryConfig_reads _ _ _ _ _)
        · exact fun _ => trivial
      · trivial
  | hetznerCloudDnsUpdate =>
      simp only [validateAttach]
      split
      · trivial
      apply Program.Calls.bind
      · exact Backend.quiet_of_reads (loadOwnedActiveCredential_reads _ _)
      · exact fun _ => trivial
  | hetznerCloudFirewallRuleUpdate =>
      simp only [validateAttach]
      split
      · trivial
      · exact validateFirewallConfig_quiet _ _

theorem validateCredentialConfig_quiet (accountId : Id)
    (type : Option ActionType) (config : ActionConfigBody) :
    (validateCredentialConfig accountId type config).Calls
      fun call => Backend.quiet call = true := by
  unfold validateCredentialConfig
  split
  · trivial
  apply Program.Calls.bind
  · exact Backend.quiet_of_reads (loadOwnedActiveCredential_reads _ _)
  intro credential
  split
  · trivial
  split
  · split
    · trivial
    apply Program.Calls.bind (validateFirewallSelector_quiet _ _)
    intro refusal
    split <;> trivial
  · trivial

theorem validateReconfigure_quiet (deps : ActionsRouteDeps)
    (accountId actionId : Id) (state : ActionState)
    (config : Option ActionConfigBody) :
    (validateReconfigure deps accountId actionId state config).Calls
      fun call => Backend.quiet call = true := by
  cases config with
  | none => trivial
  | some config =>
      simp only [validateReconfigure]
      split
      · apply Program.Calls.bind
        · exact Backend.quiet_of_reads
            (validateDeliveryConfig_reads _ _ _ _ _)
        · exact fun _ => trivial
      · apply Program.Calls.bind (validateCredentialConfig_quiet _ _ _)
        exact fun _ => trivial

theorem cleanup_quiet (accountId : Id) (state : ActionState)
    (families : List AddressFamily) :
    (cleanupFirewallEntriesBestEffort accountId state families).Calls
      fun call => Backend.quiet call = true := by
  unfold cleanupFirewallEntriesBestEffort
  split
  · trivial
  split
  · trivial
  apply Program.Calls.bind
  · exact Backend.quiet_of_reads (loadOwnedActiveCredential_reads _ _)
  intro credential
  split
  · trivial
  apply Program.Calls.tryCatch
  · apply (applyFirewallRuleUpdate_external _ _ _).mono
    exact fun _ => Call.quiet_of_ofExecutor
  · exact fun _ => trivial

theorem cleanupDropped_quiet (accountId : Id) (state : ActionState)
    (addressFamilies : Option (List AddressFamily)) :
    (cleanupDropped accountId state addressFamilies).Calls
      fun call => Backend.quiet call = true := by
  cases addressFamilies with
  | none => trivial
  | some addressFamilies =>
      exact Program.Calls.onlyIf (cleanup_quiet _ _ _)

end Actions

end FluxIP
