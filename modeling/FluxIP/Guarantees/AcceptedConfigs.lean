import FluxIP.Guarantees.FirewallUpdates
import FluxIP.Guarantees.ReferentialIntegrity

/-!
# Accepted configs

`POST` and `PUT` check a config by branches of their own, and the reducer
merges what `PUT` stores over what was there.  What an action is configured
with is compared with what `POST` requires of an action of its type.
-/

namespace FluxIP

open Async

/-! ## What `POST` requires -/

/-- The token of an active credential was read. -/
def ReadsToken (accountId credentialId : Id) (apiToken : String)
    (history : BackendHistory) : Prop :=
  ∃ seen, readAs ⟨accountId, .providerCredential, credentialId⟩ seen ∈
      history ∧
    Actions.activeToken accountId (seen.foldl providerCredentialReducer
      initialProviderCredentialState) = some apiToken

/-- The rules of the firewall were read, and one of them is selected. -/
def ReadsOneRule (config : UpdateFirewallRuleConfig) (apiToken : String)
    (history : BackendHistory) : Prop :=
  ∃ rules rule, @Answered.mk backend Err
      (.hetzner (.getFirewall apiToken config.firewallId)) (.ok rules) ∈
        history ∧
    rules.filter (Actions.UpdateFirewallRuleConfig.selector config).matches =
      [rule]

/-- An active provider was read. -/
def ReadsProvider (accountId providerId : Id) (history : BackendHistory) :
    Prop :=
  ∃ seen, readAs ⟨accountId, .traefikProvider, providerId⟩ seen ∈ history ∧
    ProviderStore.isActive accountId (seen.foldl traefikProviderReducer
      initialTraefikProviderState) = true

/-- The delivery action that the events of an action show. -/
def deliveryActionOf (read : Id × List StoredEvent) : Option DeliveryAction :=
  (actionOf read.2).deliveryAction read.1

/-- The actions of the account were read, and none of them but `own` delivers
from the device to the provider. -/
def ReadsNoClash (accountId ipClientId providerId : Id) (own : Option Id)
    (history : BackendHistory) : Prop :=
  ∃ reads : List (Id × List StoredEvent),
    @Answered.mk backend Err (.store (.listAggregateIds accountId .action))
      (.ok (reads.map (·.1))) ∈ history ∧
    (∀ read ∈ reads,
      readAs ⟨accountId, .action, read.1⟩ read.2 ∈ history) ∧
    Actions.clashes (reads.filterMap deliveryActionOf) (some ipClientId)
      providerId own = false

/-- A config of the type's shape, with what was read to find it valid. -/
inductive ValidConfig (accountId ipClientId : Id) (own : Option Id)
    (history : BackendHistory) : ActionType → ActionConfig → Prop where
  | dns {credentialId zone recordName apiToken} :
      zone ≠ "" → recordName ≠ "" →
      ReadsToken accountId credentialId apiToken history →
      ValidConfig accountId ipClientId own history .hetznerCloudDnsUpdate
        (.dns ⟨credentialId, some zone, some recordName⟩)
  | firewall {config apiToken} :
      config.firewallId ≠ 0 → config.description ≠ "" →
      ReadsToken accountId config.providerCredentialId apiToken history →
      ReadsOneRule config apiToken history →
      ValidConfig accountId ipClientId own history
        .hetznerCloudFirewallRuleUpdate (.firewall config)
  | delivery {config} :
      GROUP_PATTERN config.group = true →
      ReadsProvider accountId config.traefikProviderId history →
      ReadsNoClash accountId ipClientId config.traefikProviderId own history →
      ValidConfig accountId ipClientId own history .traefikConfigDelivery
        (.delivery config)

/-- The families `POST` accepts for a type. -/
structure ValidFamilies (type : ActionType)
    (addressFamilies : List AddressFamily) : Prop where
  nonempty : addressFamilies ≠ []
  both : type = .traefikConfigDelivery → addressFamilies = [.ipv4, .ipv6]

/-- The request has stored the config, after what it had read showed it to be
valid. -/
def StoresValid (accountId ipClientId actionId : Id) (type : ActionType)
    (config : ActionConfig) (history : BackendHistory) : Prop :=
  ∃ before input answer after,
    history = before ++
      @Answered.mk backend Err (.store (.append input)) answer :: after ∧
    input.params = ⟨accountId, .action, actionId⟩ ∧
    input.data.givenConfig = some config ∧
    ValidConfig accountId ipClientId (some actionId) before type config

/-- The action has this device, type and config, as `POST` requires them. -/
structure ConfiguredAs (pool : BackendPool) (accountId actionId ipClientId : Id)
    (type : ActionType) (config : ActionConfig) (state : ActionState) :
    Prop where
  ofClient : state.ipClientId = some ipClientId
  ofType : state.type = some type
  hasConfig : state.config = some config
  families : ValidFamilies type state.addressFamilies
  stored : ∃ thread ∈ pool.threads,
    StoresValid accountId ipClientId actionId type config thread.history

/-- The action is configured as `POST` requires it of an action of its type. -/
def MeetsAttach (pool : BackendPool) (accountId actionId : Id) : Prop :=
  ∃ ipClientId type config, ConfiguredAs pool accountId actionId ipClientId
    type config (actionIn pool.state.store accountId actionId)

/-- The config has a zone and a record name. -/
def ActionConfigBody.namesRecord (config : ActionConfigBody) : Bool :=
  (truthy config.zone).isSome && (truthy config.recordName).isSome

/-- A `PUT` that stores a config of a DNS action names a zone and a record. -/
def namesRecords (pool : BackendPool) : Move BackendRequest Choice → Bool
  | .start _ => true
  | .advance index _ =>
      match pool.threads[index]? with
      | some ⟨⟨_, _, .action accountId (.reconfigure actionId body)⟩, _,
          .await (.store (.append _)) _⟩ =>
          decide ((actionIn pool.state.store accountId actionId).type ≠
            some .hetznerCloudDnsUpdate) ||
          body.config.all ActionConfigBody.namesRecord
      | _ => true

variable {deps : BackendDeps} {pool next : BackendPool}
variable {accountId actionId ipClientId : Id} {own : Option Id}
variable {history : BackendHistory} {type : ActionType}
variable {config : ActionConfig}

namespace AcceptedConfigs

/-! ## What lasts -/

theorem readsToken_lasting {credentialId : Id} {apiToken : String} :
    Lasting (ReadsToken accountId credentialId apiToken) := by
  intro history answered reads
  obtain ⟨seen, member, active⟩ := reads
  exact ⟨seen, List.mem_append_left _ member, active⟩

theorem readsProvider_lasting {providerId : Id} :
    Lasting (ReadsProvider accountId providerId) := by
  intro history answered reads
  obtain ⟨seen, member, active⟩ := reads
  exact ⟨seen, List.mem_append_left _ member, active⟩

theorem readsOneRule_lasting {config : UpdateFirewallRuleConfig}
    {apiToken : String} : Lasting (ReadsOneRule config apiToken) := by
  intro history answered reads
  obtain ⟨rules, rule, member, only⟩ := reads
  exact ⟨rules, rule, List.mem_append_left _ member, only⟩

theorem readsNoClash_lasting {providerId : Id} :
    Lasting (ReadsNoClash accountId ipClientId providerId own) := by
  intro history answered reads
  obtain ⟨actions, listed, read, free⟩ := reads
  refine ⟨actions, List.mem_append_left _ listed, ?_, free⟩
  exact fun action member => List.mem_append_left _ (read action member)

theorem validConfig_lasting :
    Lasting fun history =>
      ValidConfig accountId ipClientId own history type config := by
  intro history answered valid
  cases valid with
  | dns zone recordName token =>
      exact .dns zone recordName (readsToken_lasting _ _ token)
  | firewall firewallId description token rule =>
      exact .firewall firewallId description (readsToken_lasting _ _ token)
        (readsOneRule_lasting _ _ rule)
  | delivery group provider free =>
      exact .delivery group (readsProvider_lasting _ _ provider)
        (readsNoClash_lasting _ _ free)

theorem storesValid_lasting :
    Lasting (StoresValid accountId ipClientId actionId type config) := by
  intro history answered stores
  obtain ⟨before, input, answer, after, rfl, toAction, gives, valid⟩ := stores
  refine ⟨before, input, answer, after ++ [answered], ?_, toAction, gives,
    valid⟩
  rw [List.append_assoc, List.cons_append]

/-- What clashes with no action clashes with none but one. -/
theorem validConfig_ignoring (actionId : Id)
    (valid : ValidConfig accountId ipClientId none history type config) :
    ValidConfig accountId ipClientId (some actionId) history type config := by
  cases valid with
  | dns zone recordName token => exact .dns zone recordName token
  | firewall firewallId description token rule =>
      exact .firewall firewallId description token rule
  | delivery group provider reads =>
      obtain ⟨actions, listed, read, free⟩ := reads
      refine .delivery group provider ⟨actions, listed, read, ?_⟩
      apply List.any_eq_false.mpr
      intro action member clash
      have none := List.any_eq_false.mp free action member
      simp_all

/-! ## What the checks read -/

theorem foldr_deliveries (reads : List (Id × List StoredEvent)) :
    reads.foldr (fun read rest => ((replayed initialActionState actionReducer
      read.2).state.deliveryAction read.1).toList ++ rest) [] =
      reads.filterMap deliveryActionOf := by
  induction reads with
  | nil => rfl
  | cons read reads induction =>
      have shown : (replayed initialActionState actionReducer
          read.2).state.deliveryAction read.1 = deliveryActionOf read := rfl
      rw [List.foldr_cons, induction, List.filterMap_cons, shown]
      cases deliveryActionOf read with
      | none => rfl
      | some action => rfl

variable {allowed : BackendHistory → Call → Prop}

section Checks

variable (isAllowed : ∀ history call, Backend.quiet call = true →
  allowed history call)

include isAllowed in
theorem reads_allowed (history : BackendHistory) (call : Call)
    (isRead : Backend.reads call = true) : allowed history call :=
  isAllowed history call (Backend.quiet_of_read isRead)

include isAllowed in
theorem credential_traces (credentialId : Id) :
    (Actions.loadOwnedActiveCredential accountId (some credentialId)).Traces
      allowed (onReturn fun token later => ∀ apiToken, token = some apiToken →
        ReadsToken accountId credentialId apiToken later) history := by
  apply (load_traces _ _ (reads_allowed isAllowed)).seq
  intro loaded later loads apiToken active
  obtain ⟨seen, rfl, rfl⟩ := loads
  exact ⟨seen, List.mem_append_right _ List.mem_cons_self, active⟩

include isAllowed in
theorem provider_traces (providerId : Id) :
    (ProviderStore.loadActive accountId providerId).Traces allowed
      (onReturn fun loaded later => loaded.isSome = true →
        ReadsProvider accountId providerId later) history := by
  apply (load_traces _ _ (reads_allowed isAllowed)).seq
  intro loaded later loads isActive
  obtain ⟨seen, rfl, rfl⟩ := loads
  refine ⟨seen, List.mem_append_right _ List.mem_cons_self, ?_⟩
  split at isActive
  · assumption
  · cases isActive

include isAllowed in
theorem deliveries_trace :
    (listDeliveryActions accountId).Traces allowed
      (onReturn fun existing later => ∀ ipClientId providerId own,
        Actions.clashes existing (some ipClientId) providerId own = false →
        ReadsNoClash accountId ipClientId providerId own later) history := by
  apply Program.Traces.performing (isAllowed _ _ rfl)
  · intro ids
    apply ((deliveryActionsOf_loads accountId).traces
      (reads_allowed isAllowed) ids _).mono
    intro later result loads
    cases result with
    | error error => trivial
    | ok existing =>
        obtain ⟨reads, rfl, rfl, rfl⟩ := loads
        intro ipClientId providerId own free
        refine ⟨reads, ?_, ?_, ?_⟩
        · exact List.mem_append_left _
            (List.mem_append_right _ List.mem_cons_self)
        · intro read member
          exact List.mem_append_right _ (List.mem_map.mpr ⟨read, member, rfl⟩)
        · rw [← foldr_deliveries]
          exact free
  · exact fun _ => trivial

/-- What the selector test answers once the rules are read. -/
def selectorAnswer (config : UpdateFirewallRuleConfig)
    (rules : List HetznerFirewallRule) : Backend (Option Nat) :=
  match matchFirewallRule rules
      (Actions.UpdateFirewallRuleConfig.selector config) with
  | .rule _ => .done none
  | _ => .done (some 422)

include isAllowed in
theorem selector_traces {apiToken : String} {config : UpdateFirewallRuleConfig} :
    (Actions.validateFirewallSelector apiToken config).Traces allowed
      (onReturn fun refusal later => refusal = none →
        ReadsOneRule config apiToken later) history := by
  unfold Actions.validateFirewallSelector
  refine ⟨isAllowed _ _ rfl, ?_⟩
  intro answer
  cases answer with
  | error error =>
      intro found
      cases found
  | ok rules =>
      change (selectorAnswer config rules).Traces _ _ _
      unfold selectorAnswer
      cases matched : matchFirewallRule rules
          (Actions.UpdateFirewallRuleConfig.selector config) with
      | rule rule =>
          exact fun _ => ⟨rules, rule,
            List.mem_append_right _ List.mem_cons_self,
            filter_of_matchFirewallRule matched⟩
      | noMatch =>
          intro found
          cases found
      | ambiguousMatch count =>
          intro found
          cases found

/-- The config that a check returns is valid. -/
def FindsValid (accountId ipClientId : Id) (own : Option Id)
    (type : ActionType) (result : Except Nat ActionConfig)
    (history : BackendHistory) : Prop :=
  ∀ config, result = .ok config →
    ValidConfig accountId ipClientId own history type config

theorem FindsValid.refused {status : Nat} :
    FindsValid accountId ipClientId own type (.error status) history := by
  intro config same
  cases same

include isAllowed in
/-- The rule is looked up once the credential was read. -/
theorem selected_traces {apiToken : String}
    {required : UpdateFirewallRuleConfig} (firewallId : required.firewallId ≠ 0)
    (description : required.description ≠ "")
    (token : ReadsToken accountId required.providerCredentialId apiToken
      history) :
    ((Actions.validateFirewallSelector apiToken required).bind fun refusal =>
      match refusal with
      | some status => .done (.error status)
      | none => .done (.ok (ActionConfig.firewall required))).Traces allowed
      (onReturn (FindsValid accountId ipClientId own
        .hetznerCloudFirewallRuleUpdate)) history := by
  apply ((selector_traces isAllowed).keeping readsToken_lasting token).bind _
    fun _ _ _ => trivial
  intro later refusal reads
  cases refusal with
  | some status => exact .refused
  | none =>
      intro config same
      cases same
      exact .firewall firewallId description reads.1 (reads.2 rfl)

include isAllowed in
theorem firewall_traces {required : UpdateFirewallRuleConfig}
    (firewallId : required.firewallId ≠ 0)
    (description : required.description ≠ "") :
    (Actions.validateFirewallConfig accountId required).Traces allowed
      (onReturn (FindsValid accountId ipClientId own
        .hetznerCloudFirewallRuleUpdate)) history := by
  apply (credential_traces isAllowed _).seq
  intro credential later reads
  cases credential with
  | none => exact FindsValid.refused
  | some apiToken =>
      exact selected_traces isAllowed firewallId description (reads _ rfl)

include isAllowed in
theorem delivery_traces {raw : Option ActionConfigBody} :
    (Actions.validateDeliveryConfig deps.actions accountId (some ipClientId)
      raw own).Traces allowed (onReturn fun result later =>
        FindsValid accountId ipClientId own .traefikConfigDelivery
          (result.map ActionConfig.delivery) later) history := by
  unfold Actions.validateDeliveryConfig
  split
  · dsimp only
    split
    · exact FindsValid.refused
    rename_i traefikProviderId requested
    split
    · rename_i isGroup
      apply (provider_traces isAllowed traefikProviderId).seq
      intro provider later reads
      split
      · exact FindsValid.refused
      rename_i active
      have isActive : provider.isSome = true := by
        simpa [Option.isSome_iff_ne_none] using active
      apply ((deliveries_trace isAllowed).keeping readsProvider_lasting
        (reads isActive)).bind _ fun _ _ _ => trivial
      intro later existing lists
      split
      · exact FindsValid.refused
      · rename_i free
        intro config same
        cases same
        exact .delivery isGroup lists.1
          (lists.2 ipClientId traefikProviderId own (by simpa using free))
    · exact FindsValid.refused
  · exact FindsValid.refused

theorem requiredDns_valid {body : ActionConfigBody} {required : ActionConfig}
    (isRequired : Actions.requiredDns body = some required) :
    ∃ credentialId zone recordName, zone ≠ "" ∧ recordName ≠ "" ∧
      required = .dns ⟨credentialId, some zone, some recordName⟩ := by
  unfold Actions.requiredDns at isRequired
  split at isRequired
  · rename_i credentialId zone recordName _ hasZone hasRecord
    cases isRequired
    exact ⟨credentialId, zone, recordName, (truthy_eq_some.mp hasZone).2,
      (truthy_eq_some.mp hasRecord).2, rfl⟩
  · cases isRequired

theorem requiredFirewall_valid {body : ActionConfigBody}
    {required : UpdateFirewallRuleConfig}
    (isRequired : Actions.requiredFirewall body = some required) :
    required.firewallId ≠ 0 ∧ required.description ≠ "" := by
  unfold Actions.requiredFirewall at isRequired
  split at isRequired
  · rename_i hasFirewall _ _ hasDescription
    cases isRequired
    constructor
    · simpa using (Option.filter_eq_some_iff.mp hasFirewall).2
    · exact (truthy_eq_some.mp hasDescription).2
  · cases isRequired

include isAllowed in
/-- What `POST` accepts. -/
theorem validateAttach_traces {raw : Option ActionConfigBody} :
    (Actions.validateAttach deps.actions accountId ipClientId raw type).Traces
      allowed (onReturn (FindsValid accountId ipClientId none type))
      history := by
  cases type with
  | traefikConfigDelivery =>
      apply (load_traces _ _ (reads_allowed isAllowed)).seq
      intro device later _
      split
      · apply (delivery_traces isAllowed).seq
        exact fun _ _ valid => valid
      · exact FindsValid.refused
  | hetznerCloudDnsUpdate =>
      simp only [Actions.validateAttach]
      split
      · exact FindsValid.refused
      rename_i required isRequired
      obtain ⟨body, -, requires⟩ := Option.bind_eq_some_iff.mp isRequired
      obtain ⟨credentialId, zone, recordName, hasZone, hasRecord, rfl⟩ :=
        requiredDns_valid requires
      apply (credential_traces isAllowed credentialId).seq
      intro credential later reads
      cases credential with
      | none => exact FindsValid.refused
      | some apiToken =>
          intro config same
          cases same
          exact .dns hasZone hasRecord (reads apiToken rfl)
  | hetznerCloudFirewallRuleUpdate =>
      simp only [Actions.validateAttach]
      split
      · exact FindsValid.refused
      rename_i required isRequired
      obtain ⟨body, -, requires⟩ := Option.bind_eq_some_iff.mp isRequired
      obtain ⟨firewallId, description⟩ := requiredFirewall_valid requires
      exact firewall_traces isAllowed firewallId description

theorem namesRecord_iff {body : ActionConfigBody} :
    body.namesRecord = true ↔ ∃ zone recordName, zone ≠ "" ∧ recordName ≠ "" ∧
      body.zone = some zone ∧ body.recordName = some recordName := by
  simp only [ActionConfigBody.namesRecord, Bool.and_eq_true,
    Option.isSome_iff_exists, truthy_eq_some]
  grind

include isAllowed in
/-- What `PUT` accepts of an action with a credential, if it names a record
where it has to. -/
theorem credentialConfig_traces {body : ActionConfigBody}
    (isCredential : type ≠ .traefikConfigDelivery)
    (names : type = .hetznerCloudDnsUpdate → body.namesRecord = true) :
    (Actions.validateCredentialConfig accountId (some type) body).Traces
      allowed (onReturn (FindsValid accountId ipClientId own type))
      history := by
  unfold Actions.validateCredentialConfig
  split
  · exact FindsValid.refused
  rename_i credentialId given
  apply (credential_traces isAllowed credentialId).seq
  intro credential later reads
  cases credential with
  | none => exact FindsValid.refused
  | some apiToken =>
      have token := reads apiToken rfl
      cases type with
      | traefikConfigDelivery => exact absurd rfl isCredential
      | hetznerCloudDnsUpdate =>
          obtain ⟨zone, recordName, hasZone, hasRecord, isZone, isRecord⟩ :=
            namesRecord_iff.mp (names rfl)
          intro config same
          simp only [isZone, isRecord] at same
          cases same
          exact .dns hasZone hasRecord token
      | hetznerCloudFirewallRuleUpdate =>
          simp only [if_true]
          split
          · exact FindsValid.refused
          rename_i required isRequired
          obtain ⟨firewallId, description⟩ :=
            requiredFirewall_valid isRequired
          have same : credentialId = required.providerCredentialId :=
            Option.some.inj (given.symm.trans
              (requiredFirewall_credential isRequired))
          subst same
          exact selected_traces isAllowed firewallId description token

end Checks

/-! ## What the routes store -/

/-- What `POST` stores. -/
structure AttachesValid (accountId ipClientId : Id) (data : ActionAttachedData)
    (history : BackendHistory) : Prop where
  ofClient : data.ipClientId = ipClientId
  families : ValidFamilies data.type data.addressFamilies
  valid : ValidConfig accountId ipClientId none history data.type data.config

/-- What `PUT` stores for an action in this state. -/
structure ReconfiguresValid (accountId actionId : Id) (body : ReconfigureBody)
    (state : ActionState) (data : ActionReconfiguredData)
    (history : BackendHistory) : Prop where
  isThere : state.actionId.isSome = true
  nonempty : data.addressFamilies ≠ some []
  implied : state.type = some .traefikConfigDelivery →
    data.addressFamilies = none
  valid : ∀ config, data.config = some config → ∀ type ipClientId,
    state.type = some type → state.ipClientId = some ipClientId →
    (type = .hetznerCloudDnsUpdate →
      body.config.all ActionConfigBody.namesRecord = true) →
    ValidConfig accountId ipClientId (some actionId) history type config

/-- What the two routes append has been checked. -/
def StoresChecked (command : BackendCommand) (history : BackendHistory)
    (call : Call) : Prop :=
  match command with
  | .action accountId (.attach ipClientId _) => ∀ input data,
      call = .store (.append input) → input.data = .action (.attached data) →
      AttachesValid accountId ipClientId data history
  | .action accountId (.reconfigure actionId body) => ∀ input data,
      call = .store (.append input) →
      input.data = .action (.reconfigured data) →
      ∃ seen, FirstRead ⟨accountId, .action, actionId⟩ seen history ∧
        ReconfiguresValid accountId actionId body (actionOf seen) data history
  | _ => True

variable {command : BackendCommand} {now : Timestamp}

theorem storesChecked_of_quiet (history : BackendHistory) (call : Call)
    (quiet : Backend.quiet call = true) :
    StoresChecked command history call := by
  unfold StoresChecked
  split
  · intro input data same
    subst same
    cases quiet
  · intro input data same
    subst same
    cases quiet
  · trivial

theorem quiet_stores {α : Type} {program : Backend α}
    (quiet : program.Calls fun call => Backend.quiet call = true) :
    program.Traces (StoresChecked command) anyEnd history :=
  Program.AlwaysTraces.of_calls quiet storesChecked_of_quiet history

theorem attachedFamilies_valid {body : AttachBody}
    (isType : body.type = some type)
    (nonempty : Actions.attachedFamilies body ≠ []) :
    ValidFamilies type (Actions.attachedFamilies body) := by
  refine ⟨nonempty, ?_⟩
  intro delivers
  subst delivers
  exact if_pos isType

theorem reconfiguredFamilies_nonempty {state : ActionState}
    {body : ReconfigureBody} (nonempty : body.addressFamilies ≠ some []) :
    Actions.reconfiguredFamilies state body ≠ some [] := by
  unfold Actions.reconfiguredFamilies
  split
  · exact nofun
  · exact nonempty

theorem attach_stores (body : AttachBody) :
    (Actions.attach deps.actions accountId ipClientId body now).Traces
      (StoresChecked (.action accountId (.attach ipClientId body))) anyEnd
      [] := by
  unfold Actions.attach
  split
  · trivial
  rename_i type isType
  split
  · trivial
  rename_i nonempty
  apply (validateAttach_traces storesChecked_of_quiet).bind _
    fun _ _ _ => trivial
  intro later validation finds
  cases validation with
  | error status => trivial
  | ok config =>
      have valid := finds config rfl
      apply Program.Traces.performing (storesChecked_of_quiet _ _ rfl)
      · intro actionId
        apply Program.Traces.performing
        · intro input data same isData
          cases same
          cases isData
          exact ⟨rfl, attachedFamilies_valid isType nonempty,
            validConfig_lasting _ _ valid⟩
        · intro stored
          apply quiet_stores
          apply Program.Calls.bind (Actions.refreshProjection_quiet _ _)
          intro _
          apply Program.Calls.bind
          · exact Backend.quiet_of_reads (Actions.currentState_reads _ _)
          intro state
          apply Program.Calls.bind (Actions.scheduleDelivery_quiet _ _ _)
          exact fun _ => trivial
        · exact fun _ => trivial
      · exact fun _ => trivial

theorem validateReconfigure_traces {state : ActionState}
    (isAllowed : ∀ history call, Backend.quiet call = true →
      allowed history call)
    (ofType : state.type = some type)
    (ofClient : state.ipClientId = some ipClientId)
    {raw : Option ActionConfigBody}
    (names : type = .hetznerCloudDnsUpdate →
      raw.all ActionConfigBody.namesRecord = true) :
    (Actions.validateReconfigure deps.actions accountId actionId state
      raw).Traces allowed (onReturn fun result later => ∀ config,
        result = .ok (some config) → ValidConfig accountId ipClientId
          (some actionId) later type config) history := by
  cases raw with
  | none =>
      intro config same
      cases same
  | some raw =>
      by_cases delivers : type = .traefikConfigDelivery
      · subst delivers
        simp only [Actions.validateReconfigure, ofType, ofClient, if_true]
        apply (delivery_traces isAllowed).seq
        intro validation later finds config same
        cases validation with
        | error status => cases same
        | ok delivery =>
            cases same
            exact finds _ rfl
      · have other : ¬ some type = some ActionType.traefikConfigDelivery :=
          fun same => delivers (Option.some.inj same)
        simp only [Actions.validateReconfigure, ofType, other, if_false]
        apply (credentialConfig_traces isAllowed delivers names).seq
        intro validation later finds config same
        cases validation with
        | error status => cases same
        | ok config =>
            cases same
            exact finds _ rfl

/-- What the check of `PUT` says if nothing is known of the action. -/
theorem validateReconfigure_finds {state : ActionState}
    {body : ReconfigureBody} :
    (Actions.validateReconfigure deps.actions accountId actionId state
      body.config).Traces (StoresChecked command)
      (onReturn fun result later => ∀ config, result = .ok (some config) →
        ∀ type ipClientId, state.type = some type →
        state.ipClientId = some ipClientId →
        (type = .hetznerCloudDnsUpdate →
          body.config.all ActionConfigBody.namesRecord = true) →
        ValidConfig accountId ipClientId (some actionId) later type config)
      history := by
  by_cases known : ∃ type ipClientId, state.type = some type ∧
      state.ipClientId = some ipClientId ∧
      (type = .hetznerCloudDnsUpdate →
        body.config.all ActionConfigBody.namesRecord = true)
  · obtain ⟨type, ipClientId, ofType, ofClient, names⟩ := known
    apply (validateReconfigure_traces storesChecked_of_quiet ofType ofClient
      names).mono
    intro later result finds
    cases result with
    | error error => trivial
    | ok result =>
        intro config same otherType otherClient isType isClient _
        rw [ofType] at isType
        rw [ofClient] at isClient
        cases isType
        cases isClient
        exact finds config same
  · apply (quiet_stores (Actions.validateReconfigure_quiet _ _ _ _ _)).mono
    intro later result _
    cases result with
    | error error => trivial
    | ok result =>
        intro config _ type ipClientId ofType ofClient names
        exact absurd ⟨type, ipClientId, ofType, ofClient, names⟩ known

theorem reconfigure_stores (body : ReconfigureBody) :
    (Actions.reconfigure deps.actions accountId actionId body now).Traces
      (StoresChecked (.action accountId (.reconfigure actionId body))) anyEnd
      [] := by
  unfold Actions.reconfigure Actions.loadOwnedAction
  simp only [Program.monadBind_eq_bind, Program.bind_assoc,
    Program.pure_eq_done, Program.done_bind]
  apply load_performing
  · exact storesChecked_of_quiet _ _ rfl
  · intro seen
    have first : FirstRead ⟨accountId, .action, actionId⟩ seen
        ([] ++ [readAs ⟨accountId, .action, actionId⟩ seen]) := by
      unfold FirstRead
      rw [List.nil_append, readsOf_readAs, if_pos rfl]
      rfl
    split
    · trivial
    rename_i owned isOwned
    split at isOwned
    · cases isOwned
      rename_i owns
      have isThere : (actionOf seen).actionId.isSome = true :=
        (of_decide_eq_true owns).1
      split
      · trivial
      rename_i nonempty
      apply (validateReconfigure_finds.keeping (firstRead_lasting _ seen)
        first).bind _ fun _ _ _ => trivial
      intro later validation both
      obtain ⟨first, finds⟩ := both
      cases validation with
      | error status => trivial
      | ok config =>
          apply Program.Traces.performing
          · intro input data same isData
            cases same
            cases isData
            refine ⟨seen, first, isThere,
              reconfiguredFamilies_nonempty nonempty, ?_, ?_⟩
            · exact fun delivers => if_pos delivers
            · intro given same
              cases same
              exact finds given rfl
          · intro stored
            apply quiet_stores
            apply Program.Calls.bind (Actions.refreshProjection_quiet _ _)
            intro _
            apply Program.Calls.bind
            · exact Backend.quiet_of_reads (Actions.currentState_reads _ _)
            intro state
            apply Program.Calls.bind (Actions.scheduleDelivery_quiet _ _ _)
            intro _
            apply Program.Calls.bind (Actions.cleanupDropped_quiet _ _ _)
            exact fun _ => trivial
          · exact fun _ => trivial
    · cases isOwned
  · exact fun _ _ => trivial

theorem command_stores (deps : BackendDeps) (now : Timestamp)
    (command : BackendCommand) :
    (command.program deps now).Traces (StoresChecked command) anyEnd [] := by
  by_cases stores : (∃ accountId ipClientId body,
      command = .action accountId (.attach ipClientId body)) ∨
    ∃ accountId actionId body,
      command = .action accountId (.reconfigure actionId body)
  · rcases stores with attaches | reconfigures
    · obtain ⟨accountId, ipClientId, body, rfl⟩ := attaches
      exact (attach_stores body).bind (fun _ _ _ => trivial)
        fun _ _ _ => trivial
    · obtain ⟨accountId, actionId, body, rfl⟩ := reconfigures
      exact (reconfigure_stores body).bind (fun _ _ _ => trivial)
        fun _ _ _ => trivial
  · apply (command_appends deps now command).allows
    intro history call _
    unfold StoresChecked
    split
    · exact absurd (.inl ⟨_, _, _, rfl⟩) stores
    · exact absurd (.inr ⟨_, _, _, rfl⟩) stores
    · trivial

/-! ## What is inserted into the stream of an action -/

variable {credentials : Credentials} {input : AppendEventInput}
variable {seen : List StoredEvent}

/-- The event does not configure an action. -/
def EventData.configures : EventData → Bool
  | .action (.attached _) => true
  | .action (.reconfigured _) => true
  | _ => false

theorem configures_of_kind (kind : input.ofAccount = true ∨
      input.ofExecution = true ∨ input.ofProvider = true) :
    EventData.configures input.data = false := by
  rcases kind with kind | kind | kind
  · unfold AppendEventInput.ofAccount at kind
    split at kind <;> simp_all [EventData.configures]
  · unfold AppendEventInput.ofExecution at kind
    split at kind <;> simp_all [EventData.configures]
  · unfold AppendEventInput.ofProvider at kind
    split at kind <;> simp_all [EventData.configures]

/-- Only the two routes configure actions. -/
theorem insertion_configures
    (appends : Appends credentials now command input seen)
    (configures : EventData.configures input.data = true) :
    (∃ accountId ipClientId body data,
      command = .action accountId (.attach ipClientId body) ∧
      input = Actions.appendInput accountId data.actionId 0 (.attached data)) ∨
    ∃ accountId actionId body version data,
      command = .action accountId (.reconfigure actionId body) ∧
      input = Actions.appendInput accountId actionId version
        (.reconfigured data) := by
  cases appends with
  | account kind =>
      rw [configures_of_kind (.inl kind)] at configures
      cases configures
  | attach => exact .inl ⟨_, _, _, _, rfl, rfl⟩
  | reconfigure => exact .inr ⟨_, _, _, _, _, rfl, rfl⟩
  | @actionStatus accountId command actionId event seen change alive =>
      cases command <;> cases change <;> cases configures
  | provider kind =>
      rw [configures_of_kind (.inr (.inr kind))] at configures
      cases configures
  | register => cases configures
  | clientStatus change alive => cases configures
  | rotate alive => cases configures
  | preference => cases configures
  | report presented authorized => cases configures
  | settle confirmed => cases configures
  | execute kind =>
      rw [configures_of_kind (.inr (.inl kind))] at configures
      cases configures

/-- What is configured of an action. -/
def configured (state : ActionState) :
    Option Id × Option Id × Option ActionType × Option ActionConfig ×
      List AddressFamily :=
  (state.actionId, state.ipClientId, state.type, state.config,
    state.addressFamilies)

theorem configured_of_other {event : StoredEvent} {state : ActionState}
    (other : EventData.configures event.data = false) :
    configured (actionReducer state event) = configured state := by
  unfold actionReducer
  split
  · rename_i data isData
    rw [isData] at other
    cases other
  · rename_i data isData
    rw [isData] at other
    cases other
  all_goals rfl

/-! ## Runs -/

variable {move : Move BackendRequest Choice} {index : Nat}
variable {request : BackendRequest} {event : StoredEvent} {choice : Choice}

/-- The request that has inserted an event remembers it. -/
theorem inserted_remembers
    (insertion : Insertion pool next index request history input event)
    (moved : pool.step (backendService deps) (.advance index choice) =
      some next) :
    ∃ thread ∈ next.threads, ∃ answer, thread.history =
      history ++ [@Answered.mk backend Err (.store (.append input)) answer] := by
  obtain ⟨resume, running⟩ := insertion.running
  obtain ⟨request', history', call, resume', answer, state, found, -, rfl⟩ :=
    Pool.step_advance moved
  cases running.symm.trans found
  exact ⟨_, List.mem_set (List.getElem?_eq_some_iff.mp found).1 _, answer,
    rfl⟩

/-- What is not configured anew stays valid. -/
theorem configuredAs_later {before after : ActionState}
    (valid : ConfiguredAs pool accountId actionId ipClientId type config before)
    (same : configured after = configured before)
    (moved : pool.step (backendService deps) move = some next) :
    ConfiguredAs next accountId actionId ipClientId type config after := by
  simp only [configured, Prod.mk.injEq] at same
  obtain ⟨-, sameClient, sameType, sameConfig, sameFamilies⟩ := same
  constructor
  · exact sameClient.trans valid.ofClient
  · exact sameType.trans valid.ofType
  · exact sameConfig.trans valid.hasConfig
  · rw [sameFamilies]
    exact valid.families
  · exact Pool.known_step (fun _ => storesValid_lasting) valid.stored moved

/-- What holds in every state of a run in which every `PUT` names the record
of a DNS action. -/
structure Accepting (deps : BackendDeps) (pool : BackendPool) : Prop where
  deciding : Deciding deps pool
  checked : pool.Traced fun request => StoresChecked request.command
  meets : ∀ accountId actionId,
    (actionIn pool.state.store accountId actionId).actionId.isSome = true →
    MeetsAttach pool accountId actionId

variable {body : ReconfigureBody} {data : ActionReconfiguredData}
variable {state : ActionState}

/-- The request has just stored what it found valid. -/
theorem storesValid_now {answer : Except Err StoredEvent}
    (toAction : input.params = ⟨accountId, .action, actionId⟩)
    (gives : input.data.givenConfig = some config)
    (valid : ValidConfig accountId ipClientId (some actionId) history type
      config) :
    StoresValid accountId ipClientId actionId type config
      (history ++ [@Answered.mk backend Err (.store (.append input)) answer]) :=
  ⟨history, input, answer, [], rfl, toAction, gives, valid⟩

/-- What `POST` has inserted. -/
theorem attached_meets {data : ActionAttachedData}
    (atEnd : InsertionAtEnd deps pool next index request history input event)
    (moved : pool.step (backendService deps) (.advance index choice) =
      some next)
    (own : input.params = ⟨accountId, .action, actionId⟩)
    (isData : input.data = .action (.attached data))
    (checked : AttachesValid accountId ipClientId data history) :
    MeetsAttach next accountId actionId := by
  obtain ⟨written, reduced⟩ := atEnd.reduces own
  obtain ⟨thread, member, answer, remembers⟩ :=
    inserted_remembers atEnd.insertion moved
  refine ⟨ipClientId, data.type, data.config, ?_⟩
  rw [reduced]
  simp only [actionReducer, written, isData]
  refine ⟨congrArg some checked.ofClient, rfl, rfl, checked.families, thread,
    member, ?_⟩
  rw [remembers]
  apply storesValid_now own
  · simp only [isData, EventData.givenConfig]
  · exact validConfig_ignoring actionId checked.valid

/-- The families that `PUT` leaves. -/
theorem families_reconfigured
    (families : ValidFamilies type state.addressFamilies)
    (ofType : state.type = some type)
    (checked : ReconfiguresValid accountId actionId body state data history) :
    ValidFamilies type (data.addressFamilies.getD state.addressFamilies) := by
  cases given : data.addressFamilies with
  | none => exact families
  | some addressFamilies =>
      constructor
      · intro empty
        exact checked.nonempty (given.trans (congrArg some empty))
      · intro delivers
        have implied := checked.implied (ofType.trans (congrArg some delivers))
        rw [given] at implied
        cases implied

/-- What `PUT` has inserted. -/
theorem reconfigured_meets
    (atEnd : InsertionAtEnd deps pool next index request history input event)
    (moved : pool.step (backendService deps) (.advance index choice) =
      some next)
    (own : input.params = ⟨accountId, .action, actionId⟩)
    (isData : input.data = .action (.reconfigured data))
    (checked : ReconfiguresValid accountId actionId body
      (actionIn pool.state.store accountId actionId) data history)
    (names : (actionIn pool.state.store accountId actionId).type =
      some .hetznerCloudDnsUpdate →
      body.config.all ActionConfigBody.namesRecord = true)
    (meets : MeetsAttach pool accountId actionId) :
    MeetsAttach next accountId actionId := by
  obtain ⟨written, reduced⟩ := atEnd.reduces own
  obtain ⟨ipClientId, type, config, valid⟩ := meets
  have families := families_reconfigured valid.families valid.ofType checked
  cases given : data.config with
  | none =>
      refine ⟨ipClientId, type, config, ?_⟩
      rw [reduced]
      simp only [actionReducer, written, isData, given]
      refine ⟨valid.ofClient, valid.ofType, valid.hasConfig, families, ?_⟩
      exact Pool.known_step (fun _ => storesValid_lasting) valid.stored moved
  | some config =>
      obtain ⟨thread, member, answer, remembers⟩ :=
        inserted_remembers atEnd.insertion moved
      refine ⟨ipClientId, type, config, ?_⟩
      rw [reduced]
      simp only [actionReducer, written, isData, given]
      refine ⟨valid.ofClient, valid.ofType, rfl, families, thread, member, ?_⟩
      rw [remembers]
      apply storesValid_now own
      · simp only [isData, EventData.givenConfig, given]
      · apply checked.valid config given type ipClientId valid.ofType
          valid.ofClient
        intro isDns
        exact names (valid.ofType.trans (congrArg some isDns))

/-- The body of a `PUT` that is stored for a DNS action. -/
theorem namesRecord_of_stored
    {resume : Except Err StoredEvent → Backend (Option Nat)}
    (running : pool.threads[index]? =
      some ⟨request, history, .await (.store (.append input)) resume⟩)
    (isCommand : request.command =
      .action accountId (.reconfigure actionId body))
    (names : namesRecords pool (.advance index choice) = true)
    (isDns : (actionIn pool.state.store accountId actionId).type =
      some .hetznerCloudDnsUpdate) :
    body.config.all ActionConfigBody.namesRecord = true := by
  obtain ⟨number, now, command⟩ := request
  cases isCommand
  simpa [namesRecords, running, isDns] using names

namespace Accepting

/-- What an insertion into the stream of an action leaves. -/
theorem inserted (accepting : Accepting deps pool)
    (insertion : Insertion pool next index request history input event)
    (names : namesRecords pool (.advance index choice) = true)
    (moved : pool.step (backendService deps) (.advance index choice) =
      some next)
    (own : input.params = ⟨accountId, .action, actionId⟩)
    (isThere : (actionIn next.state.store accountId
      actionId).actionId.isSome = true) :
    MeetsAttach next accountId actionId := by
  have atEnd := accepting.deciding.atEnd insertion
  obtain ⟨resume, running⟩ := insertion.running
  have checked := (accepting.checked _ (List.mem_of_getElem? running)).1
  by_cases configures : EventData.configures input.data = true
  · rcases insertion_configures atEnd.appends configures with
      ⟨owner, clientId, body, data, isCommand, isInput⟩ |
      ⟨owner, changed, body, version, data, isCommand, isInput⟩
    · simp only [StoresChecked, isCommand] at checked
      have isData : input.data = .action (.attached data) := by
        rw [isInput]
        rfl
      have same : owner = accountId := by
        rw [isInput] at own
        exact congrArg ReadStreamParams.accountId own
      subst same
      exact attached_meets atEnd moved own isData (checked input data rfl isData)
    · simp only [StoresChecked, isCommand] at checked
      have isData : input.data = .action (.reconfigured data) := by
        rw [isInput]
        rfl
      have isParams : input.params = ⟨owner, .action, changed⟩ := by
        rw [isInput]
        rfl
      cases own.symm.trans isParams
      obtain ⟨seen, first, valid⟩ := checked input data rfl isData
      have ownVersion : request.command.usesOwnVersion = true := by
        rw [isCommand]
        rfl
      have whole := atEnd.firstRead ownVersion seen (own ▸ first)
      rw [own] at whole
      subst whole
      apply reconfigured_meets atEnd moved own isData valid
      · exact namesRecord_of_stored running isCommand names
      · exact accepting.meets accountId actionId valid.isThere
  · obtain ⟨written, reduced⟩ := atEnd.reduces own
    have same : configured (actionIn next.state.store accountId actionId) =
        configured (actionIn pool.state.store accountId actionId) := by
      rw [reduced]
      apply configured_of_other
      rw [written]
      simpa using configures
    have sameId : (actionIn next.state.store accountId actionId).actionId =
        (actionIn pool.state.store accountId actionId).actionId :=
      congrArg (·.1) same
    rw [sameId] at isThere
    obtain ⟨ipClientId, type, config, valid⟩ :=
      accepting.meets accountId actionId isThere
    exact ⟨ipClientId, type, config, configuredAs_later valid same moved⟩

theorem step (accepting : Accepting deps pool)
    (noDeletion : NoDeletion pool move)
    (names : namesRecords pool move = true)
    (moved : pool.step (backendService deps) move = some next) :
    Accepting deps next := by
  constructor
  · exact accepting.deciding.step noDeletion moved
  · apply accepting.checked.step _ moved
    exact fun request => command_stores deps request.now request.command
  · intro accountId actionId isThere
    have kept (same : actionIn next.state.store accountId actionId =
        actionIn pool.state.store accountId actionId) :
        MeetsAttach next accountId actionId := by
      rw [same] at isThere
      obtain ⟨ipClientId, type, config, valid⟩ :=
        accepting.meets accountId actionId isThere
      exact ⟨ipClientId, type, config,
        configuredAs_later valid (congrArg configured same) moved⟩
    rcases noDeletion.inserts rfl moved with same |
      ⟨index, choice, request, history, input, event, rfl, insertion⟩
    · apply kept
      rw [same]
    · by_cases own : input.params = ⟨accountId, .action, actionId⟩
      · exact accepting.inserted insertion names moved own isThere
      · exact kept ((accepting.deciding.atEnd insertion).actionIn_other own)

end Accepting

/-- A store without actions. -/
def NoActions (store : EventStore) : Prop :=
  ∀ event ∈ store.events, event.aggregateType ≠ .action

theorem actionIn_of_noActions {store : EventStore} (none : NoActions store)
    (accountId actionId : Id) :
    actionIn store accountId actionId = initialActionState := by
  have nothing : store.readStream ⟨accountId, .action, actionId⟩ = [] := by
    apply List.eq_nil_iff_forall_not_mem.mpr
    intro event member
    obtain ⟨stored, ofType, -, -⟩ := EventStore.mem_readStream.mp member
    exact none event stored ofType
  unfold actionIn
  rw [nothing]
  rfl

theorem Accepting.initial {world : World} (start : world.store.Sequenced)
    (none : NoActions world.store) : Accepting deps ⟨world, []⟩ where
  deciding := .initial start
  checked := fun _ member => by cases member
  meets := by
    intro accountId actionId isThere
    rw [actionIn_of_noActions none] at isThere
    cases isThere

/-! ## An example -/

/-- A `PUT` for the first action. -/
def reconfigures (config : ActionConfigBody) : BackendRequest :=
  ⟨1, 0, .action 1 (.reconfigure 0 { config := some config })⟩

/-- The action is attached and then reconfigured. -/
def attachedThen (config : ActionConfigBody) :
    List (Move BackendRequest Choice) :=
  .start (ReferentialIntegrity.attaches 0) :: CutOff.backendAdvances 0 6 ++
    .start (reconfigures config) :: CutOff.backendAdvances 1 6

/-- A record of another name. -/
def otherRecord : ActionConfigBody where
  providerCredentialId := some 5
  zone := some "example.org"
  recordName := some "office"

/-- A credential and nothing else. -/
def credentialOnly : ActionConfigBody where
  providerCredentialId := some 5

theorem withCredential_noActions :
    NoActions ReferentialIntegrity.withCredential.store := by
  unfold NoActions
  decide +kernel

end AcceptedConfigs

open AcceptedConfigs

/-- The moves of a run in which no account is deleted and every `PUT` that
stores a config of a DNS action names a zone and a record. -/
def NamesRecords (pool : BackendPool) (move : Move BackendRequest Choice) :
    Prop :=
  NoDeletion pool move ∧ namesRecords pool move = true

/-- The requests that configure actions. -/
def configuresOnly : Move BackendRequest Choice → Bool
  | .start ⟨_, _, .action _ (.attach _ _)⟩ => true
  | .start ⟨_, _, .action _ (.reconfigure _ _)⟩ => true
  | .start _ => false
  | .advance _ _ => true

end FluxIP
