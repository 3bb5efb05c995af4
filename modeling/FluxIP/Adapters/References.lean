import FluxIP.Adapters.Checks
import FluxIP.Adapters.Publishing

/-!
# References of actions

An action's config names a provider of snapshots or a credential.  Who attaches
or reconfigures an action has looked whether what the config names is active;
who deletes a provider or revokes a credential has looked at every action.
-/

namespace FluxIP

open Async

/-- The stream of what a config names. -/
def ActionConfig.reference (accountId : Id) : ActionConfig → ReadStreamParams
  | .dns config =>
      ⟨accountId, .providerCredential, config.providerCredentialId⟩
  | .firewall config =>
      ⟨accountId, .providerCredential, config.providerCredentialId⟩
  | .delivery config =>
      ⟨accountId, .traefikProvider, config.traefikProviderId⟩

/-- The action is not detached and names this. -/
def ActionState.uses (state : ActionState) (params : ReadStreamParams) : Prop :=
  state.status ≠ .detached ∧ ∃ config, state.config = some config ∧
    config.reference params.accountId = params

/-- What the routes rely on: an action with a config has an id, one with an id
has a device, and only a delivery action delivers. -/
structure ActionState.WellTyped (state : ActionState) : Prop where
  actionId : state.config.isSome = true → state.actionId.isSome = true
  ipClientId : state.actionId.isSome = true → state.ipClientId.isSome = true
  delivers : (state.config.bind ActionConfig.asDelivery).isSome = true →
    state.type = some .traefikConfigDelivery

/-- The config that an event gives an action. -/
def EventData.givenConfig : EventData → Option ActionConfig
  | .action (.attached data) => some data.config
  | .action (.reconfigured data) => data.config
  | _ => none

/-- The event makes an action name this. -/
def EventData.names (params : ReadStreamParams) : EventData → Bool
  | .action (.attached data) =>
      data.config.reference params.accountId = params
  | .action (.reconfigured data) =>
      data.config.any fun config => config.reference params.accountId = params
  | _ => false

/-- The event is the first one of a provider or a credential. -/
def EventData.creates : EventData → Bool
  | .traefikProvider (.created _) => true
  | .providerCredential (.stored _ _ _ _ _ _ _) => true
  | _ => false

/-- The event takes what the stream is of, a provider or a credential, out of
use. -/
def EventData.removes (type : AggregateType) : EventData → Bool
  | .traefikProvider (.deleted _) => type = .traefikProvider
  | .providerCredential (.revoked _) => type = .providerCredential
  | _ => false

/-- The events show a provider or a credential of the account that can be
used. -/
def Usable (params : ReadStreamParams) (seen : List StoredEvent) : Prop :=
  match params.aggregateType with
  | .traefikProvider => ProviderStore.isActive params.accountId
      (seen.foldl traefikProviderReducer initialTraefikProviderState) = true
  | .providerCredential => (Actions.activeToken params.accountId
      (seen.foldl providerCredentialReducer
        initialProviderCredentialState)).isSome = true
  | _ => False

/-- Whenever the stream was read, it could be used. -/
def Vetted (params : ReadStreamParams) (history : BackendHistory) : Prop :=
  ∀ seen ∈ readsOf params history, Usable params seen

/-- No action that was read uses it. -/
def Unused (params : ReadStreamParams) (history : BackendHistory) : Prop :=
  ∀ actionId, ∀ seen ∈
      readsOf ⟨params.accountId, .action, actionId⟩ history,
    (actionOf seen).WellTyped → ¬ (actionOf seen).uses params

/-- What was looked at before this is appended. -/
structure VettedFor (accountId : Id) (history : BackendHistory)
    (input : AppendEventInput) : Prop where
  creates : input.data.creates = false
  attached : ∀ data, input.data = .action (.attached data) →
    Vetted (data.config.reference accountId) history ∧
    (data.config.asDelivery.isSome = true →
      data.type = .traefikConfigDelivery)
  reconfigured : ∀ data config, input.data = .action (.reconfigured data) →
    data.config = some config →
    Vetted (config.reference accountId) history ∧ ∃ seen,
      FirstRead input.params seen history ∧
      (actionOf seen).actionId.isSome = true ∧
      (config.asDelivery.isSome = true →
        (actionOf seen).type = some .traefikConfigDelivery)
  removed : input.data.removes input.aggregateType = true →
    Unused input.params history

/-- An append follows what has to be looked at before it. -/
def LooksFirst (accountId : Id) (history : BackendHistory) (call : Call) :
    Prop :=
  ∀ input, call = .store (.append input) → VettedFor accountId history input

/-- The type of the stream the call reads. -/
def Call.readsType : Call → Option AggregateType
  | .store (.readStream params) => some params.aggregateType
  | _ => none

/-- The call appends nothing and reads no stream of this type. -/
def Call.apartFrom (type : AggregateType) (call : Call) : Prop :=
  Backend.quiet call = true ∧ call.readsType ≠ some type

variable {accountId : Id} {history : BackendHistory}
variable {params : ReadStreamParams} {now : Timestamp} {α : Type}

/-! ## Calls that do not read a stream -/

theorem readAnswer_of_readsType {call : Call}
    (other : call.readsType ≠ some params.aggregateType)
    (answer : Except Err call.Answer) :
    readAnswer params ⟨call, answer⟩ = none := by
  apply readAnswer_eq_none
  intro same
  subst same
  exact other rfl

theorem Vetted.later {call : Call} (vetted : Vetted params history)
    (other : call.readsType ≠ some params.aggregateType)
    (answer : Except Err call.Answer) :
    Vetted params (history ++ [⟨call, answer⟩]) := by
  intro seen member
  rw [readsOf_append, readAnswer_of_readsType other] at member
  exact vetted seen (by simpa using member)

theorem Unused.later {call : Call} (unused : Unused params history)
    (other : call.readsType ≠ some .action)
    (answer : Except Err call.Answer) :
    Unused params (history ++ [⟨call, answer⟩]) := by
  intro actionId seen member
  rw [readsOf_append, readAnswer_of_readsType other] at member
  exact unused actionId seen (by simpa using member)

theorem looksFirst_of_quiet {call : Call} (quiet : Backend.quiet call = true) :
    LooksFirst accountId history call := by
  intro input same
  subst same
  cases quiet

theorem looksFirst_of_reads (history : BackendHistory) (call : Call)
    (isRead : Backend.reads call = true) :
    LooksFirst accountId history call := by
  intro input same
  subst same
  cases isRead

theorem quiet_looks {program : Backend α}
    (quiet : program.Calls fun call => Backend.quiet call = true) :
    program.AlwaysTraces (LooksFirst accountId) :=
  Program.AlwaysTraces.of_calls quiet fun _ _ => looksFirst_of_quiet

/-- A program that does not read the stream leaves it vetted. -/
theorem keeps_vetted {program : Backend α}
    (calls : program.Calls (Call.apartFrom params.aggregateType))
    (vetted : Vetted params history) :
    program.Traces (LooksFirst accountId) (fun later _ => Vetted params later)
      history := by
  apply Program.Traces.of_quiet (Vetted params) calls
  · exact fun _ _ answer apart vetted => vetted.later apart.2 answer
  · exact fun _ _ _ apart => looksFirst_of_quiet apart.1
  · exact vetted

/-! ## Loops over the actions -/

theorem deliveryActionsOf_loads (accountId : Id) :
    LoadsEach (fun actionId => ⟨accountId, .action, actionId⟩)
      initialActionState actionReducer []
      (fun actionId state rest =>
        (state.deliveryAction actionId).toList ++ rest)
      (deliveryActionsOf accountId) where
  nil := rfl
  cons _ _ := rfl

theorem usedByOf_loads (accountId credentialId : Id) :
    LoadsEach (fun actionId => ⟨accountId, .action, actionId⟩)
      initialActionState actionReducer false
      (fun _ state rest => ProviderCredentials.uses state credentialId || rest)
      (ProviderCredentials.usedByOf accountId credentialId) where
  nil := rfl
  cons _ _ := rfl

theorem listDeliveryActions_apart {type : AggregateType}
    (other : type ≠ .action) (accountId : Id) :
    (listDeliveryActions accountId).Calls (Call.apartFrom type) := by
  apply Program.Calls.bind
  · exact (Backend.calls_call _).mpr ⟨rfl, by simp [Call.readsType]⟩
  intro ids
  apply (deliveryActionsOf_loads accountId).calls
  intro actionId
  refine ⟨rfl, ?_⟩
  intro same
  exact other (Option.some.inj same).symm

/-- What a loop over the actions has read. -/
theorem mem_reads_of_loop {reads : List (Id × List StoredEvent)}
    (unread : ∀ actionId,
      readsOf ⟨accountId, .action, actionId⟩ history = [])
    {actionId : Id} {seen : List StoredEvent}
    (member : seen ∈ readsOf ⟨accountId, .action, actionId⟩
      (history ++ loopAnswers
        (fun actionId => ⟨accountId, .action, actionId⟩) reads)) :
    (actionId, seen) ∈ reads := by
  have distinct : ∀ left right : Id,
      (⟨accountId, .action, left⟩ : ReadStreamParams) =
        ⟨accountId, .action, right⟩ → left = right :=
    fun _ _ same => by simpa using same
  rw [readsOf_concat, unread, List.nil_append] at member
  exact (mem_readsOf_loop distinct).mp member

/-! ## Looking at what a config names -/

/-- Nothing that a config may name was looked at. -/
def Unlooked (accountId : Id) (history : BackendHistory) : Prop :=
  ∀ config : ActionConfig, readsOf (config.reference accountId) history = []

theorem Unlooked.later (unlooked : Unlooked accountId history)
    {type : AggregateType} {id : Id} {seen : List StoredEvent}
    (other : type ≠ .traefikProvider ∧ type ≠ .providerCredential) :
    Unlooked accountId (history ++ [readAs ⟨accountId, type, id⟩ seen]) := by
  intro config
  have different : (⟨accountId, type, id⟩ : ReadStreamParams) ≠
      config.reference accountId := by
    intro same
    have sameType := congrArg ReadStreamParams.aggregateType same
    cases config with
    | dns config => exact other.2 sameType
    | firewall config => exact other.2 sameType
    | delivery config => exact other.1 sameType
  rw [readsOf_concat, unlooked, readsOf_readAs, if_neg different]
  rfl

/-- The only read of a stream has vetted it. -/
theorem vetted_of_read {seen : List StoredEvent}
    (unread : readsOf params history = []) (usable : Usable params seen) :
    Vetted params (history ++ [readAs params seen]) := by
  intro other member
  rw [readsOf_concat, unread, readsOf_readAs, if_pos rfl, List.nil_append,
    List.mem_singleton] at member
  exact member ▸ usable

theorem loadActive_vets {providerId : Id}
    (unread :
      readsOf ⟨accountId, .traefikProvider, providerId⟩ history = []) :
    (ProviderStore.loadActive accountId providerId).Traces
      (LooksFirst accountId)
      (onReturn fun loaded later => loaded.isSome = true →
        Vetted ⟨accountId, .traefikProvider, providerId⟩ later) history := by
  apply (load_traces _ _ looksFirst_of_reads).seq
  intro loaded later loads isActive
  obtain ⟨seen, rfl, rfl⟩ := loads
  apply vetted_of_read unread
  split at isActive
  · rename_i active
    exact active
  · cases isActive

theorem loadOwnedActiveCredential_vets {credentialId : Id}
    (unread :
      readsOf ⟨accountId, .providerCredential, credentialId⟩ history = []) :
    (Actions.loadOwnedActiveCredential accountId (some credentialId)).Traces
      (LooksFirst accountId)
      (onReturn fun token later => token.isSome = true →
        Vetted ⟨accountId, .providerCredential, credentialId⟩ later)
      history := by
  apply (load_traces _ _ looksFirst_of_reads).seq
  intro loaded later loads isActive
  obtain ⟨seen, rfl, rfl⟩ := loads
  exact vetted_of_read unread isActive

/-- The config that a check returns can be used. -/
def ChecksDelivery (accountId : Id)
    (result : Except Nat TraefikConfigDeliveryConfig)
    (history : BackendHistory) : Prop :=
  ∀ config, result = .ok config →
    Vetted ((ActionConfig.delivery config).reference accountId) history

theorem validateDeliveryConfig_vets (deps : ActionsRouteDeps)
    (unlooked : Unlooked accountId history) (ipClientId : Option Id)
    (raw : Option ActionConfigBody) (ignoreActionId : Option Id) :
    (Actions.validateDeliveryConfig deps accountId ipClientId raw
      ignoreActionId).Traces (LooksFirst accountId)
      (onReturn (ChecksDelivery accountId)) history := by
  have refused {status : Nat} {history : BackendHistory} :
      ChecksDelivery accountId (.error status) history := by
    intro config same
    cases same
  unfold Actions.validateDeliveryConfig
  split
  · dsimp only
    split
    · exact refused
    rename_i traefikProviderId requested
    split
    · apply (loadActive_vets (unlooked (.delivery ⟨traefikProviderId, ""⟩))).seq
      intro provider later vets
      split
      · exact refused
      rename_i active
      have vetted := vets (by simpa [Option.isSome_iff_ne_none] using active)
      have lists : (listDeliveryActions accountId).Traces
          (LooksFirst accountId) (onReturn fun _ later =>
            Vetted ⟨accountId, .traefikProvider, traefikProviderId⟩ later)
          later := by
        apply (keeps_vetted (listDeliveryActions_apart _ _) vetted).mono
        · intro history result vetted
          cases result with
          | ok actions => exact vetted
          | error error => trivial
        · exact AggregateType.noConfusion
      apply lists.seq
      intro existing later vetted
      split
      · exact refused
      · intro config same
        cases same
        exact vetted
    · exact refused
  · exact refused

theorem validateFirewallSelector_apart (apiToken : String)
    (config : UpdateFirewallRuleConfig) (type : AggregateType) :
    (Actions.validateFirewallSelector apiToken config).Calls
      (Call.apartFrom type) := by
  apply Program.Calls.bind
  · apply Program.Calls.attempt
    exact (Backend.calls_call _).mpr ⟨rfl, by simp [Call.readsType]⟩
  intro rules
  split
  · trivial
  split <;> trivial

/-- What a check of a config returns: it can be used, and delivers only if it
should. -/
def ChecksConfig (accountId : Id) (delivers : Prop)
    (result : Except Nat ActionConfig) (history : BackendHistory) : Prop :=
  ∀ config, result = .ok config →
    Vetted (config.reference accountId) history ∧
    (config.asDelivery.isSome = true → delivers)

theorem ChecksConfig.refused {delivers : Prop} {status : Nat} :
    ChecksConfig accountId delivers (.error status) history := by
  intro config same
  cases same

/-- The rule of a firewall config is looked up once its credential is vetted. -/
theorem selector_checks {delivers : Prop} {apiToken : String}
    {required : UpdateFirewallRuleConfig}
    (vetted : Vetted
      ⟨accountId, .providerCredential, required.providerCredentialId⟩
      history) :
    ((Actions.validateFirewallSelector apiToken required).bind fun refusal =>
      match refusal with
      | some status => .done (.error status)
      | none => .done (.ok (ActionConfig.firewall required))).Traces
      (LooksFirst accountId) (onReturn (ChecksConfig accountId delivers))
      history := by
  apply (keeps_vetted (validateFirewallSelector_apart _ _ _) vetted).bind _
    fun _ _ _ => trivial
  intro later refusal vetted
  split
  · exact .refused
  · intro config same
    cases same
    refine ⟨vetted, ?_⟩
    intro same
    cases same

theorem validateFirewallConfig_vets {delivers : Prop}
    (unlooked : Unlooked accountId history)
    (config : UpdateFirewallRuleConfig) :
    (Actions.validateFirewallConfig accountId config).Traces
      (LooksFirst accountId) (onReturn (ChecksConfig accountId delivers))
      history := by
  apply (loadOwnedActiveCredential_vets (unlooked (.firewall config))).seq
  intro credential later vets
  split
  · exact .refused
  · exact selector_checks (vets rfl)

theorem requiredDns_credential {config : ActionConfigBody}
    {required : ActionConfig}
    (isRequired : Actions.requiredDns config = some required) :
    ∃ dns : UpdateDnsRecordConfig, required = .dns dns := by
  unfold Actions.requiredDns at isRequired
  split at isRequired
  · cases isRequired
    exact ⟨_, rfl⟩
  · cases isRequired

theorem requiredFirewall_credential {config : ActionConfigBody}
    {required : UpdateFirewallRuleConfig}
    (isRequired : Actions.requiredFirewall config = some required) :
    config.providerCredentialId = some required.providerCredentialId := by
  unfold Actions.requiredFirewall at isRequired
  split at isRequired
  · cases isRequired
    assumption
  · cases isRequired

theorem validateAttach_vets (deps : ActionsRouteDeps) (ipClientId : Id)
    (config : Option ActionConfigBody) (type : ActionType) :
    (Actions.validateAttach deps accountId ipClientId config type).Traces
      (LooksFirst accountId) (onReturn
        (ChecksConfig accountId (type = .traefikConfigDelivery))) [] := by
  have unlooked : Unlooked accountId [] := fun _ => rfl
  cases type with
  | traefikConfigDelivery =>
      apply (load_traces _ _ looksFirst_of_reads).seq
      intro device later loads
      obtain ⟨seen, rfl, rfl⟩ := loads
      split
      · apply (validateDeliveryConfig_vets deps (unlooked.later _) _ _ _).seq
        · intro validation later checks
          intro stored same
          cases validation with
          | error status => cases same
          | ok delivery =>
              cases same
              exact ⟨checks delivery rfl, fun _ => rfl⟩
        · exact ⟨AggregateType.noConfusion, AggregateType.noConfusion⟩
      · exact ChecksConfig.refused
  | hetznerCloudDnsUpdate =>
      simp only [Actions.validateAttach]
      split
      · exact ChecksConfig.refused
      rename_i required isRequired
      obtain ⟨body, -, requires⟩ := Option.bind_eq_some_iff.mp isRequired
      obtain ⟨dns, rfl⟩ := requiredDns_credential requires
      apply (loadOwnedActiveCredential_vets (unlooked (.dns dns))).seq
      intro credential later vets
      split
      · exact ChecksConfig.refused
      · rename_i active
        intro stored same
        cases same
        refine ⟨vets (by simpa [Option.isSome_iff_ne_none] using active), ?_⟩
        intro same
        cases same
  | hetznerCloudFirewallRuleUpdate =>
      simp only [Actions.validateAttach]
      split
      · exact ChecksConfig.refused
      · exact validateFirewallConfig_vets unlooked _

theorem validateCredentialConfig_vets {delivers : Prop}
    (unlooked : Unlooked accountId history) (type : Option ActionType)
    (config : ActionConfigBody) :
    (Actions.validateCredentialConfig accountId type config).Traces
      (LooksFirst accountId) (onReturn (ChecksConfig accountId delivers))
      history := by
  unfold Actions.validateCredentialConfig
  split
  · exact ChecksConfig.refused
  rename_i providerCredentialId given
  apply (loadOwnedActiveCredential_vets
    (unlooked (.dns ⟨providerCredentialId, none, none⟩))).seq
  intro credential later vets
  split
  · exact ChecksConfig.refused
  have vetted := vets rfl
  split
  · split
    · exact ChecksConfig.refused
    rename_i required isRequired
    have same : providerCredentialId = required.providerCredentialId :=
      Option.some.inj
        (given.symm.trans (requiredFirewall_credential isRequired))
    subst same
    exact selector_checks vetted
  · intro stored same
    cases same
    refine ⟨vetted, ?_⟩
    intro same
    cases same

/-- What the check of a reconfiguration returns. -/
def ChecksReconfigure (accountId : Id) (state : ActionState)
    (result : Except Nat (Option ActionConfig)) (history : BackendHistory) :
    Prop :=
  ∀ config, result = .ok (some config) →
    Vetted (config.reference accountId) history ∧
    (config.asDelivery.isSome = true →
      state.type = some .traefikConfigDelivery)

theorem validateReconfigure_vets (deps : ActionsRouteDeps) (actionId : Id)
    (unlooked : Unlooked accountId history) (state : ActionState)
    (config : Option ActionConfigBody) :
    (Actions.validateReconfigure deps accountId actionId state config).Traces
      (LooksFirst accountId) (onReturn (ChecksReconfigure accountId state))
      history := by
  cases config with
  | none => rintro config ⟨⟩
  | some config =>
      simp only [Actions.validateReconfigure]
      split
      · rename_i delivers
        apply (validateDeliveryConfig_vets deps unlooked _ _ _).seq
        intro validation later checks
        intro stored same
        cases validation with
        | error status => cases same
        | ok delivery =>
            cases same
            exact ⟨checks delivery rfl, fun _ => delivers⟩
      · apply (validateCredentialConfig_vets unlooked state.type config).seq
          (ChecksConfig accountId (state.type = some .traefikConfigDelivery))
        intro validation later checks
        intro stored same
        cases validation with
        | error status => cases same
        | ok config =>
            cases same
            exact checks stored rfl

/-! ## The routes of an action -/

theorem attach_looks (deps : ActionsRouteDeps) (ipClientId : Id)
    (body : AttachBody) :
    (Actions.attach deps accountId ipClientId body now).Traces
      (LooksFirst accountId) anyEnd [] := by
  unfold Actions.attach
  split
  · trivial
  split
  · trivial
  apply (validateAttach_vets deps ipClientId _ _).bind _ fun _ _ _ => trivial
  intro later validation checks
  split
  · trivial
  rename_i type _ _ config
  obtain ⟨vetted, delivers⟩ := checks config rfl
  refine ⟨looksFirst_of_quiet rfl, ?_⟩
  intro drawn
  cases drawn with
  | error error => trivial
  | ok actionId =>
      refine ⟨?_, ?_⟩
      · intro input same
        cases same
        refine ⟨rfl, ?_, ?_, ?_⟩
        · intro data same
          cases same
          exact ⟨vetted.later (by simp [Call.readsType]) _, delivers⟩
        · intro data config same
          cases same
        · intro same
          cases same
      · intro stored
        cases stored with
        | error error => trivial
        | ok stored =>
            apply quiet_looks
            apply Program.Calls.bind (Actions.refreshProjection_quiet _ _)
            intro _
            apply Program.Calls.bind
            · exact Backend.quiet_of_reads (Actions.currentState_reads _ _)
            intro state
            apply Program.Calls.bind (Actions.scheduleDelivery_quiet _ _ _)
            exact fun _ => trivial

theorem reconfigure_looks (deps : ActionsRouteDeps) (actionId : Id)
    (body : ReconfigureBody) :
    (Actions.reconfigure deps accountId actionId body now).Traces
      (LooksFirst accountId) anyEnd [] := by
  have unlooked : Unlooked accountId [] := fun _ => rfl
  unfold Actions.reconfigure Actions.loadOwnedAction
  simp only [Program.monadBind_eq_bind, Program.bind_assoc,
    Program.pure_eq_done, Program.done_bind]
  apply (load_traces _ _ looksFirst_of_reads).bind _ fun _ _ _ => trivial
  intro afterLoad loaded loads
  obtain ⟨seen, rfl, rfl⟩ := loads
  have first : FirstRead ⟨accountId, .action, actionId⟩ seen
      ([] ++ [readAs ⟨accountId, .action, actionId⟩ seen]) := by
    unfold FirstRead
    rw [List.nil_append, readsOf_readAs, if_pos rfl]
    rfl
  split
  · trivial
  rename_i owned isOwned
  split at isOwned
  · cases isOwned
    rename_i owns
    have isThere : (actionOf seen).actionId.isSome = true :=
      (of_decide_eq_true owns).1
    split
    · trivial
    have checked := (validateReconfigure_vets deps actionId
      (unlooked.later ⟨AggregateType.noConfusion, AggregateType.noConfusion⟩)
      (actionOf seen) body.config).keeping (firstRead_lasting _ seen) first
    apply checked.bind _ fun _ _ _ => trivial
    intro later validation both
    obtain ⟨first, checks⟩ := both
    split
    · trivial
    unfold Actions.reconfigureValid
    apply Program.Traces.bind
    · apply call_traces
      intro input same
      cases same
      refine ⟨rfl, ?_, ?_, ?_⟩
      · intro data same
        cases same
      · rintro data config ⟨⟩ ⟨⟩
        obtain ⟨vetted, delivers⟩ := checks config rfl
        exact ⟨vetted, seen, first, isThere, delivers⟩
      · intro same
        cases same
    · intro history stored _
      apply quiet_looks
      apply Program.Calls.bind (Actions.refreshProjection_quiet _ _)
      intro _
      apply Program.Calls.bind
      · exact Backend.quiet_of_reads (Actions.currentState_reads _ _)
      intro state
      apply Program.Calls.bind (Actions.scheduleDelivery_quiet _ _ _)
      intro _
      apply Program.Calls.bind (Actions.cleanupDropped_quiet _ _ _)
      exact fun _ => trivial
    · exact fun _ _ _ => trivial
  · cases isOwned

/-- A change of status needs no look. -/
theorem changeStatus_looks (deps : ActionsRouteDeps) (actionId : Id)
    {command : ActionCommand} {changedId : Id} {event : ActionEvent}
    (change : command.change now = some (changedId, event)) (atEnd : Nat)
    {afterwards : ActionState → Backend Unit}
    (calls : ∀ state, (afterwards state).Calls
      fun call => Backend.quiet call = true) :
    (Actions.changeStatus deps accountId actionId event atEnd
      afterwards).AlwaysTraces (LooksFirst accountId) := by
  apply Program.AlwaysTraces.bind
  · apply quiet_looks
    apply Program.Calls.bind
    · exact Backend.quiet_of_reads (loadAggregate_reads _ _ _)
    · exact fun _ => trivial
  intro owned
  split
  · exact .done _
  split
  · exact .done _
  apply Program.AlwaysTraces.bind
  · intro history
    apply call_traces
    intro input same
    cases same
    cases command <;> cases change <;>
      exact ⟨rfl, by rintro data ⟨⟩, by rintro data config ⟨⟩, by rintro ⟨⟩⟩
  intro stored
  apply quiet_looks
  apply Program.Calls.bind (Actions.refreshProjection_quiet _ _)
  intro _
  apply Program.Calls.bind (Actions.scheduleDelivery_quiet _ _ _)
  intro _
  apply Program.Calls.bind (calls _)
  exact fun _ => trivial

/-! ## Deleting a provider and revoking a credential -/

theorem uses_delivery {state : ActionState} {providerId : Id}
    (actionId : Id) (wellTyped : state.WellTyped)
    (uses : state.uses ⟨accountId, .traefikProvider, providerId⟩) :
    ∃ action, state.deliveryAction actionId = some action ∧
      action.traefikProviderId = providerId := by
  obtain ⟨alive, config, hasConfig, named⟩ := uses
  cases config with
  | dns config => cases named
  | firewall config => cases named
  | delivery config =>
      cases named
      have isThere := wellTyped.actionId (by rw [hasConfig]; rfl)
      obtain ⟨ipClientId, device⟩ :=
        Option.isSome_iff_exists.mp (wellTyped.ipClientId isThere)
      have delivers := wellTyped.delivers (by rw [hasConfig]; rfl)
      unfold ActionState.deliveryAction
      rw [delivers, device, hasConfig]
      cases status : state.status with
      | detached => exact absurd status alive
      | enabled => exact ⟨_, rfl, rfl⟩
      | disabled => exact ⟨_, rfl, rfl⟩

theorem uses_credential {state : ActionState} {credentialId : Id}
    (wellTyped : state.WellTyped)
    (uses : state.uses ⟨accountId, .providerCredential, credentialId⟩) :
    ProviderCredentials.uses state credentialId = true := by
  obtain ⟨alive, config, hasConfig, named⟩ := uses
  have isThere := wellTyped.actionId (by rw [hasConfig]; rfl)
  have device := wellTyped.ipClientId isThere
  unfold ProviderCredentials.uses
  rw [decide_eq_true_eq]
  refine ⟨alive, ?_, isThere, device⟩
  rw [hasConfig]
  cases config with
  | dns config => cases named; rfl
  | firewall config => cases named; rfl
  | delivery config => cases named

theorem mem_deliveries {reads : List (Id × List StoredEvent)}
    {action : DeliveryAction} {actionId : Id} {seen : List StoredEvent}
    (member : (actionId, seen) ∈ reads)
    (delivers : (actionOf seen).deliveryAction actionId = some action) :
    action ∈ reads.foldr (fun read rest =>
      ((replayed initialActionState actionReducer
        read.2).state.deliveryAction read.1).toList ++ rest) [] := by
  induction reads with
  | nil => cases member
  | cons read reads ih =>
      rw [List.foldr_cons]
      apply List.mem_append.mpr
      rcases List.mem_cons.mp member with same | later
      · left
        subst same
        exact Option.mem_toList.mpr delivers
      · exact .inr (ih later)

theorem used_of_read {reads : List (Id × List StoredEvent)}
    {credentialId actionId : Id} {seen : List StoredEvent}
    (member : (actionId, seen) ∈ reads)
    (uses : ProviderCredentials.uses (actionOf seen) credentialId = true) :
    reads.foldr (fun read rest =>
      ProviderCredentials.uses (replayed initialActionState actionReducer
        read.2).state credentialId || rest) false = true := by
  induction reads with
  | nil => cases member
  | cons read reads ih =>
      rw [List.foldr_cons, Bool.or_eq_true]
      rcases List.mem_cons.mp member with same | later
      · left
        subst same
        exact uses
      · exact .inr (ih later)

/-- Before the loop no action was read. -/
theorem readsOf_before_loop {asked : ReadStreamParams}
    (other : asked.aggregateType ≠ .action) (seen : List StoredEvent)
    (ids : List Id) (actionId : Id) :
    readsOf ⟨accountId, .action, actionId⟩
      ([] ++ [readAs asked seen] ++
        [⟨.store (.listAggregateIds accountId .action), .ok ids⟩]) = [] := by
  have different : asked ≠ ⟨accountId, .action, actionId⟩ := by
    intro same
    subst same
    exact other rfl
  rw [readsOf_append, readsOf_concat, readsOf_readAs, if_neg different]
  rfl

/-- The call reads no action and appends nothing but the deletion. -/
def DeletesOnly (accountId providerId : Id) (now : Timestamp) (call : Call) :
    Prop :=
  call.readsType ≠ some .action ∧ ∀ input, call = .store (.append input) →
    ∃ version, input =
      ProviderStore.appendInput accountId providerId version (.deleted now)

/-- What is left of the deletion once no action uses the provider. -/
theorem providerAppend_looks {providerId : Id}
    (unused :
      Unused ⟨accountId, .traefikProvider, providerId⟩ history) :
    (ProviderStore.append accountId providerId (.deleted now)).Traces
      (LooksFirst accountId) anyEnd history := by
  have calls : (ProviderStore.append accountId providerId
      (.deleted now)).Calls (DeletesOnly accountId providerId now) := by
    apply providerAppend_calls
    · intro call isStep
      refine ⟨?_, fun input same => (noAppend_of_stepsOn isStep input same).elim⟩
      cases call with
      | store call => cases isStep
      | _ => simp [Call.readsType]
    · exact ⟨by simp [Call.readsType], by rintro input ⟨⟩⟩
    · intro version
      refine ⟨by simp [Call.readsType], ?_⟩
      intro input same
      cases same
      exact ⟨version, rfl⟩
  apply (Program.Traces.of_quiet (Unused _) calls _ _ unused).mono
    fun _ _ _ => trivial
  · exact fun _ _ answer apart unused => unused.later apart.1 answer
  · intro history call unused apart input same
    obtain ⟨version, rfl⟩ := apart.2 input same
    exact ⟨rfl, by rintro data ⟨⟩, by rintro data config ⟨⟩, fun _ => unused⟩

theorem delete_looks (providerId : Id) :
    (TraefikProviders.delete accountId providerId now).Traces
      (LooksFirst accountId) anyEnd [] := by
  unfold TraefikProviders.delete ProviderStore.loadActive ProviderStore.load
    listDeliveryActions
  simp only [Program.monadBind_eq_bind, Program.bind_assoc,
    Program.pure_eq_done, Program.done_bind]
  apply (load_traces _ _ looksFirst_of_reads).bind _ fun _ _ _ => trivial
  intro afterLoad loaded loads
  obtain ⟨provider, rfl, rfl⟩ := loads
  split
  · trivial
  refine ⟨looksFirst_of_reads _ _ rfl, ?_⟩
  intro listing
  cases listing with
  | error error => trivial
  | ok ids =>
      apply ((deliveryActionsOf_loads accountId).traces looksFirst_of_reads
        ids _).bind _ fun _ _ _ => trivial
      intro history actions lists
      obtain ⟨reads, -, rfl, rfl⟩ := lists
      split
      · trivial
      rename_i free
      have unused : Unused ⟨accountId, .traefikProvider, providerId⟩
          ([] ++ [readAs ⟨accountId, .traefikProvider, providerId⟩ provider]
            ++ [⟨.store (.listAggregateIds accountId .action), .ok ids⟩] ++
            loopAnswers (fun actionId => ⟨accountId, .action, actionId⟩)
              reads) := by
        intro actionId seen member wellTyped uses
        have isRead := mem_reads_of_loop
          (readsOf_before_loop AggregateType.noConfusion _ _) member
        obtain ⟨action, delivers, named⟩ :=
          uses_delivery actionId wellTyped uses
        apply free
        apply List.any_eq_true.mpr
        exact ⟨action, mem_deliveries isRead delivers,
          decide_eq_true named⟩
      apply (providerAppend_looks unused).bind _ fun _ _ _ => trivial
      intro later stored _
      refine ⟨?_, ?_⟩
      · intro input same
        cases same
      · intro answer
        cases answer <;> trivial

theorem revoke_looks (credentialId : Id) :
    (ProviderCredentials.revoke accountId credentialId now).Traces
      (LooksFirst accountId) anyEnd [] := by
  unfold ProviderCredentials.revoke
  simp only [Program.monadBind_eq_bind, Program.pure_eq_done]
  apply (load_traces _ _ looksFirst_of_reads).bind _ fun _ _ _ => trivial
  intro afterLoad loaded loads
  obtain ⟨credential, rfl, rfl⟩ := loads
  split
  · refine ⟨looksFirst_of_reads _ _ rfl, ?_⟩
    intro listing
    cases listing with
    | error error => trivial
    | ok ids =>
        apply ((usedByOf_loads accountId credentialId).traces
          looksFirst_of_reads ids _).bind _ fun _ _ _ => trivial
        intro history used looks
        obtain ⟨reads, -, rfl, rfl⟩ := looks
        split
        · trivial
        rename_i free
        refine ⟨?_, ?_⟩
        · intro input same
          cases same
          refine ⟨rfl, by rintro data ⟨⟩, by rintro data config ⟨⟩, ?_⟩
          intro _ actionId seen member wellTyped uses
          have isRead := mem_reads_of_loop
            (readsOf_before_loop AggregateType.noConfusion _ _) member
          exact free (used_of_read isRead (uses_credential wellTyped uses))
        · intro answer
          cases answer <;> trivial
  · trivial

end FluxIP
