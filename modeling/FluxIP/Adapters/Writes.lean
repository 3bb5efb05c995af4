import FluxIP.Adapters.Origins

/-!
# What executions write

The executors are the only programs that write at the provider's: addresses of
the job to the record its action was told of, and to a firewall what was listed
there together with the hosts of these addresses.
-/

namespace FluxIP

open Async

namespace Origins

variable {stored : List StoredEvent}
variable {listed : Nat → List HetznerFirewallRule → Prop}
variable {data : ActionExecutionJobData}

/-! ## Address lists -/

section Lists

variable {rules : List HetznerFirewallRule} {matched : HetznerFirewallRule}
variable {remove add values : FamilyValues} {entry : String}
variable {current : List String} {families : List AddressFamily}

theorem mem_foldl_pushNew {values : List String}
    (member : entry ∈ values.foldl pushNew current) :
    entry ∈ current ∨ entry ∈ values := by
  induction values generalizing current with
  | nil => exact .inl member
  | cons value values ih =>
      rcases ih member with pushed | later
      · unfold pushNew at pushed
        split at pushed
        · exact .inl pushed
        · rcases List.mem_append.mp pushed with old | new
          · exact .inl old
          · exact .inr (List.mem_singleton.mp new ▸ List.mem_cons_self)
      · exact .inr (List.mem_cons_of_mem _ later)

theorem mem_nextList (member : entry ∈ nextList current remove add) :
    entry ∈ current ∨ entry ∈ add.entries := by
  rcases mem_foldl_pushNew member with spared | added
  · exact .inl (List.mem_filter.mp spared).1
  · exact .inr added

theorem mem_withAddresses {rule : HetznerFirewallRule}
    {addresses : List String}
    (member : entry ∈ (rule.withAddresses addresses).sourceIps.getD [] ++
      (rule.withAddresses addresses).destinationIps.getD []) :
    entry ∈ addresses ∨
      entry ∈ rule.sourceIps.getD [] ++ rule.destinationIps.getD [] := by
  unfold HetznerFirewallRule.withAddresses at member
  split at member
  · rcases List.mem_append.mp member with new | other
    · exact .inl new
    · exact .inr (List.mem_append_right _ other)
  · rcases List.mem_append.mp member with other | new
    · exact .inr (List.mem_append_left _ other)
    · exact .inl new

theorem mem_addresses {rule : HetznerFirewallRule}
    (member : entry ∈ rule.addresses) :
    entry ∈ rule.sourceIps.getD [] ++ rule.destinationIps.getD [] := by
  unfold HetznerFirewallRule.addresses at member
  split at member
  · exact List.mem_append_left _ member
  · exact List.mem_append_right _ member

/-- An update lists nothing but what it adds and what was listed. -/
theorem listedIn_updatedRules
    (member : entry ∈ listedIn (updatedRules rules matched remove add)) :
    entry ∈ listedIn rules ∨ entry ∈ add.entries := by
  obtain ⟨updated, isRule, inRule⟩ := List.mem_flatMap.mp member
  obtain ⟨rule, isOld, rfl⟩ := List.mem_map.mp isRule
  have there (inOld : entry ∈ rule.sourceIps.getD [] ++
      rule.destinationIps.getD []) : entry ∈ listedIn rules :=
    List.mem_flatMap.mpr ⟨rule, isOld, inOld⟩
  split at inRule
  · rcases mem_withAddresses inRule with inNext | other
    · rcases mem_nextList inNext with before | added
      · exact .inl (there (mem_addresses before))
      · exact .inr added
    · exact .inl (there other)
  · exact .inl (there inRule)

/-- What an execution adds opens the hosts of its addresses. -/
theorem opens_of_added {ipValues : ActionExecutionIpValues}
    (member : entry ∈ (HetznerFirewallExecutor.added ipValues).entries) :
    ipValues.Opens entry := by
  have isValue := (List.mem_filter.mp member).1
  rcases List.mem_append.mp isValue with four | six
  · obtain ⟨address, carried, same⟩ :=
      Option.map_eq_some_iff.mp (Option.mem_toList.mp four)
    exact ⟨.ipv4, address, carried, same.symm⟩
  · obtain ⟨address, carried, same⟩ :=
      Option.map_eq_some_iff.mp (Option.mem_toList.mp six)
    exact ⟨.ipv6, address, carried, same.symm⟩

/-- The values an executor is given are those of the job. -/
theorem truthy_relevant {family : AddressFamily} {address : String}
    (carried : truthy ((relevantIpValues families values).get family) =
      some address) :
    truthy (values.get family) = some address := by
  cases family with
  | ipv4 =>
      change truthy (if _ then values.ipv4 else none) = some address at carried
      split at carried
      · exact carried
      · cases carried
  | ipv6 =>
      change truthy (if _ then values.ipv6 else none) = some address at carried
      split at carried
      · exact carried
      · cases carried

theorem opens_relevant
    (opens : (relevantIpValues families values).Opens entry) :
    values.Opens entry := by
  obtain ⟨family, address, carried, same⟩ := opens
  exact ⟨family, address, truthy_relevant carried, same⟩

end Lists

/-! ## Programs that write nothing -/

theorem writesNothing_of_quietRead {call : Call}
    (isRead : Backend.reads call = true) : call.writesNothing = true := by
  cases call with
  | store call => rfl
  | _ => cases isRead

theorem writes_of_writesNothing {call : Call}
    (nothing : call.writesNothing = true) : call.Writes stored listed data := by
  cases call with
  | hetzner call =>
      cases call with
      | getFirewall apiToken firewallId => trivial
      | setFirewallRules apiToken firewallId rules => cases nothing
      | setRecords apiToken zoneName recordName type value => cases nothing
  | _ => trivial

theorem writes_of_calls {α : Type} {program : Backend α}
    (calls : program.Calls fun call => Call.writesNothing call = true) :
    program.CallsGiven (Found stored listed)
      (Call.Writes stored listed data) :=
  .of_calls (calls.mono fun _ => writes_of_writesNothing)

theorem call_writesNothing (awaited : Call)
    (nothing : awaited.writesNothing = true) :
    (Backend.call awaited).Calls fun call => Call.writesNothing call = true :=
  (Backend.calls_call awaited).mpr nothing

section Records

variable {deps : ActionExecutionWorkerDeps} {delivery : Delivery}
variable {accountId executionId : Id}

theorem load_writesNothing {State : Type} (params : ReadStreamParams)
    (initialState : State) (reducer : State → StoredEvent → State) :
    (loadAggregate params initialState reducer).Calls
      fun call => Call.writesNothing call = true :=
  (loadAggregate_reads _ _ _).mono fun _ => writesNothing_of_quietRead

theorem appendExecutionEvent_writesNothing {event : ActionExecutionEvent} :
    (appendExecutionEvent accountId executionId event).Calls
      fun call => Call.writesNothing call = true := by
  apply Program.Calls.bind
  · apply Program.Calls.bind (load_writesNothing _ _ _)
    exact fun _ => trivial
  intro position
  apply Program.Calls.bind (call_writesNothing (.store _) rfl)
  exact fun _ => trivial

theorem refreshExecution_writesNothing :
    (refreshExecutionProjection accountId executionId).Calls
      fun call => Call.writesNothing call = true := by
  apply Program.Calls.bind (load_writesNothing _ _ _)
  intro loaded
  unfold upsertExecutionProjection
  split
  · trivial
  · exact call_writesNothing (.redis _) rfl

theorem maybeSendNotification_writesNothing {outcome : ExecutionOutcome} :
    (maybeSendNotification deps delivery outcome).Calls
      fun call => Call.writesNothing call = true := by
  refine Program.Calls.tryCatch ?_ fun _ => trivial
  apply Program.Calls.bind (load_writesNothing _ _ _)
  intro client
  split
  · apply Program.Calls.bind (load_writesNothing _ _ _)
    intro loaded
    dsimp only
    split
    · trivial
    split
    · apply Program.Calls.bind (call_writesNothing (.send _ _) rfl)
      exact fun _ => appendExecutionEvent_writesNothing
    · trivial
  · trivial

theorem bookkeeping_writesNothing {ipValues : IpValuesUsed} :
    (appendFirewallRuleAppliedEventBestEffort delivery ipValues).Calls
      fun call => Call.writesNothing call = true := by
  have one : (appendFirewallRuleApplied delivery ipValues).Calls
      fun call => Call.writesNothing call = true := by
    apply Program.Calls.bind (load_writesNothing _ _ _)
    intro loaded
    apply Program.Calls.bind (call_writesNothing (.store _) rfl)
    exact fun _ => trivial
  apply Program.Calls.bind one.attempt
  intro first
  split
  · apply Program.Calls.bind one.attempt
    exact fun _ => trivial
  · trivial

theorem recordFailure_writesNothing {error : Err} :
    (recordFailure deps delivery error).Calls
      fun call => Call.writesNothing call = true := by
  apply Program.Calls.bind appendExecutionEvent_writesNothing
  intro _
  apply Program.Calls.bind refreshExecution_writesNothing
  intro _
  apply Program.Calls.bind
    (Program.Calls.onlyIf maybeSendNotification_writesNothing)
  exact fun _ => trivial

end Records

/-! ## The executors -/

section Executors

variable {families : List AddressFamily}

/-- The record the config of a DNS action names. -/
def ToRecord (stored : List StoredEvent) (data : ActionExecutionJobData)
    (resolved : HetznerDnsResolvedConfig) : Prop :=
  ∃ config dns, WasGiven stored data.accountId data.actionId config ∧
    config.asDns = some dns ∧ resolved.zoneName = dns.zone ∧
    resolved.recordName = dns.recordName

/-- The firewall the config of a firewall action names. -/
def ToFirewall (stored : List StoredEvent) (data : ActionExecutionJobData)
    (resolved : HetznerFirewallResolvedConfig) : Prop :=
  ∃ config, WasGiven stored data.accountId data.actionId (.firewall config) ∧
    config.firewallId = resolved.firewallId

theorem update_writes {resolved : HetznerDnsResolvedConfig}
    {type : RecordType} {label : String} {address : Option String}
    (toRecord : ToRecord stored data resolved)
    (ofJob : ∀ value, truthy address = some value →
      truthy (data.ipValues.get type.family) = some value) :
    (HetznerDnsExecutor.update resolved type label address).CallsGiven
      (Found stored listed) (Call.Writes stored listed data) := by
  unfold HetznerDnsExecutor.update
  split
  · rename_i value carried
    obtain ⟨config, dns, given, isDns, sameZone, sameRecord⟩ := toRecord
    apply Program.CallsGiven.perform
    · refine ⟨ofJob value carried, config, dns, given, isDns, ?_, ?_⟩
      · rw [sameZone]
      · rw [sameRecord]
    · exact fun _ _ => trivial
  · trivial

theorem dnsExecutor_writes {resolved : HetznerDnsResolvedConfig}
    (toRecord : ToRecord stored data resolved) :
    (HetznerDnsExecutor.execute resolved
      (relevantIpValues families data.ipValues)).CallsGiven
        (Found stored listed) (Call.Writes stored listed data) := by
  apply Program.CallsGiven.bind
  · exact update_writes toRecord fun value carried =>
      @truthy_relevant _ families .ipv4 value carried
  intro first
  apply Program.CallsGiven.bind
  · exact update_writes toRecord fun value carried =>
      @truthy_relevant _ families .ipv6 value carried
  intro second
  dsimp only
  split <;> trivial

theorem acquireLoop_writesNothing (key : LockKey) (token : Id)
    (deadline : Timestamp) (passes : Nat) :
    (acquireLoop key token deadline passes).Calls
      fun call => Call.writesNothing call = true := by
  induction passes with
  | zero => trivial
  | succ passes ih =>
      unfold acquireLoop
      apply Program.Calls.bind (call_writesNothing (.redis _) rfl)
      intro acquired
      split
      · trivial
      · apply Program.Calls.bind (call_writesNothing (.clock _) rfl)
        intro now
        split
        · trivial
        · apply Program.Calls.bind (call_writesNothing (.clock _) rfl)
          exact fun _ => ih

/-- The one read-modify-write path of a firewall. -/
theorem rewrite_writes {resolved : HetznerFirewallResolvedConfig}
    {remove add : FamilyValues}
    (toFirewall : ToFirewall stored data resolved)
    (opens : ∀ entry ∈ add.entries, data.ipValues.Opens entry) :
    (rewriteFirewallRule resolved remove add).CallsGiven
      (Found stored listed) (Call.Writes stored listed data) := by
  apply Program.CallsGiven.perform trivial
  intro rules read
  split
  · trivial
  · trivial
  · rename_i matched _
    apply Program.CallsGiven.of_calls
    apply (Backend.calls_call _).mpr
    refine ⟨toFirewall, rules, read, ?_⟩
    intro entry member
    rcases listedIn_updatedRules member with before | added
    · exact .inl before
    · exact .inr (opens entry added)

theorem firewallExecutor_writes {resolved : HetznerFirewallResolvedConfig}
    (toFirewall : ToFirewall stored data resolved) :
    (HetznerFirewallExecutor.execute resolved
      (relevantIpValues families data.ipValues)).CallsGiven
        (Found stored listed) (Call.Writes stored listed data) := by
  unfold HetznerFirewallExecutor.execute
  split
  · trivial
  apply Program.CallsGiven.bind
  · apply Program.CallsGiven.bind
    · apply writes_of_calls
      apply Program.Calls.bind (call_writesNothing (.clock _) rfl)
      intro token
      apply Program.Calls.bind (call_writesNothing (.clock _) rfl)
      exact fun now => acquireLoop_writesNothing _ _ _ _
    intro lock
    apply Program.CallsGiven.bind
    · apply Program.CallsGiven.attempt
      apply rewrite_writes toFirewall
      exact fun entry added => opens_relevant (opens_of_added added)
    intro outcome
    apply Program.CallsGiven.bind
    · exact writes_of_calls (call_writesNothing (.redis _) rfl)
    intro _
    cases outcome <;> trivial
  · exact fun _ => trivial

end Executors

/-! ## Executions -/

section Executions

variable {deps : ActionExecutionWorkerDeps} {delivery : Delivery}
variable {action : ActionState} {config : ActionConfig}

theorem resolveApiToken_returns {accountId credentialId : Id} {β : Type}
    {next : String → Backend β} {post : β → Prop}
    (rest : ∀ token, (next token).ReturnsGiven (Found stored listed) post) :
    ((resolveApiToken accountId credentialId).bind next).ReturnsGiven
      (Found stored listed) post :=
  (Program.ReturnsGiven.anything _).bind fun token _ => rest token

theorem resolve_writesNothing {type : ActionType} {entries : FamilyValues} :
    (resolveExecutorConfig deps data.accountId config entries type).Calls
      fun call => Call.writesNothing call = true :=
  (resolveExecutorConfig_reads _ _ _ _).mono fun _ =>
    writesNothing_of_quietRead

/-- What follows the executor of an attempt writes nothing. -/
theorem executeAndRecord_writes {type : ActionType}
    {executor : ActionExecutor type} {post : ResolvedConfig type → Prop}
    (resolves : (resolveExecutorConfig deps delivery.data.accountId config
      action.firewallOwnedEntries type).ReturnsGiven (Found stored listed)
        post)
    (executes : ∀ resolved, post resolved →
      (executor.execute resolved (relevantIpValues action.addressFamilies
        delivery.data.ipValues)).CallsGiven (Found stored listed)
          (Call.Writes stored listed delivery.data)) :
    (executeAndRecord deps delivery type config action executor).CallsGiven
      (Found stored listed) (Call.Writes stored listed delivery.data) := by
  apply resolves.seq (writes_of_calls resolve_writesNothing)
  intro resolved isResolved
  apply Program.CallsGiven.bind
  · exact writes_of_calls (call_writesNothing (.process _) rfl)
  intro _
  apply Program.CallsGiven.bind (executes resolved isResolved)
  intro result
  apply writes_of_calls
  apply Program.Calls.bind appendExecutionEvent_writesNothing
  intro _
  apply Program.Calls.bind (Program.Calls.onlyIf bookkeeping_writesNothing)
  intro _
  apply Program.Calls.bind refreshExecution_writesNothing
  exact fun _ => maybeSendNotification_writesNothing

theorem dns_executeAndRecord_writes
    (given : WasGiven stored delivery.data.accountId delivery.data.actionId
      config) :
    (executeAndRecord deps delivery .hetznerCloudDnsUpdate config action
      hetznerDnsExecutor).CallsGiven (Found stored listed)
        (Call.Writes stored listed delivery.data) := by
  apply @executeAndRecord_writes stored listed deps delivery action config
    .hetznerCloudDnsUpdate hetznerDnsExecutor (ToRecord stored delivery.data)
  · unfold resolveExecutorConfig
    dsimp only
    split
    · rename_i dns isDns
      apply resolveApiToken_returns
      intro token
      exact ⟨config, dns, given, isDns, rfl, rfl⟩
    · trivial
  · exact fun resolved toRecord => dnsExecutor_writes toRecord

theorem firewall_executeAndRecord_writes
    (given : WasGiven stored delivery.data.accountId delivery.data.actionId
      config) :
    (executeAndRecord deps delivery .hetznerCloudFirewallRuleUpdate config
      action hetznerFirewallExecutor).CallsGiven (Found stored listed)
        (Call.Writes stored listed delivery.data) := by
  apply @executeAndRecord_writes stored listed deps delivery action config
    .hetznerCloudFirewallRuleUpdate hetznerFirewallExecutor
    (ToFirewall stored delivery.data)
  · unfold resolveExecutorConfig
    dsimp only
    split
    · rename_i firewall isFirewall
      apply resolveApiToken_returns
      intro token
      cases config with
      | firewall own =>
          cases isFirewall
          exact ⟨_, given, rfl⟩
      | dns other => cases isFirewall
      | delivery other => cases isFirewall
    · trivial
  · exact fun resolved toFirewall => firewallExecutor_writes toFirewall

theorem processExecution_writes
    (registered : deps.executors = registeredExecutors) :
    (processExecution deps delivery).CallsGiven (Found stored listed)
      (Call.Writes stored listed delivery.data) := by
  apply Program.CallsGiven.bind
    (writes_of_calls appendExecutionEvent_writesNothing)
  intro _
  apply load_calls fun call isRead =>
    writes_of_writesNothing (writesNothing_of_quietRead isRead)
  intro seen ofAction
  have setBy := action_setBy ofAction
  change SetBy _ _ _ (replayed initialActionState actionReducer seen).state
    at setBy
  unfold executeAction
  split
  · rename_i config type _ _ isGiven _
    have given := setBy.config config isGiven
    split
    · apply writes_of_calls
      apply Program.Calls.bind appendExecutionEvent_writesNothing
      intro _
      apply Program.Calls.bind refreshExecution_writesNothing
      exact fun _ => maybeSendNotification_writesNothing
    rw [registered]
    cases type with
    | hetznerCloudDnsUpdate =>
        refine Program.CallsGiven.tryCatch ?_ fun _ =>
          writes_of_calls recordFailure_writesNothing
        exact dns_executeAndRecord_writes given
    | hetznerCloudFirewallRuleUpdate =>
        refine Program.CallsGiven.tryCatch ?_ fun _ =>
          writes_of_calls recordFailure_writesNothing
        exact firewall_executeAndRecord_writes given
    | traefikConfigDelivery => trivial
  · trivial

/-- What the attempts of a job write. -/
theorem execute_writes {backendDeps : BackendDeps} {now : Timestamp}
    {attempts : Nat} {clocks : List AttemptClock}
    (registered : backendDeps.worker.executors = registeredExecutors) :
    ((BackendCommand.execute data attempts clocks).program backendDeps
      now).CallsGiven (Found stored listed)
        (Call.Writes stored listed data) := by
  apply Program.CallsGiven.bind
  · apply Program.CallsGiven.retrying
    exact fun attempt => processExecution_writes registered
  · exact fun _ => trivial

end Executions

end Origins

end FluxIP
