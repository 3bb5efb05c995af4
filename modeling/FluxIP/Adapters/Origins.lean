import FluxIP.Adapters.Ownership
import FluxIP.Adapters.References
import FluxIP.Adapters.Sending
import FluxIP.Domain.SnapshotContent

/-!
# Where addresses come from

A device reports addresses, a settlement confirms them, executions write them
to a record or a firewall, and snapshots bring them to an agent.  Whatever a
program passes on it has found in the stream of the device, and where it sends
it is what the stream of an action of this device says.
-/

namespace FluxIP

open Async

/-! ## Origins -/

def IpClientIpReportReceivedData.values
    (data : IpClientIpReportReceivedData) : FamilyValues :=
  ⟨data.reportedIPv4, data.reportedIPv6⟩

def IpClientIpChangedData.values (data : IpClientIpChangedData) :
    FamilyValues :=
  ⟨data.newIPv4, data.newIPv6⟩

/-- The event is one of this aggregate of the account. -/
def StoredEvent.within (event : StoredEvent) (accountId aggregateId : Id) :
    Prop :=
  event.accountId = accountId ∧ event.aggregateId = aggregateId

/-- The device has reported the address for the family. -/
def ReportedBy (stored : List StoredEvent) (accountId ipClientId : Id)
    (family : AddressFamily) (address : String) : Prop :=
  ∃ event ∈ stored, ∃ data, event.within accountId ipClientId ∧
    event.data = .ipClient (.ipReportReceived data) ∧
    truthy (data.values.get family) = some address

/-- The action was attached to the device. -/
def AttachedTo (stored : List StoredEvent) (accountId actionId ipClientId : Id) :
    Prop :=
  ∃ event ∈ stored, ∃ data, event.within accountId actionId ∧
    event.data = .action (.attached data) ∧ data.ipClientId = ipClientId

/-- The action was attached or reconfigured with the configuration. -/
def WasGiven (stored : List StoredEvent) (accountId actionId : Id)
    (config : ActionConfig) : Prop :=
  ∃ event ∈ stored, event.within accountId actionId ∧
    event.data.givenConfig = some config

/-- The values are addresses of the device, as far as there are any. -/
def FamilyValues.ComeFrom (values : FamilyValues) (stored : List StoredEvent)
    (accountId ipClientId : Id) : Prop :=
  ∀ family address, truthy (values.get family) = some address →
    ReportedBy stored accountId ipClientId family address

/-- The event confirms a change of addresses. -/
def EventData.confirmsChange : EventData → Bool
  | .ipClient (.ipChanged _) => true
  | _ => false

/-- The changes confirmed by an event are addresses of its device. -/
def StoredEvent.Warranted (stored : List StoredEvent) (event : StoredEvent) :
    Prop :=
  ∀ data, event.data = .ipClient (.ipChanged data) →
    data.values.ComeFrom stored event.accountId event.aggregateId

/-- The job brings addresses of a device to an action attached to it. -/
structure ActionExecutionJobData.Warranted (stored : List StoredEvent)
    (data : ActionExecutionJobData) : Prop where
  attached : AttachedTo stored data.accountId data.actionId data.ipClientId
  reported : data.ipValues.ComeFrom stored data.accountId data.ipClientId

/-- The entry of a group has the addresses of one device, for an action that
was attached to the device and delivers to the group. -/
def SnapshotEntry.Warranted (stored : List StoredEvent)
    (accountId providerId : Id) (group : String) (entry : SnapshotEntry) :
    Prop :=
  ∃ actionId ipClientId, AttachedTo stored accountId actionId ipClientId ∧
    WasGiven stored accountId actionId (.delivery ⟨providerId, group⟩) ∧
    ∀ ip ∈ entry.ips, ∃ family, ReportedBy stored accountId ipClientId family ip

/-- Every entry of the snapshot has its origin in a device. -/
def SnapshotContent.Warranted (stored : List StoredEvent)
    (accountId providerId : Id) (content : SnapshotContent) : Prop :=
  ∀ group ∈ content.groups, ∀ entry ∈ group.entries,
    entry.Warranted stored accountId providerId group.key

/-- The entries of all address lists of the rules. -/
def listedIn (rules : List HetznerFirewallRule) : List String :=
  rules.flatMap fun rule =>
    rule.sourceIps.getD [] ++ rule.destinationIps.getD []

/-- The entry opens the host of one of the addresses. -/
def FamilyValues.Opens (values : FamilyValues) (entry : String) : Prop :=
  ∃ family address, truthy (values.get family) = some address ∧
    entry = toCidr address family

def RecordType.family : RecordType → AddressFamily
  | .a => .ipv4
  | .aaaa => .ipv6

/-! ## What programs are answered, and what they may pass on -/

/-- The events of an aggregate were stored, and what they confirm was
reported. -/
def SeenOf (stored : List StoredEvent) (accountId aggregateId : Id)
    (seen : List StoredEvent) : Prop :=
  ∀ event ∈ seen, event ∈ stored ∧ event.within accountId aggregateId ∧
    event.Warranted stored

/-- A stream that is read is of events that were stored; the rules of a
firewall that is read are `listed`. -/
def Found (stored : List StoredEvent)
    (listed : Nat → List HetznerFirewallRule → Prop) :
    Answered backend Err → Prop
  | ⟨.store (.readStream params), .ok events⟩ =>
      SeenOf stored params.accountId params.aggregateId events
  | ⟨.hetzner (.getFirewall _ firewallId), .ok rules⟩ =>
      listed firewallId rules
  | _ => True

/-- A job that is added brings addresses to an action of their device. -/
def Call.Assigns (stored : List StoredEvent) : Call → Prop
  | .queue (.addExecution _ data) => data.Warranted stored
  | _ => True

/-- A snapshot goes to sessions of the provider its entries are meant for. -/
def Call.Delivers (stored : List StoredEvent) (command : BackendCommand) :
    Call → Prop
  | .memory (.sendAgent sessionId (.snapshot payload)) =>
      ∃ auth received, command = .provider (.message auth sessionId received) ∧
        payload.Warranted stored auth.accountId auth.providerId
  | .memory (.push providerId (.snapshot payload)) =>
      ∃ accountId, payload.Warranted stored accountId providerId
  | _ => True

/-- What is written for a job goes where its action was told to write, and
says nothing but the job's addresses and what was there before. -/
def Call.Writes (stored : List StoredEvent)
    (listed : Nat → List HetznerFirewallRule → Prop)
    (data : ActionExecutionJobData) : Call → Prop
  | .hetzner (.setRecords _ zoneName recordName type value) =>
      truthy (data.ipValues.get type.family) = some value ∧
      ∃ config dns, WasGiven stored data.accountId data.actionId config ∧
        config.asDns = some dns ∧ zoneName = dns.zone.getD "undefined" ∧
        recordName = dns.recordName.getD "undefined"
  | .hetzner (.setFirewallRules _ firewallId rules) =>
      (∃ config, WasGiven stored data.accountId data.actionId
        (.firewall config) ∧ config.firewallId = firewallId) ∧
      ∃ read, listed firewallId read ∧ ∀ entry ∈ listedIn rules,
        entry ∈ listedIn read ∨ data.ipValues.Opens entry
  | _ => True

/-- The call writes nothing at the provider's. -/
def Call.writesNothing : Call → Bool
  | .hetzner (.setRecords _ _ _ _ _) => false
  | .hetzner (.setFirewallRules _ _ _) => false
  | _ => true

namespace Origins

variable {stored : List StoredEvent}
variable {listed : Nat → List HetznerFirewallRule → Prop}
variable {accountId ipClientId actionId providerId : Id}
variable {values other : FamilyValues} {seen : List StoredEvent}

/-! ## What folds find -/

theorem comeFrom_empty :
    FamilyValues.ComeFrom {} stored accountId ipClientId := by
  intro family address carried
  cases family <;> cases carried

/-- What is there, or else what was there before. -/
theorem comeFrom_orElse (first : values.ComeFrom stored accountId ipClientId)
    (second : other.ComeFrom stored accountId ipClientId) :
    FamilyValues.ComeFrom
      ⟨values.ipv4 <|> other.ipv4, values.ipv6 <|> other.ipv6⟩ stored
      accountId ipClientId := by
  intro family address carried
  have which : (⟨values.ipv4 <|> other.ipv4, values.ipv6 <|> other.ipv6⟩ :
      FamilyValues).get family = values.get family ∨
    (⟨values.ipv4 <|> other.ipv4, values.ipv6 <|> other.ipv6⟩ :
      FamilyValues).get family = other.get family := by
    obtain ⟨ipv4, ipv6⟩ := values
    cases family with
    | ipv4 => cases ipv4 <;> simp [FamilyValues.get]
    | ipv6 => cases ipv6 <;> simp [FamilyValues.get]
  rcases which with same | same
  · exact first family address (same ▸ carried)
  · exact second family address (same ▸ carried)

/-- The last known addresses were reported. -/
theorem knownAddresses_comeFrom
    (found : SeenOf stored accountId ipClientId seen) :
    (ActionRun.knownAddresses (ipClientOf seen)).ComeFrom stored accountId
      ipClientId := by
  unfold ipClientOf
  refine List.foldlRecOn (motive := fun state =>
    (ActionRun.knownAddresses state).ComeFrom stored accountId ipClientId)
    seen ipClientReducer comeFrom_empty ?_
  intro state known event member
  obtain ⟨-, ⟨ofAccount, ofClient⟩, warranted⟩ := found event member
  unfold ipClientReducer
  split
  case h_6 data changed =>
    have reported := warranted data changed
    rw [ofAccount, ofClient] at reported
    exact comeFrom_orElse reported known
  all_goals exact known

theorem lastReport_comeFrom {report : IpClientIpReportReceivedData}
    (found : SeenOf stored accountId ipClientId seen)
    (last : lastReport seen = some report) :
    report.values.ComeFrom stored accountId ipClientId := by
  obtain ⟨event, member, isReport⟩ := List.exists_of_findSome?_eq_some last
  obtain ⟨isStored, isWithin, -⟩ := found event (List.mem_reverse.mp member)
  split at isReport
  · rename_i data reported
    cases isReport
    intro family address carried
    exact ⟨event, isStored, _, isWithin, reported, carried⟩
  · cases isReport

/-- A settlement confirms what was reported. -/
theorem confirmed_comeFrom {settledAt : Timestamp}
    {change : IpClientIpChangedData}
    (found : SeenOf stored accountId ipClientId seen)
    (confirmed : (replayed initialIpClientState ipClientReducer
      seen).confirmedChange settledAt = some change) :
    change.values.ComeFrom stored accountId ipClientId := by
  unfold LoadAggregateResult.confirmedChange at confirmed
  split at confirmed
  · split at confirmed
    · cases confirmed
    · rename_i report last
      dsimp only at confirmed
      split at confirmed
      · cases confirmed
        exact comeFrom_orElse (lastReport_comeFrom found last)
          (knownAddresses_comeFrom found)
      · cases confirmed
  · cases confirmed

/-- An action has the device it was attached to and the configuration it was
given. -/
structure SetBy (stored : List StoredEvent) (accountId actionId : Id)
    (state : ActionState) : Prop where
  device : ∀ ipClientId, state.ipClientId = some ipClientId →
    AttachedTo stored accountId actionId ipClientId
  config : ∀ config, state.config = some config →
    WasGiven stored accountId actionId config

theorem action_setBy (found : SeenOf stored accountId actionId seen) :
    SetBy stored accountId actionId (actionOf seen) := by
  unfold actionOf
  apply List.foldlRecOn seen actionReducer
  · constructor
    · intro ipClientId named
      cases named
    · intro config named
      cases named
  intro state known event member
  obtain ⟨isStored, isWithin, -⟩ := found event member
  unfold actionReducer
  split
  case h_1 data attached =>
    constructor
    · intro ipClientId named
      exact ⟨event, isStored, data, isWithin, attached,
        Option.some.inj named⟩
    · intro config named
      refine ⟨event, isStored, isWithin, ?_⟩
      rw [attached]
      exact named
  case h_2 data reconfigured =>
    refine ⟨known.device, ?_⟩
    intro config named
    cases given : data.config with
    | none => exact known.config config (by simpa [given] using named)
    | some new =>
        have same : new = config := by simpa [given] using named
        refine ⟨event, isStored, isWithin, ?_⟩
        rw [reconfigured, ← same]
        exact given
  all_goals exact ⟨known.device, known.config⟩

/-! ## Loads -/

theorem load_returns {State : Type} {params : ReadStreamParams}
    {initialState : State} {reducer : State → StoredEvent → State} :
    (loadAggregate params initialState reducer).ReturnsGiven
      (Found stored listed) fun loaded => ∃ seen,
        SeenOf stored params.accountId params.aggregateId seen ∧
        loaded = replayed initialState reducer seen := by
  have read : (Backend.readStream params).ReturnsGiven (Found stored listed)
      (SeenOf stored params.accountId params.aggregateId) :=
    .perform fun _ found => found
  exact read.bind fun seen found => ⟨seen, found, rfl⟩

/-- A load, and what the program calls after it. -/
theorem load_calls {State β : Type} {params : ReadStreamParams}
    {initialState : State} {reducer : State → StoredEvent → State}
    {allowed : Call → Prop} {next : LoadAggregateResult State → Backend β}
    (reads : ∀ call, Backend.reads call = true → allowed call)
    (rest : ∀ seen, SeenOf stored params.accountId params.aggregateId seen →
      (next (replayed initialState reducer seen)).CallsGiven
        (Found stored listed) allowed) :
    ((loadAggregate params initialState reducer).bind next).CallsGiven
      (Found stored listed) allowed := by
  apply load_returns.seq
    (.of_calls ((loadAggregate_reads _ _ _).mono reads))
  rintro _ ⟨seen, found, rfl⟩
  exact rest seen found

/-! ## Jobs -/

theorem assigns_of_addsNothing {call : Call}
    (adds : Call.addsNothing call = true) : call.Assigns stored := by
  cases call with
  | queue call =>
      cases call with
      | addExecution jobId data => cases adds
      | _ => trivial
  | _ => trivial

theorem calls_assign (accountId : Id) :
    WritesFor (fun _ program => program.Calls (Call.Assigns stored))
      accountId where
  done _ := trivial
  fail _ := trivial
  bind := Program.Calls.bind
  attempt := Program.Calls.attempt
  call awaited adds :=
    (Backend.calls_call awaited).mpr (assigns_of_addsNothing adds)
  append input _ := (Backend.calls_call (.store (.append input))).mpr trivial

theorem assigns_of_reads {call : Call} (isRead : Backend.reads call = true) :
    call.Assigns stored :=
  assigns_of_addsNothing (addsNothing_of_read isRead)

theorem assigns_of_quiet {α : Type} {program : Backend α}
    (quiet : program.Calls fun call => Backend.quiet call = true) :
    program.Calls (Call.Assigns stored) :=
  (calls_assign 0).quiet quiet

/-- A manual run adds a job for the device of the action it has loaded. -/
theorem run_assigns (accountId actionId : Id) :
    (ActionRun.run accountId actionId).CallsGiven (Found stored listed)
      (Call.Assigns stored) := by
  apply load_calls fun _ => assigns_of_reads
  intro action ofAction
  split
  · trivial
  rename_i ipClientId isRunnable
  have device : (actionOf action).ipClientId = some ipClientId := by
    change ActionRun.runnable accountId (actionOf action) = _ at isRunnable
    unfold ActionRun.runnable at isRunnable
    split at isRunnable
    · split at isRunnable
      · cases isRunnable
      · split at isRunnable
        · rename_i named
          cases isRunnable
          exact named
        · cases isRunnable
    · cases isRunnable
  apply load_calls fun _ => assigns_of_reads
  intro client ofClient
  split
  · trivial
  apply Program.CallsGiven.perform trivial
  intro executionId _
  apply Program.CallsGiven.perform trivial
  intro causationEventId _
  apply Program.CallsGiven.perform
  · exact ⟨(action_setBy ofAction).device _ device,
      knownAddresses_comeFrom ofClient⟩
  · exact fun _ _ => trivial

theorem fanOutToAll_assigns {params : FanOutParams}
    (reported : params.ipValues.ComeFrom stored params.accountId
      params.ipClientId) (actionIds : List Id) :
    (fanOutToAll params actionIds).CallsGiven (Found stored listed)
      (Call.Assigns stored) := by
  induction actionIds with
  | nil => trivial
  | cons actionId actionIds ih =>
      apply Program.CallsGiven.bind
      · apply load_calls fun _ => assigns_of_reads
        intro action ofAction
        split
        · rename_i receives
          have device : (actionOf action).ipClientId =
              some params.ipClientId := (of_decide_eq_true receives).1
          apply Program.CallsGiven.perform trivial
          intro executionId _
          apply Program.CallsGiven.of_calls
          apply (Backend.calls_call _).mpr
          exact ⟨(action_setBy ofAction).device _ device, reported⟩
        · trivial
      · exact fun _ => ih

theorem settle_assigns (deps : DebounceWorkerDeps) (job : DebounceJobData) :
    (settle deps job).CallsGiven (Found stored listed)
      (Call.Assigns stored) := by
  apply load_calls fun _ => assigns_of_reads
  intro client ofClient
  split
  · trivial
  rename_i change confirmed
  apply Program.CallsGiven.perform trivial
  intro causationEvent _
  apply Program.CallsGiven.bind
  · exact .of_calls (assigns_of_quiet (upsertIpClientProjection_calls _ _))
  intro _
  apply Program.CallsGiven.bind
  · exact .of_calls (assigns_of_quiet
      (Program.Calls.onlyIf (scheduleSnapshots_calls _ _ _)))
  intro _
  apply Program.CallsGiven.perform trivial
  intro actionIds _
  exact fanOutToAll_assigns (confirmed_comeFrom ofClient confirmed) actionIds

/-- The other commands add no jobs. -/
theorem command_addsNone {deps : BackendDeps} {now : Timestamp}
    {command : BackendCommand} (adds : command.addsExecutions = false) :
    (command.program deps now).Calls (Call.Assigns stored) := by
  apply WritesFor.anyCommand calls_assign command
  · intro same
    rw [same] at adds
    cases adds
  · exact fun accountId _ =>
      (Backend.calls_call (.store (.deleteAccount accountId))).mpr trivial

theorem command_assigns (deps : BackendDeps) (now : Timestamp)
    (command : BackendCommand) :
    (command.program deps now).CallsGiven (Found stored listed)
      (Call.Assigns stored) := by
  cases adds : command.addsExecutions with
  | false => exact .of_calls (command_addsNone adds)
  | true =>
      cases command with
      | settle job =>
          apply Program.CallsGiven.bind (settle_assigns _ job)
          exact fun _ => .done _
      | action accountId command =>
          cases command with
          | run actionId =>
              apply Program.CallsGiven.bind (run_assigns accountId actionId)
              exact fun _ => .done _
          | _ => cases adds
      | _ => cases adds


/-! ## Snapshots -/

section Snapshots

variable {member : SnapshotMember} {device : SnapshotDevice}
variable {groups : SnapshotGroups}

theorem mem_setEntry {α β : Type} [DecidableEq α] {key : α} {value : β}
    {entry : α × β} {entries : List (α × β)}
    (member : entry ∈ setEntry key value entries) :
    entry = (key, value) ∨ entry ∈ entries := by
  induction entries with
  | nil => exact .inl (List.mem_singleton.mp member)
  | cons first entries ih =>
      unfold setEntry at member
      split at member
      · rcases List.mem_cons.mp member with new | old
        · exact .inl new
        · exact .inr (List.mem_cons_of_mem _ old)
      · rcases List.mem_cons.mp member with same | later
        · exact .inr (same ▸ List.mem_cons_self)
        · rcases ih later with new | old
          · exact .inl new
          · exact .inr (List.mem_cons_of_mem _ old)

theorem mem_of_getEntry {α β : Type} [DecidableEq α] {key : α} {value : β}
    {entries : List (α × β)} (found : getEntry key entries = some value) :
    (key, value) ∈ entries := by
  obtain ⟨entry, first, same⟩ := Option.map_eq_some_iff.mp found
  have isKey : decide (entry.1 = key) = true :=
    List.find?_some (p := fun entry : α × β => decide (entry.1 = key)) first
  rw [← of_decide_eq_true isKey, ← same]
  exact List.mem_of_find?_eq_some first

/-- A member is there for an action attached to its device. -/
def MemberFrom (stored : List StoredEvent) (accountId providerId : Id)
    (member : SnapshotMember) : Prop :=
  ∃ actionId, AttachedTo stored accountId actionId member.ipClientId ∧
    WasGiven stored accountId actionId (.delivery ⟨providerId, member.group⟩)

/-- The addresses of what a device contributes were reported by it. -/
def DeviceFrom (stored : List StoredEvent) (accountId ipClientId : Id)
    (device : SnapshotDevice) : Prop :=
  ∀ ip ∈ device.ips, ∃ family, ReportedBy stored accountId ipClientId family ip

def GroupsFrom (stored : List StoredEvent) (accountId providerId : Id)
    (groups : SnapshotGroups) : Prop :=
  ∀ group ∈ groups, ∀ entry ∈ group.2,
    entry.2.Warranted stored accountId providerId group.1

theorem snapshotMember_from (ofAction : SeenOf stored accountId actionId seen)
    (contributes : (actionOf seen).snapshotMember providerId = some member) :
    MemberFrom stored accountId providerId member := by
  have setBy := action_setBy ofAction
  unfold ActionState.snapshotMember at contributes
  split at contributes
  · rename_i ipClientId config _ _ named delivers
    split at contributes
    · rename_i own
      cases contributes
      obtain ⟨given, isGiven, isDelivery⟩ :=
        Option.bind_eq_some_iff.mp delivers
      refine ⟨actionId, setBy.device _ named, ?_⟩
      cases given with
      | delivery other =>
          cases isDelivery
          subst own
          exact setBy.config _ isGiven
      | dns other => cases isDelivery
      | firewall other => cases isDelivery
    · cases contributes
  · cases contributes

theorem snapshotDevice_from {name : String}
    (ofClient : SeenOf stored accountId ipClientId seen)
    (contributes : (ipClientOf seen).snapshotDevice name = some device) :
    DeviceFrom stored accountId ipClientId device := by
  have known := knownAddresses_comeFrom ofClient
  unfold IpClientState.snapshotDevice at contributes
  dsimp only at contributes
  split at contributes
  · cases contributes
    intro ip member
    obtain ⟨value, isKnown, carried⟩ := List.mem_filterMap.mp member
    rcases List.mem_cons.mp isKnown with four | later
    · subst four
      exact ⟨.ipv4, known .ipv4 ip carried⟩
    · have six := List.mem_singleton.mp later
      subst six
      exact ⟨.ipv6, known .ipv6 ip carried⟩
  · cases contributes

theorem GroupsFrom.add (sourced : GroupsFrom stored accountId providerId groups)
    (ofMember : MemberFrom stored accountId providerId member)
    (ofDevice : DeviceFrom stored accountId member.ipClientId device) :
    GroupsFrom stored accountId providerId (groups.add member device) := by
  intro group isGroup entry isEntry
  rcases mem_setEntry isGroup with rfl | old
  · rcases mem_setEntry isEntry with rfl | before
    · obtain ⟨actionId, attached, given⟩ := ofMember
      exact ⟨actionId, member.ipClientId, attached, given, ofDevice⟩
    · cases there : getEntry member.group groups with
      | none =>
          rw [there] at before
          cases before
      | some entries =>
          rw [there] at before
          exact sourced _ (mem_of_getEntry there) entry before
  · exact sourced group old entry isEntry

theorem snapshotMembers_returns (actionIds : List Id) :
    (snapshotMembers accountId providerId actionIds).ReturnsGiven
      (Found stored listed) fun members =>
        ∀ member ∈ members, MemberFrom stored accountId providerId member := by
  induction actionIds with
  | nil =>
      intro member isMember
      cases isMember
  | cons actionId actionIds ih =>
      apply load_returns.bind
      rintro _ ⟨seen, ofAction, rfl⟩
      apply ih.bind
      intro rest later member isMember
      rcases List.mem_append.mp isMember with own | other
      · exact snapshotMember_from ofAction (Option.mem_toList.mp own)
      · exact later member other

theorem collectGroups_returns {text : SnapshotText}
    {members : List SnapshotMember}
    {cache : List (Id × Option SnapshotDevice)}
    (ofMembers : ∀ member ∈ members,
      MemberFrom stored accountId providerId member)
    (cached : ∀ ipClientId device,
      getEntry ipClientId cache = some (some device) →
      DeviceFrom stored accountId ipClientId device)
    (sourced : GroupsFrom stored accountId providerId groups) :
    (collectGroups text accountId cache groups members).ReturnsGiven
      (Found stored listed) (GroupsFrom stored accountId providerId) := by
  induction members generalizing cache groups with
  | nil => exact sourced
  | cons member members ih =>
      obtain ⟨ofMember, later⟩ := List.forall_mem_cons.mp ofMembers
      have extended (found : Option SnapshotDevice)
          (ofDevice : ∀ device, found = some device →
            DeviceFrom stored accountId member.ipClientId device) :
          GroupsFrom stored accountId providerId
            (found.elim groups (groups.add member)) := by
        cases found with
        | none => exact sourced
        | some device => exact sourced.add ofMember (ofDevice device rfl)
      unfold collectGroups
      split
      · rename_i found present
        apply ih later cached
        apply extended
        rintro device rfl
        exact cached _ _ present
      · apply load_returns.bind
        rintro _ ⟨seen, ofClient, rfl⟩
        have ofDevice (device : SnapshotDevice)
            (contributes : (replayed initialIpClientState ipClientReducer
              seen).state.snapshotDevice (text.idName member.ipClientId) =
                some device) :
            DeviceFrom stored accountId member.ipClientId device :=
          snapshotDevice_from ofClient contributes
        apply ih later
        · intro ipClientId device found
          rw [getEntry_cons] at found
          split at found
          · rename_i here
            cases here
            exact ofDevice device (Option.some.inj found)
          · exact cached ipClientId device found
        · exact extended _ ofDevice

theorem sorted_warranted {text : SnapshotText} {name : String}
    (sourced : GroupsFrom stored accountId providerId groups) :
    SnapshotContent.Warranted stored accountId providerId
      ⟨name, groups.sorted text⟩ := by
  intro group isGroup entry isEntry
  obtain ⟨entries, isEntries, rfl⟩ := List.mem_map.mp isGroup
  obtain ⟨listed, isListed, rfl⟩ := List.mem_map.mp isEntry
  exact sourced entries (List.mem_mergeSort.mp isEntries) listed
    (List.mem_mergeSort.mp isListed)

theorem buildSnapshotContent_returns (text : SnapshotText) (name : String) :
    (buildSnapshotContent text accountId providerId name).ReturnsGiven
      (Found stored listed)
      (SnapshotContent.Warranted stored accountId providerId) := by
  apply (Program.ReturnsGiven.anything _).bind
  intro actionIds _
  apply (snapshotMembers_returns actionIds).bind
  intro members ofMembers
  have collected : (collectGroups text accountId [] [] members).ReturnsGiven
      (Found stored listed) (GroupsFrom stored accountId providerId) := by
    apply collectGroups_returns ofMembers
    · intro ipClientId device found
      cases found
    · intro group isGroup
      cases isGroup
  exact collected.bind fun groups sourced => sorted_warranted sourced

theorem mutex_returns {α : Type} {post : α → Prop} {key : MutexKey}
    {fn : Backend α} (returns : fn.ReturnsGiven (Found stored listed) post) :
    (KeyedMutex.run key fn).ReturnsGiven (Found stored listed) post := by
  apply (Program.ReturnsGiven.anything _).bind
  intro ticket _
  apply (Program.ReturnsGiven.anything _).bind
  intro _ _
  apply returns.attempt.bind
  intro outcome ends
  apply (Program.ReturnsGiven.anything _).bind
  intro _ _
  cases outcome with
  | ok value => exact ends value rfl
  | error error => trivial

/-- What a publish call returns is a snapshot whose entries have their
origin. -/
theorem publish_returns {deps : SnapshotPublisherDeps}
    {causationId : Option Id} {absorbedCausationIds : List Id}
    {now : Timestamp} :
    (SnapshotPublisher.publish deps accountId providerId causationId
      absorbedCausationIds now).ReturnsGiven (Found stored listed)
      fun result => ∀ published, result = some published →
        published.snapshot.Warranted stored accountId providerId := by
  apply mutex_returns
  apply (Program.ReturnsGiven.anything _).bind
  intro loaded _
  cases loaded with
  | none => exact fun published same => by cases same
  | some loaded =>
      apply (buildSnapshotContent_returns deps.text loaded.state.name).bind
      intro content warranted
      split
      · rename_i result isUnchanged
        intro published same
        cases same
        unfold SnapshotPublisher.unchanged at isUnchanged
        split at isUnchanged
        · cases isUnchanged
        · split at isUnchanged
          · cases isUnchanged
            exact warranted
          · cases isUnchanged
      · apply (Program.ReturnsGiven.anything _).bind
        intro correlationId _
        unfold SnapshotPublisher.publishNew
        split
        · apply (Program.ReturnsGiven.anything _).bind
          intro _ _ published same
          cases same
        · apply (Program.ReturnsGiven.anything _).bind
          intro event _ published same
          cases same
          exact warranted

end Snapshots

/-! ## The programs that send snapshots -/

section Sending

variable {command : BackendCommand} {call : Call} {now : Timestamp}
variable {server : GrpcAgentServerDeps}

theorem delivers_of_silent (silent : call.carriesSnapshot = false) :
    call.Delivers stored command := by
  cases call with
  | memory call =>
      cases call with
      | sendAgent sessionId message =>
          cases message with
          | snapshot payload => cases silent
          | _ => trivial
      | push providerId message =>
          cases message with
          | snapshot payload => cases silent
          | _ => trivial
      | _ => trivial
  | _ => trivial

theorem silent_of_plain (plain : call.plain = true) :
    call.carriesSnapshot = false := by
  cases call with
  | memory call =>
      cases call with
      | sendAgent sessionId message =>
          cases message <;> first | rfl | cases plain
      | push providerId message =>
          cases message <;> first | rfl | cases plain
      | _ => rfl
  | _ => rfl

theorem delivers_closed :
    Closed fun _ program => program.CallsGiven (Found stored listed)
      (Call.Delivers stored command) where
  done _ := trivial
  fail _ := trivial
  bind := Program.CallsGiven.bind
  attempt := Program.CallsGiven.attempt
  call awaited plain _ := .of_calls ((Backend.calls_call awaited).mpr
    (delivers_of_silent (silent_of_plain plain)))
  append _ _ event _ :=
    .of_calls ((providerAppend_silent event).mono fun _ => delivers_of_silent)
  publish _ _ _ _ _ _ :=
    .of_calls (publish_silent.mono fun _ => delivers_of_silent)

/-- A publish call, and what is done with its snapshot. -/
theorem published_delivers {α : Type} {causationId : Option Id}
    {absorbedCausationIds : List Id}
    {next : Option PublishResult → Backend α}
    (nothing : (next none).CallsGiven (Found stored listed)
      (Call.Delivers stored command))
    (rest : ∀ published : PublishResult,
      published.snapshot.Warranted stored accountId providerId →
      (next (some published)).CallsGiven (Found stored listed)
        (Call.Delivers stored command)) :
    ((SnapshotPublisher.publish server.publisher accountId providerId
      causationId absorbedCausationIds now).bind next).CallsGiven
        (Found stored listed) (Call.Delivers stored command) := by
  apply publish_returns.seq
    (.of_calls (publish_silent.mono fun _ => delivers_of_silent))
  intro result warranted
  cases result with
  | none => exact nothing
  | some published => exact rest published (warranted published rfl)

theorem sendCurrentSnapshot_delivers {auth : AgentAuth} {sessionId : Id}
    {received : AgentMessage}
    (isMessage : command = .provider (.message auth sessionId received)) :
    (AgentSessionHandler.sendCurrentSnapshot server auth sessionId
      now).CallsGiven (Found stored listed) (Call.Delivers stored command) := by
  unfold AgentSessionHandler.sendCurrentSnapshot SnapshotPublisher.publishNow
  simp only [Program.monadBind_eq_bind, Program.bind_assoc,
    Program.pure_eq_done, Program.done_bind]
  apply published_delivers
  · trivial
  · intro published warranted
    exact .of_calls ((Backend.calls_call (.memory (.sendAgent _ _))).mpr
      ⟨auth, received, isMessage, warranted⟩)

theorem coordinatorRun_delivers {causationIds : List Id} :
    (SnapshotCoordinator.run server accountId providerId causationIds
      now).CallsGiven (Found stored listed) (Call.Delivers stored command) := by
  refine Program.CallsGiven.tryCatch ?_ fun _ => trivial
  apply published_delivers
  · trivial
  · intro published warranted
    apply Program.CallsGiven.onlyIf
    exact .of_calls ((Backend.calls_call (.memory (.push _ _))).mpr
      ⟨accountId, warranted⟩)

theorem resync_delivers :
    (SnapshotCoordinator.resync server accountId providerId now).CallsGiven
      (Found stored listed) (Call.Delivers stored command) := by
  refine Program.CallsGiven.tryCatch ?_ fun _ => trivial
  apply published_delivers
  · trivial
  · intro published warranted
    exact .of_calls ((Backend.calls_call (.memory (.push _ _))).mpr
      ⟨accountId, warranted⟩)

theorem command_delivers (deps : BackendDeps) (now : Timestamp)
    (command : BackendCommand) :
    (command.program deps now).Traces
      (fun history call =>
        (∀ answered ∈ history, Found stored listed answered) →
        call.Delivers stored command) anyEnd [] := by
  cases isProvider : command.isProvider with
  | false =>
      apply (command_decides deps now command).allows
      intro history call decided _
      apply delivers_of_silent
      cases carries : call.carriesSnapshot with
      | false => rfl
      | true =>
          have own : call.onProviders = true := by
            cases call with
            | memory call => cases call <;> first | rfl | cases carries
            | _ => cases carries
          rw [decided.2 own] at isProvider
          cases isProvider
  | true =>
      cases command with
      | provider command =>
          apply Program.CallsGiven.traces
          apply delivers_closed.command
          constructor
          · rintro auth sessionId received rfl
            exact (delivers_closed.within sessionId).process
              (sendCurrentSnapshot_delivers rfl)
          · exact fun _ _ _ _ => coordinatorRun_delivers
          · exact fun _ _ _ => resync_delivers
      | _ => cases isProvider

end Sending

end Origins

end FluxIP
