import FluxIP.Agent.Render
import FluxIP.Guarantees.AddressOrigins

/-!
# One address opens one host

Nothing between the trigger endpoint and the providers' APIs parses an
address: executions append a prefix length to the text, and only the agent's
`cidr` looks at it.  As long as devices report addresses, what comes out at
either end is the prefix of one host.
-/

namespace FluxIP

open Async Netip Origins

/-- The length of an address of the family. -/
def AddressFamily.bitLen : AddressFamily → Nat
  | .ipv4 => 32
  | .ipv6 => 128

/-- The text is an address of the family; one with a zone is none. -/
def AddressFamily.isAddress (family : AddressFamily) (text : String) : Bool :=
  (parseAddr text.toList).any fun addr =>
    decide (addr.bitLen = family.bitLen ∧ addr.withoutZone = addr)

/-- The text is a prefix of the family that holds exactly one address. -/
def AddressFamily.isHost (family : AddressFamily) (cidr : String) : Bool :=
  (parsePrefix cidr.toList).any fun pfx =>
    decide (pfx.addr.bitLen = family.bitLen ∧ pfx.bits = family.bitLen)

/-- If the event is a report, it reports addresses. -/
def StoredEvent.reportsAddresses (event : StoredEvent) : Bool :=
  match event.data with
  | .ipClient (.ipReportReceived data) =>
      (truthy data.reportedIPv4).all AddressFamily.ipv4.isAddress &&
        (truthy data.reportedIPv6).all AddressFamily.ipv6.isAddress
  | _ => true

/-- What executions write and what the agents' templates find opens one host
for each address. -/
structure OpensOneHost (pool : BackendPool) : Prop where
  records : ∀ thread ∈ pool.threads, ∀ data attempts clocks,
    thread.request.command = .execute data attempts clocks →
    ∀ apiToken zoneName recordName type value resume,
    thread.program = .await (.hetzner (.setRecords apiToken zoneName
      recordName type value)) resume →
    type.family.isAddress value = true
  firewalls : ∀ thread ∈ pool.threads, ∀ data attempts clocks,
    thread.request.command = .execute data attempts clocks →
    ∀ apiToken firewallId rules resume,
    thread.program = .await (.hetzner (.setFirewallRules apiToken firewallId
      rules)) resume →
    ∀ entry ∈ listedIn rules,
      (∃ read, ReadBy thread.history firewallId read ∧
        entry ∈ listedIn read) ∨
      ∃ family, AddressFamily.isHost family entry = true
  agents : ∀ sent ∈ pool.state.agents.sent, ∀ payload,
    sent.message = .snapshot payload →
    ∀ key, ∀ entry ∈ Render.entriesOf payload.groups key, ∀ ip ∈ entry.ips,
      (ip ∈ entry.ipv4 ∨ ip ∈ entry.ipv6) ∧
      ∃ family, AddressFamily.isHost family (Render.cidr ip) = true

namespace OneHost

variable {family : AddressFamily} {address ip : String}

theorem isAddress_spec (isAddress : family.isAddress ip = true) :
    ∃ addr, parseAddr ip.toList = some addr ∧ addr.bitLen = family.bitLen ∧
      addr.withoutZone = addr := by
  obtain ⟨addr, parsed, valid⟩ := (Option.any_eq_true _ _).mp isAddress
  exact ⟨addr, parsed, of_decide_eq_true valid⟩

/-- `toCidr` makes a prefix of one host of an address, and of nothing else. -/
theorem toCidr_isHost :
    family.isHost (toCidr address family) = family.isAddress address := by
  have parsed : parsePrefix (toCidr address family).toList =
      (parseAddr address.toList).bind fun addr =>
        if valid : addr.withoutZone = addr ∧ family.bitLen ≤ addr.bitLen then
          some ⟨addr, family.bitLen, valid.1, valid.2⟩
        else none := by
    cases family with
    | ipv4 =>
        rw [toCidr, String.toList_append]
        exact parsePrefix_suffix _ ['3', '2'] 32 (by decide) rfl
    | ipv6 =>
        rw [toCidr, String.toList_append]
        exact parsePrefix_suffix _ ['1', '2', '8'] 128 (by decide) rfl
  unfold AddressFamily.isHost AddressFamily.isAddress
  rw [parsed]
  cases parseAddr address.toList with
  | none => rfl
  | some addr =>
      rw [Option.bind_some]
      split
      · rename_i valid
        simp [valid.1]
      · rename_i invalid
        have other : ¬ (addr.bitLen = family.bitLen ∧
            addr.withoutZone = addr) := by
          intro both
          exact invalid ⟨both.2, Nat.le_of_eq both.1.symm⟩
        simpa using other

/-- An address is rendered as the prefix of one host. -/
theorem cidr_isHost (isAddress : family.isAddress ip = true) :
    family.isHost (Render.cidr ip) = true := by
  obtain ⟨addr, parsed, ofFamily, zoneless⟩ := isAddress_spec isAddress
  have plain := parseAddr_slashless parsed zoneless
  have rendered : Render.cidr ip = String.ofList (Prefix.host addr).text := by
    unfold Render.cidr
    rw [if_neg plain, parsed]
  have length : (Prefix.host addr).addr.bitLen = addr.bitLen := by
    cases addr <;> rfl
  unfold AddressFamily.isHost
  rw [rendered, String.toList_ofList, parsePrefix_host_text]
  exact decide_eq_true ⟨length.trans ofFamily, ofFamily⟩

/-- Templates find an address in the list of one family. -/
theorem newEntry_covers {name : String} {ips : List String}
    (member : ip ∈ ips) (isAddress : family.isAddress ip = true) :
    ip ∈ (Render.newEntry name ips).ipv4 ∨
      ip ∈ (Render.newEntry name ips).ipv6 := by
  obtain ⟨addr, parsed, -⟩ := isAddress_spec isAddress
  have listed (family4 : Bool) (same : Render.isFamily4 addr = family4) :
      ip ∈ Render.ofFamily family4 ips := by
    refine List.mem_filter.mpr ⟨member, ?_⟩
    rw [parsed]
    exact decide_eq_true same
  cases isFour : Render.isFamily4 addr with
  | true => exact .inl (listed true isFour)
  | false => exact .inr (listed false isFour)

theorem isAddress_of_reported {stored : List StoredEvent}
    {accountId ipClientId : Id}
    (reports : ∀ event ∈ stored, event.reportsAddresses = true)
    (reported : ReportedBy stored accountId ipClientId family address) :
    family.isAddress address = true := by
  obtain ⟨event, member, data, -, isReport, carried⟩ := reported
  have here := reports event member
  unfold StoredEvent.reportsAddresses at here
  rw [isReport] at here
  obtain ⟨first, second⟩ := Bool.and_eq_true_iff.mp here
  cases family with
  | ipv4 => exact (Option.all_eq_true _ _).mp first address carried
  | ipv6 => exact (Option.all_eq_true _ _).mp second address carried

theorem opensOneHost {stored : List StoredEvent} {pool : BackendPool}
    (stay : AddressesStay stored pool)
    (reports : ∀ event ∈ stored, event.reportsAddresses = true) :
    OpensOneHost pool where
  records thread member data attempts clocks executes apiToken zoneName
      recordName type value resume awaits := by
    obtain ⟨warranted, writes⟩ :=
      stay.written thread member data attempts clocks executes
    obtain ⟨carried, -⟩ := writes _ _ awaits
    exact isAddress_of_reported reports (warranted.reported _ _ carried)
  firewalls thread member data attempts clocks executes apiToken firewallId
      rules resume awaits entry isListed := by
    obtain ⟨warranted, writes⟩ :=
      stay.written thread member data attempts clocks executes
    obtain ⟨-, read, isRead, within⟩ := writes _ _ awaits
    rcases within entry isListed with before | ⟨family, address, carried, rfl⟩
    · exact .inl ⟨read, isRead, before⟩
    · refine .inr ⟨family, ?_⟩
      rw [toCidr_isHost]
      exact isAddress_of_reported reports (warranted.reported _ _ carried)
  agents sent member payload isSnapshot key entry isEntry ip isIp := by
    obtain ⟨session, accountId, -, warranted⟩ :=
      stay.held.snapshots sent member payload isSnapshot
    obtain ⟨group, isGroup, inGroup⟩ := List.mem_flatMap.mp isEntry
    obtain ⟨original, isOriginal, rfl⟩ := List.mem_map.mp inGroup
    obtain ⟨actionId, ipClientId, -, -, reported⟩ :=
      warranted group (List.mem_filter.mp isGroup).1 original isOriginal
    obtain ⟨family, isReported⟩ := reported ip isIp
    have isAddress := isAddress_of_reported reports isReported
    exact ⟨newEntry_covers isIp isAddress, family, cidr_isHost isAddress⟩

end OneHost

/-- As long as devices report nothing but addresses, in every run of the
backend a DNS record is set to an address of its family, a firewall is sent
what was read from it and prefixes of one host, and whatever a template finds
in a snapshot is listed under one family and rendered as the prefix of one
host. -/
theorem addresses_open_one_host (deps : BackendDeps)
    (registered : deps.worker.executors = registeredExecutors)
    (initial : World) (pool : BackendPool) (past : List StoredEvent)
    (seated : Seated initial)
    (traceable : initial.Traceable initial.store.events)
    (observed : Pool.Observed (backendService deps) storedBefore
      (fun _ _ => True) ⟨initial, []⟩ pool past)
    (reports : ∀ event ∈ past ++ pool.state.store.events,
      event.reportsAddresses = true) :
    OpensOneHost pool := by
  have following : Following deps (past ++ pool.state.store.events) pool :=
    following_run registered seated traceable observed (List.Subset.refl _)
  exact OneHost.opensOneHost following.addressesStay reports

/-! ## A device at a firewall -/

namespace OneHost

/-- A device that has reported, with an action for a rule that lets in a
network. -/
def admittedWorld : World where
  nextUUID := 100
  store := EventStore.recorded 1
    [(.ipClient, 20, .ipClient (.registered 20 1 "router" "hash" 0)),
      (.providerCredential, 30, .providerCredential
        (.stored 30 1 "hetzner" "cloud" "token" "oken" 0)),
      (.action, 40, .action (.attached
        { actionId := 40
          accountId := 1
          ipClientId := 20
          type := .hetznerCloudFirewallRuleUpdate
          addressFamilies := [.ipv4]
          config := .firewall ⟨30, 9, .in, .tcp, some "22", "ssh"⟩
          attachedAt := 0 })),
      (.ipClient, 20, .ipClient
        (.ipReportReceived ⟨some "203.0.113.7", none, 1⟩))]
  queues := { settlements := [⟨20, 1⟩] }
  hetzner :=
    { firewalls := fun _ => [
        { direction := .in
          protocol := .tcp
          port := some "22"
          sourceIps := some ["10.0.0.0/8"]
          description := some "ssh" }] }

theorem admittedWorld_traceable :
    admittedWorld.Traceable admittedWorld.store.events :=
  traceable_of_nothing (by decide) rfl rfl

/-- The settlement, and the execution up to its write. -/
def settleAndOpen : List (Move BackendRequest Choice) :=
  [.start ⟨0, 0, .settle ⟨20, 1⟩⟩] ++ List.replicate 9 (.advance 0 .ok) ++
    [.start ⟨1, 0, .execute recordJob 3 []⟩] ++
    List.replicate 9 (.advance 1 .ok)

/-- The entries of the rules a program is about to write. -/
def writesEntries (pool : BackendPool) (index : Nat) : List String :=
  match awaitedBy pool index with
  | some (_, .hetzner (.setFirewallRules _ _ rules)) => listedIn rules
  | _ => []

end OneHost

open OneHost in
theorem addresses_open_one_host_admitted :
    ∃ pool : BackendPool, writesEntries pool 1 =
      ["10.0.0.0/8", "203.0.113.7/32"] ∧ OpensOneHost pool := by
  have ends : ((⟨admittedWorld, []⟩ : BackendPool).follow
      (backendService exampleBackendDeps) (fun _ _ => true)
      settleAndOpen).map (fun pool => (writesEntries pool 1,
        pool.state.store.events.all (·.reportsAddresses))) =
        some (["10.0.0.0/8", "203.0.113.7/32"], true) := by
    decide +kernel
  have before : (Pool.notes (backendService exampleBackendDeps) storedBefore
      (⟨admittedWorld, []⟩ : BackendPool) settleAndOpen).all
        (·.reportsAddresses) = true := by
    decide +kernel
  obtain ⟨pool, followed, same⟩ := Option.map_eq_some_iff.mp ends
  have observed : Pool.Observed (backendService exampleBackendDeps)
      storedBefore (fun _ _ => True) ⟨admittedWorld, []⟩ pool
      (Pool.notes (backendService exampleBackendDeps) storedBefore
        ⟨admittedWorld, []⟩ settleAndOpen) :=
    Pool.observed_of_follow (fun _ _ _ => trivial) followed
  refine ⟨pool, congrArg Prod.fst same, ?_⟩
  apply addresses_open_one_host exampleBackendDeps rfl admittedWorld pool _
    ⟨reportingWorld_seated.disciplined, reportingWorld_seated.drawn⟩
    admittedWorld_traceable observed
  intro event member
  rcases List.mem_append.mp member with earlier | now
  · exact List.all_eq_true.mp before event earlier
  · exact List.all_eq_true.mp (congrArg Prod.snd same) event now

end FluxIP
