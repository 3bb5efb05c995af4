import FluxIP.Adapters.SnapshotBuild

/-!
# What a snapshot contains

A device has one entry in each group that an enabled delivery action of its own
selects it for.  The groups and their entries are sorted, so a snapshot is
determined by the state of the account and not by the order in which the
actions are listed.
-/

namespace FluxIP

open Async

/-- The addresses a device is known under, IPv4 before IPv6. -/
def IpClientState.knownAddresses (state : IpClientState) : List String :=
  [state.lastKnownIPv4, state.lastKnownIPv6].filterMap truthy

/-- The name of a device in a snapshot: its label, or its id if that is
blank. -/
def IpClientState.deviceName (state : IpClientState) (idName : String) :
    String :=
  if trim state.label = "" then idName else trim state.label

/-- An enabled delivery action of the device targets the provider with this
group. -/
def IsTargeted (store : EventStore) (accountId providerId : Id)
    (group : String) (ipClientId : Id) : Prop :=
  ∃ actionId config,
    (actionIn store accountId actionId).type = some .traefikConfigDelivery ∧
    (actionIn store accountId actionId).status = .enabled ∧
    (actionIn store accountId actionId).ipClientId = some ipClientId ∧
    (actionIn store accountId actionId).config = some (.delivery config) ∧
    config.traefikProviderId = providerId ∧ config.group = group

/-- The device belongs in the group: it is targeted, enabled and known under
some address. -/
structure BelongsIn (store : EventStore) (accountId providerId : Id)
    (group : String) (ipClientId : Id) : Prop where
  targeted : IsTargeted store accountId providerId group ipClientId
  enabled : (ipClientIn store accountId ipClientId).status = .enabled
  known : (ipClientIn store accountId ipClientId).knownAddresses ≠ []

/-- The entry of a device. -/
def entryIn (text : SnapshotText) (store : EventStore)
    (accountId ipClientId : Id) : SnapshotEntry where
  deviceName := (ipClientIn store accountId ipClientId).deviceName
    (text.idName ipClientId)
  ips := (ipClientIn store accountId ipClientId).knownAddresses

namespace CanonicalSnapshots

variable {text : SnapshotText} {store : EventStore}
variable {accountId providerId ipClientId : Id} {group : String}

/-! ## Members and devices -/

theorem snapshotMember_eq_some {state : ActionState} :
    state.snapshotMember providerId = some ⟨group, ipClientId⟩ ↔
      ∃ config, state.type = some .traefikConfigDelivery ∧
        state.status = .enabled ∧ state.ipClientId = some ipClientId ∧
        state.config = some (.delivery config) ∧
        config.traefikProviderId = providerId ∧ config.group = group := by
  constructor
  · intro contributes
    unfold ActionState.snapshotMember at contributes
    split at contributes
    · rename_i device config isType isEnabled own isConfig
      split at contributes
      · rename_i targets
        cases contributes
        obtain ⟨stored, isStored, delivery⟩ :=
          Option.bind_eq_some_iff.mp isConfig
        cases stored with
        | delivery held =>
            cases delivery
            exact ⟨_, isType, isEnabled, own, isStored, targets, rfl⟩
        | dns held => cases delivery
        | firewall held => cases delivery
      · cases contributes
    · cases contributes
  · intro targeted
    obtain ⟨config, isType, isEnabled, own, isConfig, rfl, rfl⟩ := targeted
    simp [ActionState.snapshotMember, isType, isEnabled, own, isConfig,
      ActionConfig.asDelivery]

theorem hasMember_iff :
    HasMember store accountId providerId ⟨group, ipClientId⟩ ↔
      IsTargeted store accountId providerId group ipClientId :=
  exists_congr fun _ => snapshotMember_eq_some

theorem deviceIn_eq_some {entry : SnapshotEntry} :
    (deviceIn text store accountId ipClientId).map SnapshotDevice.entry =
        some entry ↔
      (ipClientIn store accountId ipClientId).status = .enabled ∧
        (ipClientIn store accountId ipClientId).knownAddresses ≠ [] ∧
        entry = entryIn text store accountId ipClientId := by
  by_cases usable : (ipClientIn store accountId ipClientId).status = .enabled ∧
      (ipClientIn store accountId ipClientId).knownAddresses ≠ []
  · have contributes : deviceIn text store accountId ipClientId = some
        ⟨(entryIn text store accountId ipClientId).deviceName,
          (entryIn text store accountId ipClientId).ips⟩ := if_pos usable
    rw [contributes]
    constructor
    · intro same
      cases same
      exact ⟨usable.1, usable.2, rfl⟩
    · intro same
      rw [same.2.2]
      rfl
  · have contributes : deviceIn text store accountId ipClientId = none :=
      if_neg usable
    rw [contributes]
    constructor
    · intro impossible
      cases impossible
    · intro same
      exact absurd ⟨same.1, same.2.1⟩ usable

/-! ## Groups and entries -/

variable {members : List SnapshotMember}

/-- The devices of a group, in the order of their entries. -/
def devicesOf (text : SnapshotText) (groups : SnapshotGroups)
    (group : String) : List Id :=
  (sortedEntries text (groups.entriesOf group)).map (·.1)

theorem mem_sortedEntries {entries : List (Id × SnapshotEntry)}
    {entry : Id × SnapshotEntry} :
    entry ∈ sortedEntries text entries ↔ entry ∈ entries :=
  (List.mergeSort_perm entries (entryBefore text)).mem_iff

theorem devicesOf_nodup {groups : SnapshotGroups} (keyed : groups.Keyed) :
    (devicesOf text groups group).Nodup := by
  have permuted := (List.mergeSort_perm (groups.entriesOf group)
    (entryBefore text)).map (·.1)
  exact permuted.nodup_iff.mpr (keyed.devices group)

variable (store accountId providerId members) in
/-- The members are all there are. -/
def AllMembers : Prop :=
  ∀ member, member ∈ members ↔ HasMember store accountId providerId member

theorem mem_entries (all : AllMembers store accountId providerId members)
    {entry : SnapshotEntry} :
    (ipClientId, entry) ∈ (collectedGroups (deviceIn text store accountId)
        members).entriesOf group ↔
      BelongsIn store accountId providerId group ipClientId ∧
        entry = entryIn text store accountId ipClientId := by
  have keyed := @collectedGroups_keyed (deviceIn text store accountId) members
  rw [← getEntry_eq_some_iff (keyed.devices group), getEntry_collectedGroups,
    all, hasMember_iff, deviceIn_eq_some]
  constructor
  · intro found
    obtain ⟨targeted, enabled, known, same⟩ := found
    exact ⟨⟨targeted, enabled, known⟩, same⟩
  · intro found
    obtain ⟨belongs, same⟩ := found
    exact ⟨belongs.targeted, belongs.enabled, belongs.known, same⟩

theorem mem_devicesOf (all : AllMembers store accountId providerId members) :
    ipClientId ∈ devicesOf text (collectedGroups
        (deviceIn text store accountId) members) group ↔
      BelongsIn store accountId providerId group ipClientId := by
  unfold devicesOf
  rw [List.mem_map]
  constructor
  · intro found
    obtain ⟨⟨other, entry⟩, member, rfl⟩ := found
    exact ((mem_entries all).mp (mem_sortedEntries.mp member)).1
  · intro belongs
    exact ⟨(ipClientId, entryIn text store accountId ipClientId),
      mem_sortedEntries.mpr ((mem_entries all).mpr ⟨belongs, rfl⟩), rfl⟩

/-- The entries of a group are those of its devices. -/
theorem entries_eq (all : AllMembers store accountId providerId members) :
    (sortedEntries text ((collectedGroups (deviceIn text store accountId)
        members).entriesOf group)).map (·.2) =
      (devicesOf text (collectedGroups (deviceIn text store accountId) members)
        group).map (entryIn text store accountId) := by
  unfold devicesOf
  rw [List.map_map]
  apply List.map_congr_left
  intro entry member
  exact ((mem_entries all).mp (mem_sortedEntries.mp member)).2

/-! ## The sorted groups -/

theorem sorted_keys (groups : SnapshotGroups) :
    (groups.sorted text).map (·.key) = (sortedGroups groups).map (·.1) := by
  unfold SnapshotGroups.sorted sortedGroups
  rw [List.map_map]
  rfl

theorem sorted_distinct {groups : SnapshotGroups} (keyed : groups.Keyed) :
    ((groups.sorted text).map (·.key)).Nodup := by
  rw [sorted_keys]
  have permuted := (List.mergeSort_perm groups
    fun first second => decide (first.1 ≤ second.1)).map (·.1)
  exact permuted.nodup_iff.mpr keyed.distinct

theorem sorted_pairwise (groups : SnapshotGroups) :
    ((groups.sorted text).map (·.key)).Pairwise (· ≤ ·) := by
  rw [sorted_keys, List.pairwise_map]
  exact (sortedGroups_pairwise groups).imp of_decide_eq_true

theorem mem_sorted {groups : SnapshotGroups} (keyed : groups.Keyed)
    {entries : List SnapshotEntry} :
    ⟨group, entries⟩ ∈ groups.sorted text ↔
      (getEntry group groups).isSome = true ∧
        entries = (sortedEntries text (groups.entriesOf group)).map (·.2) := by
  unfold SnapshotGroups.sorted SnapshotGroups.entriesOf
  rw [List.mem_map]
  constructor
  · intro found
    obtain ⟨⟨name, held⟩, member, same⟩ := found
    cases same
    have stored : getEntry name groups = some held :=
      (getEntry_eq_some_iff keyed.distinct).mpr
        ((List.mergeSort_perm groups _).mem_iff.mp member)
    rw [stored]
    exact ⟨rfl, rfl⟩
  · intro found
    obtain ⟨present, rfl⟩ := found
    obtain ⟨held, stored⟩ := Option.isSome_iff_exists.mp present
    refine ⟨(group, held), ?_, ?_⟩
    · exact (List.mergeSort_perm groups _).mem_iff.mpr
        ((getEntry_eq_some_iff keyed.distinct).mp stored)
    · rw [stored]
      rfl

/-- A group is there if some device belongs in it. -/
theorem isSome_group (all : AllMembers store accountId providerId members) :
    (getEntry group (collectedGroups (deviceIn text store accountId)
        members)).isSome = true ↔
      ∃ ipClientId, BelongsIn store accountId providerId group ipClientId := by
  rw [isSome_collectedGroups]
  constructor
  · intro found
    obtain ⟨⟨name, ipClientId⟩, member, rfl, contributes⟩ := found
    obtain ⟨device, found⟩ := Option.isSome_iff_exists.mp contributes
    obtain ⟨enabled, known, -⟩ := deviceIn_eq_some.mp
      (congrArg (Option.map SnapshotDevice.entry) found)
    exact ⟨ipClientId, hasMember_iff.mp ((all _).mp member), enabled, known⟩
  · intro found
    obtain ⟨ipClientId, belongs⟩ := found
    refine ⟨⟨group, ipClientId⟩, (all _).mpr (hasMember_iff.mpr belongs.targeted),
      rfl, ?_⟩
    have contributes : (deviceIn text store accountId ipClientId).map
        SnapshotDevice.entry = some (entryIn text store accountId ipClientId) :=
      deviceIn_eq_some.mpr ⟨belongs.enabled, belongs.known, rfl⟩
    obtain ⟨device, found, -⟩ := Option.map_eq_some_iff.mp contributes
    exact Option.isSome_of_mem found

end CanonicalSnapshots

open CanonicalSnapshots

/-- A build can return this content: any read may have failed before, and the
actions are listed in any order. -/
def BuildReturns (text : SnapshotText) (world : World)
    (accountId providerId : Id) (name : String) (content : SnapshotContent) :
    Prop :=
  ∃ history final, Execution semantics Eq (fun _ _ _ _ => True) []
    (buildSnapshotContent text accountId providerId name) world history
    (.returned content) final

theorem BuildReturns.found {text : SnapshotText} {world : World}
    {accountId providerId : Id} {name : String} {content : SnapshotContent}
    (returns : BuildReturns text world accountId providerId name content) :
    ∃ members, AllMembers world.store accountId providerId members ∧
      content = ⟨name, (collectedGroups (deviceIn text world.store accountId)
        members).sorted text⟩ := by
  obtain ⟨history, final, execution⟩ := returns
  have finds : SnapshotBuild.Finds .fallible world.store _ _ :=
    SnapshotBuild.buildSnapshotContent_finds text accountId providerId name
  exact (finds.sound execution).1

/-- A build whose reads are answered returns. -/
theorem exists_buildReturns (text : SnapshotText) (world : World)
    (accountId providerId : Id) (name : String) :
    ∃ content, BuildReturns text world accountId providerId name content := by
  obtain ⟨history, outcome, final, uncut, execution⟩ :=
    SnapshotBuild.reads_complete
      (buildSnapshotContent_reads text accountId providerId name) [] world
  have finds : SnapshotBuild.Finds .answered world.store _ _ :=
    SnapshotBuild.buildSnapshotContent_finds text accountId providerId name
  have ends := finds.sound execution
  cases outcome with
  | returned content =>
      exact ⟨content, history, final, execution.mono fun _ _ _ _ _ => trivial⟩
  | threw error => exact ends.elim
  | cut => exact absurd rfl uncut

/-- What a build returns is exact: a device has one entry in each group in
which it belongs, and no other; the groups are not empty, distinct and sorted;
and any other build of the same state returns the same. -/
theorem snapshot_content_is_exact (text : SnapshotText)
    [Std.TransCmp text.localeCompare] (world : World)
    (accountId providerId : Id) (name : String) (content : SnapshotContent)
    (returns : BuildReturns text world accountId providerId name content) :
    content.providerName = name ∧
    (∃ devices : String → List Id,
      (∀ group, (devices group).Nodup ∧ ∀ ipClientId,
        ipClientId ∈ devices group ↔
          BelongsIn world.store accountId providerId group ipClientId) ∧
      ∀ group entries, ⟨group, entries⟩ ∈ content.groups ↔
        devices group ≠ [] ∧ entries =
          (devices group).map (entryIn text world.store accountId)) ∧
    (content.groups.map (·.key)).Nodup ∧
    (content.groups.map (·.key)).Pairwise (· ≤ ·) ∧
    ∀ other, BuildReturns text world accountId providerId name other →
      other = content := by
  obtain ⟨members, all, rfl⟩ := returns.found
  have keyed := @collectedGroups_keyed (deviceIn text world.store accountId)
    members
  refine ⟨rfl, ⟨devicesOf text (collectedGroups
    (deviceIn text world.store accountId) members), ?_, ?_⟩,
    sorted_distinct keyed, sorted_pairwise _, ?_⟩
  · exact fun group => ⟨devicesOf_nodup keyed, fun _ => mem_devicesOf all⟩
  · intro group entries
    rw [mem_sorted keyed, isSome_group all, entries_eq all]
    apply and_congr_left'
    constructor
    · intro found
      obtain ⟨ipClientId, belongs⟩ := found
      exact List.ne_nil_of_mem ((mem_devicesOf all).mpr belongs)
    · intro notEmpty
      obtain ⟨ipClientId, member⟩ := List.exists_mem_of_ne_nil _ notEmpty
      exact ⟨ipClientId, (mem_devicesOf all).mp member⟩
  · intro other again
    obtain ⟨others, allOthers, rfl⟩ := again.found
    congr 1
    apply collectedGroups_sorted_congr
    · exact fun member => (allOthers member).trans (all member).symm
    · exact fun _ _ => rfl

/-! ## A device with one address -/

/-- The device is known under one IPv4 address and in the group "lan". -/
def knownStore : EventStore :=
  EventStore.recorded 1
    [(.ipClient, 20, .ipClient (.registered 20 1 "router" "hash" 0)),
     (.ipClient, 20, .ipClient (.ipChanged
        { previousIPv4 := none
          newIPv4 := some "192.0.2.7"
          previousIPv6 := none
          newIPv6 := none
          settledAt := 0 })),
     (.action, 30, .action (.attached
        { actionId := 30
          accountId := 1
          ipClientId := 20
          type := .traefikConfigDelivery
          addressFamilies := [.ipv4, .ipv6]
          config := .delivery ⟨10, "lan"⟩
          attachedAt := 0 }))]

theorem belongsIn_lan : BelongsIn knownStore 1 10 "lan" 20 where
  targeted := ⟨30, ⟨10, "lan"⟩, by decide +kernel⟩
  enabled := by decide +kernel
  known := by decide +kernel

/-- A collation of the texts as they are. -/
def plainText : SnapshotText where
  localeCompare := compare
  idName id := toString id

theorem snapshot_content_is_exact_lan :
    ∃ content, BuildReturns plainText { store := knownStore } 1 10 "home"
        content ∧
      ∃ entries ≠ [], ⟨"lan", entries⟩ ∈ content.groups := by
  obtain ⟨content, returns⟩ :=
    exists_buildReturns plainText { store := knownStore } 1 10 "home"
  have transitive : Std.TransCmp plainText.localeCompare :=
    inferInstanceAs (Std.TransCmp (compare : String → String → Ordering))
  obtain ⟨-, ⟨devices, belongs, groups⟩, -⟩ := snapshot_content_is_exact
    plainText { store := knownStore } 1 10 "home" content returns
  have member : 20 ∈ devices "lan" := ((belongs "lan").2 20).mpr belongsIn_lan
  have notEmpty := List.ne_nil_of_mem member
  refine ⟨content, returns, _, ?_, (groups "lan" _).mpr ⟨notEmpty, rfl⟩⟩
  simpa using notEmpty

end FluxIP
