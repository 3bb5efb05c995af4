import FluxIP.Domain.Snapshot
import Mathlib.Data.List.Induction
import Mathlib.Order.Defs.LinearOrder

/-!
# What a snapshot's content depends on

The groups of a snapshot are determined by which members there are and by what
their devices contribute.  In which order the members are visited does not
matter, because the groups and their entries are sorted at the end.
-/

namespace FluxIP

/-! ## Maps as lists of entries -/

section Entries

variable {α β : Type} [DecidableEq α]

theorem getEntry_cons (key : α) (entry : α × β) (entries : List (α × β)) :
    getEntry key (entry :: entries) =
      if entry.1 = key then some entry.2 else getEntry key entries := by
  by_cases here : entry.1 = key
  · simp [getEntry, here]
  · simp [getEntry, here]

theorem getEntry_setEntry (key other : α) (value : β)
    (entries : List (α × β)) :
    getEntry other (setEntry key value entries) =
      if key = other then some value else getEntry other entries := by
  induction entries with
  | nil => exact getEntry_cons other (key, value) []
  | cons entry entries ih =>
      by_cases here : entry.1 = key
      · simp only [setEntry, here, if_true, getEntry_cons]
        split <;> rfl
      · simp only [setEntry, here, if_false, getEntry_cons, ih]
        by_cases there : entry.1 = other
        · have differ : key ≠ other := fun same => here (there.trans same.symm)
          simp [there, differ]
        · simp [there]

theorem mem_setEntry_keys {key other : α} {value : β}
    {entries : List (α × β)}
    (member : other ∈ (setEntry key value entries).map (·.1)) :
    other = key ∨ other ∈ entries.map (·.1) := by
  induction entries with
  | nil => simpa [setEntry] using member
  | cons entry entries ih =>
      by_cases here : entry.1 = key
      · simp [setEntry, here] at member
        simp [here, member]
      · simp only [setEntry, here, if_false, List.map_cons,
          List.mem_cons] at member
        rcases member with first | later
        · simp [first]
        · rcases ih later with same | old
          · exact Or.inl same
          · exact Or.inr (List.mem_cons_of_mem _ old)

theorem setEntry_nodup {key : α} {value : β} {entries : List (α × β)}
    (distinct : (entries.map (·.1)).Nodup) :
    ((setEntry key value entries).map (·.1)).Nodup := by
  induction entries with
  | nil => simp [setEntry]
  | cons entry entries ih =>
      obtain ⟨absent, later⟩ := List.nodup_cons.mp distinct
      by_cases here : entry.1 = key
      · simp only [setEntry, here, if_true, List.map_cons]
        subst here
        exact List.nodup_cons.mpr ⟨absent, later⟩
      · simp only [setEntry, here, if_false, List.map_cons]
        refine List.nodup_cons.mpr ⟨?_, ih later⟩
        intro again
        rcases mem_setEntry_keys again with same | old
        · exact here same
        · exact absent old

theorem getEntry_eq_some_iff {key : α} {value : β} {entries : List (α × β)}
    (distinct : (entries.map (·.1)).Nodup) :
    getEntry key entries = some value ↔ (key, value) ∈ entries := by
  induction entries with
  | nil => simp [getEntry]
  | cons entry entries ih =>
      obtain ⟨absent, later⟩ := List.nodup_cons.mp distinct
      rw [getEntry_cons]
      by_cases here : entry.1 = key
      · have missing : (key, value) ∉ entries := by
          intro member
          rw [← here] at member
          exact absent (List.mem_map.mpr ⟨_, member, rfl⟩)
        simp [missing, Prod.ext_iff, here, eq_comm]
      · have other : (key, value) ≠ entry := by
          intro same
          exact here (congrArg Prod.fst same).symm
        simp [here, other, ih later]

/-- A map is its lookups, up to the order of the entries. -/
theorem perm_of_getEntry {left right : List (α × β)}
    (leftDistinct : (left.map (·.1)).Nodup)
    (rightDistinct : (right.map (·.1)).Nodup)
    (same : ∀ key, getEntry key left = getEntry key right) :
    left.Perm right := by
  apply (List.perm_ext_iff_of_nodup leftDistinct.of_map
    rightDistinct.of_map).mpr
  intro entry
  rw [← Prod.mk.eta (p := entry), ← getEntry_eq_some_iff leftDistinct,
    ← getEntry_eq_some_iff rightDistinct, same]

end Entries

/-! ## Groups -/

/-- The entries of a group, none if it is not there. -/
def SnapshotGroups.entriesOf (groups : SnapshotGroups) (group : String) :
    List (Id × SnapshotEntry) :=
  (getEntry group groups).getD []

/-- No group is there twice, and no device twice in a group. -/
structure SnapshotGroups.Keyed (groups : SnapshotGroups) : Prop where
  distinct : (groups.map (·.1)).Nodup
  devices : ∀ group, ((groups.entriesOf group).map (·.1)).Nodup

/-- What the loop over the members collects, given what each device
contributes. -/
def collectedGroups (device : Id → Option SnapshotDevice)
    (members : List SnapshotMember) : SnapshotGroups :=
  members.foldl
    (fun groups member =>
      (device member.ipClientId).elim groups (groups.add member)) []

/-- The entry a member contributes under its device. -/
def SnapshotDevice.entry (device : SnapshotDevice) : SnapshotEntry :=
  ⟨device.label, device.ips⟩

variable {groups left right : SnapshotGroups}

theorem SnapshotGroups.getEntry_add (member : SnapshotMember)
    (device : SnapshotDevice) (group : String) :
    getEntry group (groups.add member device) =
      if member.group = group then some (setEntry member.ipClientId
        device.entry (groups.entriesOf member.group))
      else getEntry group groups :=
  getEntry_setEntry _ _ _ _

theorem SnapshotGroups.entriesOf_add (member : SnapshotMember)
    (device : SnapshotDevice) (group : String) :
    (groups.add member device).entriesOf group =
      if member.group = group then setEntry member.ipClientId device.entry
        (groups.entriesOf member.group)
      else groups.entriesOf group := by
  rw [entriesOf, getEntry_add]
  split <;> rfl

theorem SnapshotGroups.Keyed.add (keyed : groups.Keyed)
    (member : SnapshotMember) (device : SnapshotDevice) :
    (groups.add member device).Keyed := by
  constructor
  · exact setEntry_nodup keyed.distinct
  · intro group
    rw [entriesOf_add]
    split
    · exact setEntry_nodup (keyed.devices _)
    · exact keyed.devices group

section Collected

variable {device : Id → Option SnapshotDevice}

theorem collectedGroups_concat (members : List SnapshotMember)
    (member : SnapshotMember) :
    collectedGroups device (members ++ [member]) =
      (device member.ipClientId).elim (collectedGroups device members)
        ((collectedGroups device members).add member) := by
  unfold collectedGroups
  rw [List.foldl_append]
  rfl

theorem collectedGroups_keyed (members : List SnapshotMember) :
    (collectedGroups device members).Keyed := by
  induction members using List.reverseRecOn with
  | nil =>
      constructor
      · simp [collectedGroups]
      · simp [collectedGroups, SnapshotGroups.entriesOf, getEntry]
  | append_singleton members member ih =>
      rw [collectedGroups_concat]
      cases device member.ipClientId with
      | none => exact ih
      | some found => exact ih.add member found

/-- A group is there if one of its members contributes. -/
theorem isSome_collectedGroups (members : List SnapshotMember)
    (group : String) :
    (getEntry group (collectedGroups device members)).isSome = true ↔
      ∃ member ∈ members, member.group = group ∧
        (device member.ipClientId).isSome = true := by
  induction members using List.reverseRecOn with
  | nil => simp [collectedGroups, getEntry]
  | append_singleton members member ih =>
      rw [collectedGroups_concat]
      cases found : device member.ipClientId with
      | none => simp [ih, or_and_right, exists_or, found]
      | some contributed =>
          simp only [Option.elim, SnapshotGroups.getEntry_add]
          by_cases here : member.group = group
          · simp only [here, if_true, Option.isSome_some, true_iff]
            exact ⟨member, by simp, here, by simp [found]⟩
          · simp [here, ih, or_and_right, exists_or]

/-- A device has the entry it contributes in each group it is a member of. -/
theorem getEntry_collectedGroups (members : List SnapshotMember)
    (group : String) (ipClientId : Id) (entry : SnapshotEntry) :
    getEntry ipClientId
        ((collectedGroups device members).entriesOf group) = some entry ↔
      ⟨group, ipClientId⟩ ∈ members ∧
        (device ipClientId).map SnapshotDevice.entry = some entry := by
  induction members using List.reverseRecOn with
  | nil => simp [collectedGroups, SnapshotGroups.entriesOf, getEntry]
  | append_singleton members member ih =>
      rw [collectedGroups_concat]
      cases found : device member.ipClientId with
      | none =>
          rw [Option.elim, ih, List.mem_append, List.mem_singleton]
          constructor
          · rintro ⟨old, contributed⟩
            exact ⟨Or.inl old, contributed⟩
          · rintro ⟨old | rfl, contributed⟩
            · exact ⟨old, contributed⟩
            · rw [found] at contributed
              cases contributed
      | some contributed =>
          rw [Option.elim, SnapshotGroups.entriesOf_add, List.mem_append,
            List.mem_singleton]
          by_cases inGroup : member.group = group
          · subst inGroup
            rw [if_pos rfl, getEntry_setEntry]
            by_cases own : member.ipClientId = ipClientId
            · subst own
              simp [found]
            · have other : ¬ (⟨member.group, ipClientId⟩ : SnapshotMember) =
                  member := fun same =>
                own (congrArg SnapshotMember.ipClientId same).symm
              rw [if_neg own, ih]
              simp [other]
          · have other : ¬ (⟨group, ipClientId⟩ : SnapshotMember) = member :=
              fun same => inGroup (congrArg SnapshotMember.group same).symm
            rw [if_neg inGroup, ih]
            simp [other]

end Collected

/-! ## Sorting -/

section Sorting

variable {text : SnapshotText}

theorem entryBefore_iff (first second : Id × SnapshotEntry) :
    entryBefore text first second = true ↔
      text.localeCompare first.2.deviceName second.2.deviceName = .lt ∨
        text.localeCompare first.2.deviceName second.2.deviceName = .eq ∧
          first.1 ≤ second.1 := by
  unfold entryBefore
  split <;> simp_all

/-- The entries of a group in the order of the snapshot. -/
def sortedEntries (text : SnapshotText) (entries : List (Id × SnapshotEntry)) :
    List (Id × SnapshotEntry) :=
  entries.mergeSort (entryBefore text)

/-- The groups with their entries in order. -/
def SnapshotGroups.arranged (text : SnapshotText) (groups : SnapshotGroups) :
    SnapshotGroups :=
  groups.map fun group => (group.1, sortedEntries text group.2)

theorem SnapshotGroups.arranged_keys (groups : SnapshotGroups) :
    (groups.arranged text).map (·.1) = groups.map (·.1) := by
  simp [arranged]

theorem SnapshotGroups.getEntry_arranged (groups : SnapshotGroups)
    (group : String) :
    getEntry group (groups.arranged text) =
      (getEntry group groups).map (sortedEntries text) := by
  induction groups with
  | nil => rfl
  | cons entry groups ih =>
      unfold arranged at *
      rw [List.map_cons, getEntry_cons, getEntry_cons, ih]
      split <;> rfl

/-- Groups by name. -/
def sortedGroups (groups : SnapshotGroups) : SnapshotGroups :=
  groups.mergeSort fun first second => first.1 ≤ second.1

theorem sortedGroups_pairwise (groups : SnapshotGroups) :
    (sortedGroups groups).Pairwise
      fun first second => decide (first.1 ≤ second.1) = true := by
  apply List.pairwise_mergeSort
  · intro first second third earlier later
    exact decide_eq_true (String.le_trans (of_decide_eq_true earlier)
      (of_decide_eq_true later))
  · intro first second
    simpa using String.le_total first.1 second.1

theorem sortedGroups_congr {left right : SnapshotGroups}
    (distinct : (left.map (·.1)).Nodup) (same : left.Perm right) :
    sortedGroups left = sortedGroups right := by
  have perms := fun groups : SnapshotGroups => List.mergeSort_perm groups
    fun first second => decide (first.1 ≤ second.1)
  apply List.Perm.eq_of_pairwise _ (sortedGroups_pairwise left)
    (sortedGroups_pairwise right)
  · exact (perms left).trans (same.trans (perms right).symm)
  · intro first second isLeft isRight forwards backwards
    have left := (perms _).mem_iff.mp isLeft
    have right := same.mem_iff.mpr ((perms _).mem_iff.mp isRight)
    exact List.inj_on_of_nodup_map distinct left right
      (String.le_antisymm (of_decide_eq_true forwards)
        (of_decide_eq_true backwards))

theorem SnapshotGroups.sorted_eq (groups : SnapshotGroups) :
    groups.sorted text = (sortedGroups (groups.arranged text)).map
      fun group => ⟨group.1, group.2.map (·.2)⟩ := by
  have inOrder : (sortedGroups groups).map
        (fun group => (group.1, sortedEntries text group.2)) =
      sortedGroups (groups.arranged text) := by
    unfold sortedGroups arranged
    exact List.map_mergeSort fun _ _ _ _ => rfl
  rw [← inOrder, List.map_map]
  rfl

variable [Std.TransCmp text.localeCompare]

theorem entryBefore_total (first second : Id × SnapshotEntry) :
    (entryBefore text first second || entryBefore text second first) =
      true := by
  have swapped :
      text.localeCompare second.2.deviceName first.2.deviceName =
        (text.localeCompare first.2.deviceName
          second.2.deviceName).swap := Std.OrientedCmp.eq_swap
  rw [Bool.or_eq_true, entryBefore_iff, entryBefore_iff, swapped]
  cases text.localeCompare first.2.deviceName second.2.deviceName with
  | lt => simp
  | gt => simp
  | eq => simpa using Nat.le_total first.1 second.1

theorem entryBefore_trans (first second third : Id × SnapshotEntry)
    (earlier : entryBefore text first second = true)
    (later : entryBefore text second third = true) :
    entryBefore text first third = true := by
  rw [entryBefore_iff] at *
  rcases earlier with less | ⟨same, position⟩
  · rcases later with less' | ⟨same', -⟩
    · exact Or.inl (Std.TransCmp.lt_trans less less')
    · exact Or.inl (Std.TransCmp.lt_of_lt_of_eq less same')
  · rcases later with less' | ⟨same', position'⟩
    · exact Or.inl (Std.TransCmp.lt_of_eq_of_lt same less')
    · exact Or.inr ⟨Std.TransCmp.eq_trans same same',
        Nat.le_trans position position'⟩

/-- Two entries that come before each other are of the same device. -/
theorem entryBefore_antisymm {first second : Id × SnapshotEntry}
    (forwards : entryBefore text first second = true)
    (backwards : entryBefore text second first = true) :
    first.1 = second.1 := by
  have swapped :
      text.localeCompare second.2.deviceName first.2.deviceName =
        (text.localeCompare first.2.deviceName
          second.2.deviceName).swap := Std.OrientedCmp.eq_swap
  rw [entryBefore_iff] at forwards backwards
  rw [swapped] at backwards
  rcases forwards with less | ⟨same, position⟩
  · simp [less] at backwards
  · simp only [same, Ordering.swap_eq, reduceCtorEq, false_or,
      true_and] at backwards
    exact Nat.le_antisymm position backwards

theorem sortedEntries_congr {left right : List (Id × SnapshotEntry)}
    (distinct : (left.map (·.1)).Nodup) (same : left.Perm right) :
    sortedEntries text left = sortedEntries text right := by
  have sorted := fun entries : List (Id × SnapshotEntry) =>
    List.pairwise_mergeSort (@entryBefore_trans text _)
      entryBefore_total entries
  have perms := fun entries : List (Id × SnapshotEntry) =>
    List.mergeSort_perm entries (entryBefore text)
  apply List.Perm.eq_of_pairwise _ (sorted left) (sorted right)
  · exact (perms left).trans (same.trans (perms right).symm)
  · intro first second isLeft isRight forwards backwards
    have left := (perms _).mem_iff.mp isLeft
    have right := same.mem_iff.mpr ((perms _).mem_iff.mp isRight)
    exact List.inj_on_of_nodup_map distinct left right
      (entryBefore_antisymm forwards backwards)

/-- Groups with the same lookups give the same snapshot. -/
theorem SnapshotGroups.sorted_congr (leftKeyed : left.Keyed)
    (rightKeyed : right.Keyed)
    (sameGroups : ∀ group,
      (getEntry group left).isSome = true ↔
        (getEntry group right).isSome = true)
    (sameEntries : ∀ group ipClientId,
      getEntry ipClientId (left.entriesOf group) =
        getEntry ipClientId (right.entriesOf group)) :
    left.sorted text = right.sorted text := by
  have arrangedSame : ∀ group, getEntry group (left.arranged text) =
      getEntry group (right.arranged text) := by
    intro group
    rw [getEntry_arranged, getEntry_arranged]
    have same : sortedEntries text (left.entriesOf group) =
        sortedEntries text (right.entriesOf group) :=
      sortedEntries_congr (leftKeyed.devices group)
        (perm_of_getEntry (leftKeyed.devices group) (rightKeyed.devices group)
          (sameEntries group))
    have present := sameGroups group
    unfold entriesOf at same
    cases inLeft : getEntry group left with
    | none =>
        cases inRight : getEntry group right with
        | none => rfl
        | some entries => simp [inLeft, inRight] at present
    | some entries =>
        cases inRight : getEntry group right with
        | none => simp [inLeft, inRight] at present
        | some others => simpa [inLeft, inRight] using same
  have distinct : ((left.arranged text).map (·.1)).Nodup := by
    rw [arranged_keys]
    exact leftKeyed.distinct
  have distinctRight : ((right.arranged text).map (·.1)).Nodup := by
    rw [arranged_keys]
    exact rightKeyed.distinct
  rw [sorted_eq, sorted_eq, sortedGroups_congr distinct
    (perm_of_getEntry distinct distinctRight arrangedSame)]

/-- The groups depend on which members there are and on what their devices
contribute. -/
theorem collectedGroups_sorted_congr
    {device device' : Id → Option SnapshotDevice}
    {members members' : List SnapshotMember}
    (sameMembers : ∀ member, member ∈ members ↔ member ∈ members')
    (sameDevices : ∀ member ∈ members,
      device member.ipClientId = device' member.ipClientId) :
    (collectedGroups device members).sorted text =
      (collectedGroups device' members').sorted text := by
  apply SnapshotGroups.sorted_congr (collectedGroups_keyed _)
    (collectedGroups_keyed _)
  · intro group
    rw [isSome_collectedGroups, isSome_collectedGroups]
    constructor
    · rintro ⟨member, isMember, inGroup, contributes⟩
      refine ⟨member, (sameMembers member).mp isMember, inGroup, ?_⟩
      rw [← sameDevices member isMember]
      exact contributes
    · rintro ⟨member, isMember, inGroup, contributes⟩
      have here := (sameMembers member).mpr isMember
      refine ⟨member, here, inGroup, ?_⟩
      rw [sameDevices member here]
      exact contributes
  · intro group ipClientId
    apply Option.ext
    intro entry
    rw [getEntry_collectedGroups, getEntry_collectedGroups]
    constructor
    · rintro ⟨isMember, contributes⟩
      refine ⟨(sameMembers _).mp isMember, ?_⟩
      rw [← sameDevices _ isMember]
      exact contributes
    · rintro ⟨isMember, contributes⟩
      have here := (sameMembers _).mpr isMember
      refine ⟨here, ?_⟩
      rw [sameDevices _ here]
      exact contributes

end Sorting

end FluxIP
