import FluxIP.Adapters.SnapshotWire
import FluxIP.Async.Traces

/-!
# Snapshots fit the wire

Every level of a snapshot spends more bytes on punctuation in JSON than on
frames in protobuf: a frame takes six bytes at most, as long as its payload is
not longer than a string of the runtime can be.
-/

namespace FluxIP

open Async Protobuf

/-! ## The sizes of the JSON forms -/

theorem byteLength_array (items : List (List Char)) :
    (items.map Json.byteLength).sum + 2 ≤ Json.byteLength (Json.array items) := by
  have bracket : '['.utf8Size = 1 ∧ ']'.utf8Size = 1 := by decide
  have separated : (items.map Json.byteLength).sum ≤
      Json.byteLength (items.intersperse [',']).flatten := by
    induction items with
    | nil => exact Nat.le_refl _
    | cons first rest ih =>
        cases rest with
        | nil => simp
        | cons second rest =>
            rw [List.intersperse_cons_cons, List.flatten_cons, List.flatten_cons,
              Json.byteLength_append, Json.byteLength_append, List.map_cons,
              List.sum_cons]
            omega
  unfold Json.array
  simp only [Json.byteLength_cons, Json.byteLength_append, Json.byteLength_nil,
    bracket]
  omega

/-- The bytes of an object with two fields. -/
theorem byteLength_object (first second : String) (left right : List Char) :
    Json.byteLength (Json.object [(first, left), (second, right)]) =
      Json.byteLength (Json.quote first) + Json.byteLength left +
        Json.byteLength (Json.quote second) + Json.byteLength right + 5 := by
  have marks : '{'.utf8Size = 1 ∧ '}'.utf8Size = 1 ∧ ':'.utf8Size = 1 ∧
      ','.utf8Size = 1 := by decide
  simp only [Json.object, List.map_cons, List.map_nil, List.intersperse_cons_cons,
    List.intersperse_singleton, List.flatten_cons, List.flatten_nil,
    Json.byteLength_cons, Json.byteLength_append, Json.byteLength_nil, marks]
  omega

namespace SnapshotEntry

theorem byteLength_json (entry : SnapshotEntry) :
    (textBytes entry.deviceName).length +
      (entry.ips.map fun ip => (textBytes ip).length + 2).sum + 26 ≤
        Json.byteLength entry.json := by
  have name := Json.byteLength_quote entry.deviceName
  have list := byteLength_array (entry.ips.map Json.quote)
  have ips : (entry.ips.map fun ip => (textBytes ip).length + 2).sum ≤
      ((entry.ips.map Json.quote).map Json.byteLength).sum := by
    rw [List.map_map]
    apply List.sum_le_sum
    intro ip _
    rw [Json.length_textBytes]
    exact Json.byteLength_quote ip
  have keys : Json.byteLength (Json.quote "deviceName") = 12 ∧
      Json.byteLength (Json.quote "ips") = 5 := by decide
  unfold json
  rw [byteLength_object, Json.length_textBytes, keys.1, keys.2]
  omega

end SnapshotEntry

theorem SnapshotGroup.byteLength_json (group : SnapshotGroup) :
    (textBytes group.key).length +
      (group.entries.map fun entry => Json.byteLength entry.json).sum + 23 ≤
        Json.byteLength group.json := by
  have key := Json.byteLength_quote group.key
  have list := byteLength_array (group.entries.map SnapshotEntry.json)
  rw [List.map_map] at list
  have keys : Json.byteLength (Json.quote "key") = 5 ∧
      Json.byteLength (Json.quote "entries") = 9 := by decide
  change (group.entries.map fun entry => Json.byteLength entry.json).sum + 2 ≤ _
    at list
  unfold json
  rw [byteLength_object, Json.length_textBytes, keys.1, keys.2]
  omega

theorem SnapshotContent.byteLength_json (content : SnapshotContent) :
    (textBytes content.providerName).length +
      (content.groups.map fun group => Json.byteLength group.json).sum + 31 ≤
        Json.byteLength content.json := by
  have name := Json.byteLength_quote content.providerName
  have list := byteLength_array (content.groups.map SnapshotGroup.json)
  rw [List.map_map] at list
  have keys : Json.byteLength (Json.quote "providerName") = 14 ∧
      Json.byteLength (Json.quote "groups") = 8 := by decide
  change (content.groups.map fun group => Json.byteLength group.json).sum + 2 ≤ _
    at list
  unfold json
  rw [byteLength_object, Json.length_textBytes, keys.1, keys.2]
  omega

/-! ## The sizes of the wire forms -/

/-- What a frame may be put around: 128 bytes to the fifth. -/
def FRAME_LIMIT : Nat := 128 ^ 5

theorem frame_le {field : Nat} {payload : List UInt8}
    (small : payload.length < FRAME_LIMIT) :
    (lengthField field payload).length ≤ payload.length + 6 :=
  length_lengthField_le small

/-- Fields that fit are together not longer than their bounds. -/
theorem frames_le {α : Type} {items : List α} {field : Nat}
    {payload : α → List UInt8} {bound : α → Nat}
    (fits : ∀ item ∈ items, (payload item).length + 6 ≤ bound item)
    (small : (items.map bound).sum < FRAME_LIMIT) :
    (items.flatMap fun item => lengthField field (payload item)).length ≤
      (items.map bound).sum := by
  apply length_flatMap_le
  intro item member
  have within : bound item ≤ (items.map bound).sum :=
    List.single_le_sum (fun _ _ => Nat.zero_le _) _ (List.mem_map_of_mem member)
  have fit := fits item member
  refine Nat.le_trans (frame_le ?_) fit
  omega

/-- Two addresses take at most eight bytes more in frames than in quotes. -/
theorem addresses_le {ips : List String} (few : ips.length ≤ 2) :
    (ips.map fun ip => (textBytes ip).length + 6).sum ≤
      (ips.map fun ip => (textBytes ip).length + 2).sum + 8 := by
  match ips with
  | [] => exact Nat.zero_le _
  | [first] =>
      simp only [List.map_cons, List.map_nil, List.sum_cons, List.sum_nil]
      omega
  | [first, second] =>
      simp only [List.map_cons, List.map_nil, List.sum_cons, List.sum_nil]
      omega
  | first :: second :: third :: rest =>
      simp only [List.length_cons] at few
      omega

theorem SnapshotEntry.length_encode {entry : SnapshotEntry}
    (few : entry.ips.length ≤ 2)
    (small : Json.byteLength entry.json < FRAME_LIMIT - 8) :
    entry.encode.length + 6 ≤ Json.byteLength entry.json := by
  have json := entry.byteLength_json
  have addresses := addresses_le few
  have name : (lengthField 1 (textBytes entry.deviceName)).length ≤
      (textBytes entry.deviceName).length + 6 := frame_le (by omega)
  have ips : (entry.ips.flatMap fun ip => lengthField 2 (textBytes ip)).length ≤
      (entry.ips.map fun ip => (textBytes ip).length + 6).sum :=
    frames_le (fun _ _ => Nat.le_refl _) (by omega)
  unfold encode
  rw [List.length_append]
  omega

theorem SnapshotGroup.length_encode {group : SnapshotGroup}
    (few : ∀ entry ∈ group.entries, entry.ips.length ≤ 2)
    (small : Json.byteLength group.json < FRAME_LIMIT - 8) :
    group.encode.length + 6 ≤ Json.byteLength group.json := by
  have json := group.byteLength_json
  have key : (lengthField 1 (textBytes group.key)).length ≤
      (textBytes group.key).length + 6 := frame_le (by omega)
  have entries : (group.entries.flatMap fun entry =>
      lengthField 2 entry.encode).length ≤
        (group.entries.map fun entry => Json.byteLength entry.json).sum := by
    refine frames_le (fun entry member => ?_) (by omega)
    refine SnapshotEntry.length_encode (few entry member) ?_
    have within := List.single_le_sum (fun _ _ => Nat.zero_le _) _
      (List.mem_map_of_mem (f := fun entry : SnapshotEntry =>
        Json.byteLength entry.json) member)
    omega
  unfold encode
  rw [List.length_append]
  omega

/-- The provider name and the groups are not longer than their JSON. -/
theorem SnapshotContent.length_encode {content : SnapshotContent}
    (few : ∀ group ∈ content.groups, ∀ entry ∈ group.entries,
      entry.ips.length ≤ 2)
    (small : Json.byteLength content.json < FRAME_LIMIT - 8) :
    content.encode.length ≤ Json.byteLength content.json := by
  have json := content.byteLength_json
  have name : (lengthField 4 (textBytes content.providerName)).length ≤
      (textBytes content.providerName).length + 6 := frame_le (by omega)
  have groups : (content.groups.flatMap fun group =>
      lengthField 5 group.encode).length ≤
        (content.groups.map fun group => Json.byteLength group.json).sum := by
    refine frames_le (fun group member => ?_) (by omega)
    refine SnapshotGroup.length_encode (few group member) ?_
    have within := List.single_le_sum (fun _ _ => Nat.zero_le _) _
      (List.mem_map_of_mem (f := fun group : SnapshotGroup =>
        Json.byteLength group.json) member)
    omega
  unfold encode
  rw [List.length_append]
  omega

/-! ## What `buildSnapshotContent` can produce -/

/-- An entry has one address for each family, at most. -/
def FewAddresses (entry : SnapshotEntry) : Prop :=
  entry.ips.length ≤ 2

theorem snapshotDevice_few {state : IpClientState} {name : String}
    {device : SnapshotDevice} (known : state.snapshotDevice name = some device) :
    device.ips.length ≤ 2 := by
  simp only [IpClientState.snapshotDevice, Option.ite_none_right_eq_some,
    Option.some.injEq] at known
  obtain ⟨-, rfl⟩ := known
  exact List.length_filterMap_le _ _

theorem mem_setEntry {α β : Type} [DecidableEq α] {key : α} {value : β}
    {entries : List (α × β)} {entry : α × β}
    (member : entry ∈ setEntry key value entries) :
    entry = (key, value) ∨ entry ∈ entries := by
  induction entries with
  | nil => exact .inl (List.mem_singleton.mp member)
  | cons first entries ih =>
      unfold setEntry at member
      split at member
      · exact (List.mem_cons.mp member).imp id (List.mem_cons_of_mem _)
      · rcases List.mem_cons.mp member with rfl | later
        · exact .inr List.mem_cons_self
        · exact (ih later).imp id (List.mem_cons_of_mem _)

theorem mem_of_getEntry {α β : Type} [DecidableEq α] {key : α} {value : β}
    {entries : List (α × β)} (found : getEntry key entries = some value) :
    (key, value) ∈ entries := by
  obtain ⟨entry, isFound, rfl⟩ := Option.map_eq_some_iff.mp found
  have sameKey := List.find?_some isFound
  rw [← of_decide_eq_true sameKey]
  exact List.mem_of_find?_eq_some isFound

/-- Every entry of every group has few addresses. -/
def SnapshotGroups.Few (groups : SnapshotGroups) : Prop :=
  ∀ group ∈ groups, ∀ entry ∈ group.2, FewAddresses entry.2

theorem SnapshotGroups.Few.add {groups : SnapshotGroups} (few : groups.Few)
    {member : SnapshotMember} {device : SnapshotDevice}
    (fewOfDevice : device.ips.length ≤ 2) : (groups.add member device).Few := by
  intro group isGroup entry isEntry
  rcases mem_setEntry isGroup with rfl | old
  · rcases mem_setEntry isEntry with rfl | old
    · exact fewOfDevice
    · cases found : getEntry member.group groups with
      | none =>
          rw [found] at old
          cases old
      | some entries =>
          rw [found] at old
          exact few _ (mem_of_getEntry found) entry old
  · exact few group old entry isEntry

theorem collectGroups_few (text : SnapshotText) (accountId : Id)
    {cache : List (Id × Option SnapshotDevice)} {groups : SnapshotGroups}
    (members : List SnapshotMember) (few : groups.Few)
    (cached : ∀ entry ∈ cache, ∀ device, entry.2 = some device →
      device.ips.length ≤ 2) :
    (collectGroups text accountId cache groups members).ReturnsGiven
      (fun _ => True) SnapshotGroups.Few := by
  induction members generalizing cache groups with
  | nil => exact few
  | cons member members ih =>
      unfold collectGroups
      split
      · rename_i device found
        refine ih ?_ cached
        cases device with
        | none => exact few
        | some device =>
            exact few.add (cached _ (mem_of_getEntry found) device rfl)
      · refine Program.ReturnsGiven.bind (.anything _) fun loaded _ => ?_
        have known : ∀ device, loaded.state.snapshotDevice
            (text.idName member.ipClientId) = some device →
            device.ips.length ≤ 2 := fun _ => snapshotDevice_few
        refine ih ?_ (List.forall_mem_cons.mpr ⟨known, cached⟩)
        cases device : loaded.state.snapshotDevice
            (text.idName member.ipClientId) with
        | none => exact few
        | some device' => exact few.add (known device' device)

theorem buildSnapshotContent_few (text : SnapshotText)
    (accountId providerId : Id) (providerName : String) :
    (buildSnapshotContent text accountId providerId providerName).ReturnsGiven
      (fun _ => True) fun content => ∀ group ∈ content.groups,
        ∀ entry ∈ group.entries, FewAddresses entry := by
  refine Program.ReturnsGiven.bind (.anything _) fun actionIds _ => ?_
  refine Program.ReturnsGiven.bind (.anything _) fun members _ => ?_
  refine Program.ReturnsGiven.bind (collectGroups_few text accountId members
    (fun _ member => (by cases member)) (fun _ member => (by cases member))) ?_
  intro groups few group isGroup entry isEntry
  obtain ⟨source, isSource, rfl⟩ := List.mem_map.mp isGroup
  obtain ⟨pair, isPair, rfl⟩ := List.mem_map.mp isEntry
  exact few source (List.mem_mergeSort.mp isSource) pair
    (List.mem_mergeSort.mp isPair)

/-! ## The message that is sent -/

/-- The digits of a ULID. -/
def ULID_DIGITS : List Char :=
  "0123456789ABCDEFGHJKMNPQRSTVWXYZ".toList

def IsUlid (text : String) : Prop :=
  text.toList.length = 26 ∧ ∀ char ∈ text.toList, char ∈ ULID_DIGITS

/-- The shape of what `toISOString` gives, for years of four or six digits. -/
def IsIsoInstant (text : String) : Prop :=
  (text.toList.length = 24 ∨ text.toList.length = 27) ∧
    ∀ char ∈ text.toList, char ∈ "0123456789+-:.TZ".toList

instance (text : String) : Decidable (IsUlid text) :=
  decidable_of_iff (text.toList.length = 26 ∧
    text.toList.all ULID_DIGITS.contains = true) (by simp [IsUlid])

instance (text : String) : Decidable (IsIsoInstant text) :=
  decidable_of_iff
    ((text.toList.length = 24 ∨ text.toList.length = 27) ∧
      text.toList.all "0123456789+-:.TZ".toList.contains = true)
    (by simp [IsIsoInstant])

/-- A text of ASCII characters has a byte for each. -/
theorem length_textBytes_ascii {text : String} {chars : List Char}
    (ascii : chars.all (·.utf8Size == 1) = true)
    (made : ∀ char ∈ text.toList, char ∈ chars) :
    (textBytes text).length = text.toList.length := by
  rw [Json.length_textBytes]
  unfold Json.byteLength
  rw [List.map_congr_left fun char member =>
    beq_iff_eq.mp (List.all_eq_true.mp ascii char (made char member))]
  rw [List.map_const']
  exact List.sum_replicate_nat.trans (Nat.mul_one _)

def exampleText : SnapshotText :=
  ⟨fun first second => compare first second, toString⟩

def emptyContent : SnapshotContent := ⟨"edge \"1\"", []⟩

/-- A provider of an account without actions. -/
theorem emptyContent_built :
    (buildSnapshotContent exampleText 0 0 "edge \"1\"").CanReturn
      emptyContent := by
  refine ⟨.ok [], ?_⟩
  have sorted : SnapshotGroups.sorted exampleText [] = [] := by
    simp [SnapshotGroups.sorted]
  exact congrArg (SnapshotContent.mk "edge \"1\"") sorted

end FluxIP
