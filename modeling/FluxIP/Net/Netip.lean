import Mathlib.Data.List.TakeDrop
import Mathlib.Data.List.TakeWhile

/-!
# Addresses and prefixes

The text forms of IP addresses and prefixes: how they are parsed and how they
are printed, with IPv6 addresses in their shortest form.  Parsing what an
address or a prefix is printed as gives it back.
-/

namespace Netip

/-! ## Values -/

structure IPv4 where
  octets : List (Fin 256)
  length : octets.length = 4
  deriving DecidableEq, Repr

structure IPv6 where
  groups : List (Fin 65536)
  length : groups.length = 8
  deriving DecidableEq, Repr

/-- An empty zone is no zone. -/
inductive Addr where
  | v4 (ip : IPv4)
  | v6 (ip : IPv6) (zone : List Char)
  deriving DecidableEq, Repr

namespace Addr

def bitLen : Addr → Nat
  | v4 _ => 32
  | v6 _ _ => 128

def withoutZone : Addr → Addr
  | v4 ip => v4 ip
  | v6 ip _ => v6 ip []

end Addr

/-- A prefix has no zone, and its length fits its address. -/
structure Prefix where
  addr : Addr
  bits : Nat
  zoneless : addr.withoutZone = addr
  fits : bits ≤ addr.bitLen
  deriving DecidableEq, Repr

/-- The prefix that holds one address. -/
def Prefix.host (addr : Addr) : Prefix where
  addr := addr.withoutZone
  bits := addr.bitLen
  zoneless := by cases addr <;> rfl
  fits := by cases addr <;> exact Nat.le_refl _

/-! ## Parsing -/

def decimalValue (digits : List Char) : Nat :=
  digits.foldl (fun value digit => 10 * value + (digit.toNat - 48)) 0

/-- A decimal number below 256 without leading zeros. -/
def parseOctet (field : List Char) : Option (Fin 256) :=
  if field ≠ [] ∧ field.all Char.isDigit ∧
      (field.length = 1 ∨ field.head? ≠ some '0') then
    if small : decimalValue field < 256 then some ⟨_, small⟩ else none
  else none

/-- Four octets, separated by dots. -/
def parseIPv4 (text : List Char) : Option IPv4 := do
  let octets ← (text.splitOn '.').mapM parseOctet
  if length : octets.length = 4 then some ⟨octets, length⟩ else none

def hexValue (digit : Char) : Option Nat :=
  if '0' ≤ digit ∧ digit ≤ '9' then some (digit.toNat - 48)
  else if 'a' ≤ digit ∧ digit ≤ 'f' then some (digit.toNat - 87)
  else if 'A' ≤ digit ∧ digit ≤ 'F' then some (digit.toNat - 55)
  else none

/-- One to four hexadecimal digits. -/
def parseGroup (field : List Char) : Option (Fin 65536) :=
  if field ≠ [] ∧ field.length ≤ 4 then do
    let digits ← field.mapM hexValue
    let value := digits.foldl (fun value digit => 16 * value + digit) 0
    if small : value < 65536 then some ⟨value, small⟩ else none
  else none

/-- The two groups an embedded IPv4 address stands for. -/
def IPv4.groups (ip : IPv4) : List (Fin 65536) :=
  match ip.octets with
  | [a, b, c, d] =>
      [⟨256 * a.val + b.val, by omega⟩, ⟨256 * c.val + d.val, by omega⟩]
  | _ => []

/-- Groups, the last of which may be an embedded IPv4 address. -/
def parseGroups : List (List Char) → Option (List (Fin 65536))
  | [] => some []
  | [last] =>
      if '.' ∈ last then (parseIPv4 last).map IPv4.groups
      else (parseGroup last).map fun group => [group]
  | field :: fields => do
      let group ← parseGroup field
      let groups ← parseGroups fields
      some (group :: groups)

/-- The text before and after the first `::`. -/
def splitEllipsis : List Char → Option (List Char × List Char)
  | ':' :: ':' :: rest => some ([], rest)
  | c :: rest => (splitEllipsis rest).map (Prod.map (c :: ·) id)
  | [] => none

/-- The fields between colons; an empty text has none. -/
def colonFields (text : List Char) : List (List Char) :=
  if text = [] then [] else text.splitOn ':'

/-- Eight groups, or fewer around a `::` that stands for at least one group of
zeros. -/
def parseIPv6Groups (text : List Char) : Option IPv6 :=
  match splitEllipsis text with
  | none => do
      let groups ← parseGroups (colonFields text)
      if length : groups.length = 8 then some ⟨groups, length⟩ else none
  | some (left, right) => do
      let before ← (colonFields left).mapM parseGroup
      let after ← parseGroups (colonFields right)
      if short : before.length + after.length ≤ 7 then
        some
          { groups := before ++
              List.replicate (8 - (before.length + after.length)) 0 ++ after
            length := by
              simp only [List.length_append, List.length_replicate]
              omega }
      else none

/-- A `%` begins the zone, which is not empty. -/
def parseIPv6 (text : List Char) : Option Addr :=
  match text.span (· ≠ '%') with
  | (address, []) => (parseIPv6Groups address).map fun ip => .v6 ip []
  | (address, _ :: zone) =>
      if zone = [] then none
      else (parseIPv6Groups address).map fun ip => .v6 ip zone

/-- The first dot, colon or `%` tells the family. -/
def parseAddr (text : List Char) : Option Addr :=
  match text.find? (· ∈ ['.', ':', '%']) with
  | some '.' => (parseIPv4 text).map .v4
  | some ':' => parseIPv6 text
  | _ => none

/-- The text before and after the last slash. -/
def splitSlash (text : List Char) : Option (List Char × List Char) :=
  match text.reverse.span (· ≠ '/') with
  | (_, []) => none
  | (after, _ :: before) => some (before.reverse, after.reverse)

/-- A decimal number without a sign or leading zeros. -/
def parseBits (text : List Char) : Option Nat :=
  if text ≠ [] ∧ text.all Char.isDigit ∧
      (text.length = 1 ∨ text.head? ≠ some '0') then
    some (decimalValue text)
  else none

def parsePrefix (text : List Char) : Option Prefix := do
  let (address, length) ← splitSlash text
  let addr ← parseAddr address
  let bits ← parseBits length
  if valid : addr.withoutZone = addr ∧ bits ≤ addr.bitLen then
    some ⟨addr, bits, valid.1, valid.2⟩
  else none

/-! ## Printing -/

def octetText (octet : Fin 256) : List Char :=
  Nat.toDigits 10 octet

def IPv4.text (ip : IPv4) : List Char :=
  ['.'].intercalate (ip.octets.map octetText)

/-- The digits of a group without leading zeros. -/
def groupText (group : Fin 65536) : List Char :=
  (if 0x1000 ≤ group.val then [(group.val / 0x1000).digitChar] else []) ++
  (if 0x100 ≤ group.val then [(group.val / 0x100 % 16).digitChar] else []) ++
  (if 0x10 ≤ group.val then [(group.val / 0x10 % 16).digitChar] else []) ++
  [(group.val % 16).digitChar]

def groupsText (groups : List (Fin 65536)) : List Char :=
  [':'].intercalate (groups.map groupText)

/-- How many groups of zeros a list begins with. -/
def leadingZeros : List (Fin 65536) → Nat
  | [] => 0
  | group :: groups => if group = 0 then leadingZeros groups + 1 else 0

/-- The longest run of two or more groups of zeros from position `start` on,
the first of them if there are several: its position and length. -/
def longestRun (groups : List (Fin 65536)) (start : Nat)
    (best : Option (Nat × Nat)) : Option (Nat × Nat) :=
  match groups with
  | [] => best
  | group :: rest =>
      let length := leadingZeros (group :: rest)
      let better := 2 ≤ length ∧ (best.elim 0 (·.2)) < length
      longestRun rest (start + 1) (if better then some (start, length) else best)

/-- The IPv4 address an IPv4-mapped address holds. -/
def IPv6.mapped (ip : IPv6) : Option IPv4 :=
  match ip.groups with
  | [a, b, c, d, e, f, high, low] =>
      if a = 0 ∧ b = 0 ∧ c = 0 ∧ d = 0 ∧ e = 0 ∧ f = 0xffff then
        some
          { octets :=
              [⟨high.val / 256, by omega⟩, ⟨high.val % 256, by omega⟩,
                ⟨low.val / 256, by omega⟩, ⟨low.val % 256, by omega⟩]
            length := rfl }
      else none
  | _ => none

def IPv6.text (ip : IPv6) : List Char :=
  match ip.mapped with
  | some mapped => "::ffff:".toList ++ mapped.text
  | none =>
      match longestRun ip.groups 0 none with
      | none => groupsText ip.groups
      | some (start, length) =>
          groupsText (ip.groups.take start) ++ [':', ':'] ++
            groupsText (ip.groups.drop (start + length))

def Addr.text : Addr → List Char
  | v4 ip => ip.text
  | v6 ip [] => ip.text
  | v6 ip zone => ip.text ++ '%' :: zone

def Prefix.text (pfx : Prefix) : List Char :=
  pfx.addr.text ++ '/' :: Nat.toDigits 10 pfx.bits

example : (parseAddr "::ffff:10.1.2.3".toList).map Addr.text =
    some "::ffff:10.1.2.3".toList := by decide
example : (parseAddr "2001:DB8:0:0:1:0:0:1".toList).map Addr.text =
    some "2001:db8::1:0:0:1".toList := by decide

/-! ## Fields -/

/-- Fields that each parse back parse back together. -/
theorem mapM_map {α β : Type} {print : α → β} {parse : β → Option α}
    (back : ∀ value, parse (print value) = some value) (values : List α) :
    (values.map print).mapM parse = some values := by
  induction values with
  | nil => rfl
  | cons value values ih =>
      rw [List.map_cons, List.mapM_cons, back, ih]
      rfl

theorem parsed_of_mapM {α β : Type} {parse : α → Option β} {texts : List α}
    {values : List β} (parsed : texts.mapM parse = some values) :
    ∀ text ∈ texts, ∃ value, parse text = some value := by
  induction texts generalizing values with
  | nil => simp
  | cons text texts ih =>
      rw [List.mapM_cons] at parsed
      obtain ⟨value, first, rest⟩ := Option.bind_eq_some_iff.mp parsed
      obtain ⟨others, others_parsed, -⟩ := Option.bind_eq_some_iff.mp rest
      exact List.forall_mem_cons.mpr ⟨⟨value, first⟩, ih others_parsed⟩

theorem parseOctet_octetText :
    ∀ octet, parseOctet (octetText octet) = some octet := by
  decide +kernel

theorem isDigit_of_mem_octetText {octet : Fin 256} {c : Char}
    (member : c ∈ octetText octet) : c.isDigit = true :=
  Nat.isDigit_of_mem_toDigits (by decide) (by decide) member

theorem hexValue_digitChar : ∀ digit < 16,
    hexValue digit.digitChar = some digit := by
  decide

/-- The value of a group's digits. -/
theorem groupText_value {value : Nat} (bound : value < 65536) :
    ∃ digits : List Nat, (groupText ⟨value, bound⟩).mapM hexValue =
        some digits ∧
      digits.foldl (fun value digit => 16 * value + digit) 0 = value := by
  have hex (digit : Nat) (small : digit < 16) :
      hexValue digit.digitChar = some digit := hexValue_digitChar digit small
  have first : value / 0x1000 < 16 := by omega
  have second := hex (value / 0x100 % 16) (Nat.mod_lt _ (by decide))
  have third := hex (value / 0x10 % 16) (Nat.mod_lt _ (by decide))
  have last := hex (value % 16) (Nat.mod_lt _ (by decide))
  by_cases four : 0x1000 ≤ value
  · refine ⟨[value / 0x1000, value / 0x100 % 16, value / 0x10 % 16,
      value % 16], ?_, ?_⟩
    · simp [groupText, four, show 0x100 ≤ value by omega,
        show 0x10 ≤ value by omega, hex _ first, second, third, last]
    · simp only [List.foldl_cons, List.foldl_nil]
      omega
  by_cases three : 0x100 ≤ value
  · refine ⟨[value / 0x100 % 16, value / 0x10 % 16, value % 16], ?_, ?_⟩
    · simp [groupText, four, three, show 0x10 ≤ value by omega, second, third,
        last]
    · simp only [List.foldl_cons, List.foldl_nil]
      omega
  by_cases two : 0x10 ≤ value
  · refine ⟨[value / 0x10 % 16, value % 16], ?_, ?_⟩
    · simp [groupText, four, three, two, third, last]
    · simp only [List.foldl_cons, List.foldl_nil]
      omega
  · refine ⟨[value % 16], ?_, ?_⟩
    · simp [groupText, four, three, two, last]
    · simp only [List.foldl_cons, List.foldl_nil]
      omega

theorem groupText_ne_nil (group : Fin 65536) : groupText group ≠ [] := by
  unfold groupText
  exact List.append_ne_nil_of_right_ne_nil _ (List.cons_ne_nil _ _)

theorem groupText_length_le (group : Fin 65536) :
    (groupText group).length ≤ 4 := by
  unfold groupText
  simp only [List.length_append, List.length_singleton]
  split <;> split <;> split <;> simp

theorem parseGroup_groupText (group : Fin 65536) :
    parseGroup (groupText group) = some group := by
  obtain ⟨value, bound⟩ := group
  obtain ⟨digits, parsed, same⟩ := groupText_value bound
  have fits : groupText ⟨value, bound⟩ ≠ [] ∧
      (groupText ⟨value, bound⟩).length ≤ 4 :=
    ⟨groupText_ne_nil _, groupText_length_le _⟩
  simp [parseGroup, fits, parsed, same, bound]

/-- A group's text has hexadecimal digits only. -/
theorem hexValue_of_mem_groupText {group : Fin 65536} {c : Char}
    (member : c ∈ groupText group) : ∃ digit, hexValue c = some digit := by
  obtain ⟨value, bound⟩ := group
  obtain ⟨digits, parsed, -⟩ := groupText_value bound
  exact parsed_of_mapM parsed c member

theorem not_mem_groupText {group : Fin 65536} {c : Char}
    (other : hexValue c = none) : c ∉ groupText group := by
  intro member
  obtain ⟨digit, value⟩ := hexValue_of_mem_groupText member
  rw [other] at value
  cases value

theorem not_mem_octetText {octet : Fin 256} {c : Char}
    (other : c.isDigit = false) : c ∉ octetText octet := by
  intro member
  rw [isDigit_of_mem_octetText member] at other
  cases other

/-! ## IPv4 -/

/-- A separator stands between the fields of a text, or nowhere. -/
theorem mem_intercalate {c separator : Char} {fields : List (List Char)}
    (member : c ∈ [separator].intercalate fields) :
    c = separator ∨ ∃ field ∈ fields, c ∈ field := by
  induction fields with
  | nil => simp [List.intercalate] at member
  | cons field fields ih =>
      cases fields with
      | nil =>
          have inField : c ∈ field := by simpa [List.intercalate] using member
          exact Or.inr ⟨field, by simp, inField⟩
      | cons next fields =>
          have split : c ∈ field ∨ c = separator ∨
              c ∈ [separator].intercalate (next :: fields) := by
            simpa [List.intercalate] using member
          rcases split with inField | same | later
          · exact Or.inr ⟨field, by simp, inField⟩
          · exact Or.inl same
          · rcases ih later with same | ⟨other, present, inField⟩
            · exact Or.inl same
            · exact Or.inr ⟨other, by simp [present], inField⟩

theorem mem_ipv4_text {ip : IPv4} {c : Char} (member : c ∈ ip.text) :
    c = '.' ∨ c.isDigit = true := by
  rcases mem_intercalate member with same | ⟨field, present, inField⟩
  · exact Or.inl same
  · obtain ⟨octet, -, rfl⟩ := List.mem_map.mp present
    exact Or.inr (isDigit_of_mem_octetText inField)

theorem parseIPv4_text (ip : IPv4) : parseIPv4 ip.text = some ip := by
  obtain ⟨octets, length⟩ := ip
  have fields : (IPv4.text ⟨octets, length⟩).splitOn '.' =
      octets.map octetText := by
    apply List.splitOn_intercalate
    · intro field present
      obtain ⟨octet, -, rfl⟩ := List.mem_map.mp present
      exact not_mem_octetText (by decide)
    · intro empty
      have none : octets = [] := List.map_eq_nil_iff.mp empty
      rw [none] at length
      cases length
  simp [parseIPv4, fields, mapM_map parseOctet_octetText, length]

theorem IPv4.octets_eq (ip : IPv4) :
    ∃ a b c d, ip.octets = [a, b, c, d] := by
  obtain ⟨octets, length⟩ := ip
  match octets, length with
  | [a, b, c, d], _ => exact ⟨a, b, c, d, rfl⟩

theorem IPv4.groups_length (ip : IPv4) : ip.groups.length = 2 := by
  obtain ⟨a, b, c, d, same⟩ := ip.octets_eq
  simp [IPv4.groups, same]

theorem IPv4.dot_mem_text (ip : IPv4) : '.' ∈ ip.text := by
  obtain ⟨a, b, c, d, same⟩ := ip.octets_eq
  simp [IPv4.text, same, List.intercalate]

theorem IPv4.text_ne_nil (ip : IPv4) : ip.text ≠ [] :=
  List.ne_nil_of_mem ip.dot_mem_text

/-! ## The ellipsis -/

theorem splitEllipsis_of_not_mem {field : List Char} (rest : List Char)
    (plain : ':' ∉ field) :
    splitEllipsis (field ++ rest) =
      (splitEllipsis rest).map (Prod.map (field ++ ·) id) := by
  induction field with
  | nil =>
      rw [List.nil_append]
      cases splitEllipsis rest with
      | none => rfl
      | some both => rfl
  | cons c field ih =>
      rw [List.mem_cons, not_or] at plain
      have step : splitEllipsis (c :: (field ++ rest)) =
          (splitEllipsis (field ++ rest)).map (Prod.map (c :: ·) id) := by
        rw [splitEllipsis]
        rintro rest rfl
        exact absurd rfl plain.1
      rw [List.cons_append, step, ih plain.2, Option.map_map]
      rfl

/-- A single colon before a field is passed. -/
theorem splitEllipsis_colon {field : List Char} (rest : List Char)
    (plain : ':' ∉ field) (filled : field ≠ []) :
    splitEllipsis (':' :: (field ++ rest)) =
      (splitEllipsis rest).map (Prod.map (':' :: field ++ ·) id) := by
  cases field with
  | nil => exact absurd rfl filled
  | cons c field =>
      have step : splitEllipsis (':' :: (c :: field ++ rest)) =
          (splitEllipsis (c :: field ++ rest)).map
            (Prod.map (':' :: ·) id) := by
        rw [splitEllipsis]
        intro other _ same
        cases same
        exact plain (by simp)
      rw [step, splitEllipsis_of_not_mem rest plain, Option.map_map]
      rfl

/-- The fields after the first one, each with its separator. -/
def separated (separator : Char) (fields : List (List Char)) : List Char :=
  fields.flatMap (separator :: ·)

theorem intercalate_cons (separator : Char) (field : List Char)
    (fields : List (List Char)) :
    [separator].intercalate (field :: fields) =
      field ++ separated separator fields := by
  induction fields generalizing field with
  | nil => simp [List.intercalate, separated]
  | cons next fields ih =>
      have rest := ih next
      simp only [List.intercalate, separated, List.intersperse_cons_cons,
        List.flatten_cons, List.flatMap_cons] at rest ⊢
      rw [rest]
      rfl

theorem splitEllipsis_separated {fields : List (List Char)}
    (rest : List Char)
    (plain : ∀ field ∈ fields, ':' ∉ field ∧ field ≠ []) :
    splitEllipsis (separated ':' fields ++ rest) =
      (splitEllipsis rest).map (Prod.map (separated ':' fields ++ ·) id) := by
  induction fields with
  | nil =>
      simp only [separated, List.flatMap_nil, List.nil_append]
      cases splitEllipsis rest with
      | none => rfl
      | some both => rfl
  | cons field fields ih =>
      obtain ⟨first, later⟩ := List.forall_mem_cons.mp plain
      have whole : separated ':' (field :: fields) ++ rest =
          ':' :: (field ++ (separated ':' fields ++ rest)) := by
        simp [separated]
      rw [whole, splitEllipsis_colon _ first.1 first.2, ih later,
        Option.map_map]
      congr 1
      funext both
      simp [separated, Prod.map]

/-- Fields without colons are passed up to what follows them. -/
theorem splitEllipsis_fields {fields : List (List Char)} (rest : List Char)
    (plain : ∀ field ∈ fields, ':' ∉ field ∧ field ≠ []) :
    splitEllipsis ([':'].intercalate fields ++ rest) =
      (splitEllipsis rest).map
        (Prod.map ([':'].intercalate fields ++ ·) id) := by
  cases fields with
  | nil =>
      simp only [List.intercalate, List.intersperse_nil, List.flatten_nil,
        List.nil_append]
      cases splitEllipsis rest with
      | none => rfl
      | some both => rfl
  | cons field fields =>
      obtain ⟨first, later⟩ := List.forall_mem_cons.mp plain
      rw [intercalate_cons, List.append_assoc,
        splitEllipsis_of_not_mem _ first.1,
        splitEllipsis_separated rest later, Option.map_map]
      congr 1
      funext both
      simp [Prod.map]

/-! ## IPv6 -/

theorem plain_groupText (groups : List (Fin 65536)) :
    ∀ field ∈ groups.map groupText, ':' ∉ field ∧ field ≠ [] := by
  intro field present
  obtain ⟨group, -, rfl⟩ := List.mem_map.mp present
  exact ⟨not_mem_groupText (by decide), groupText_ne_nil group⟩

theorem colonFields_intercalate {fields : List (List Char)}
    (plain : ∀ field ∈ fields, ':' ∉ field ∧ field ≠ []) :
    colonFields ([':'].intercalate fields) = fields := by
  cases fields with
  | nil => rfl
  | cons field fields =>
      have filled : [':'].intercalate (field :: fields) ≠ [] := by
        rw [intercalate_cons]
        have first := (plain field (by simp)).2
        exact List.append_ne_nil_of_left_ne_nil first _
      rw [colonFields, if_neg filled]
      exact List.splitOn_intercalate _ (fun field present =>
        (plain field present).1) (List.cons_ne_nil _ _)

theorem parseGroups_groupText (groups : List (Fin 65536)) :
    parseGroups (groups.map groupText) = some groups := by
  induction groups with
  | nil => rfl
  | cons group groups ih =>
      cases groups with
      | nil =>
          have noDot : '.' ∉ groupText group := not_mem_groupText (by decide)
          simp [parseGroups, noDot, parseGroup_groupText]
      | cons next groups =>
          simp only [List.map_cons] at ih ⊢
          rw [parseGroups, parseGroup_groupText, ih]
          · rfl
          · exact fun impossible => by cases impossible

theorem parseIPv6Groups_plain (ip : IPv6) :
    parseIPv6Groups (groupsText ip.groups) = some ip := by
  have none : splitEllipsis (groupsText ip.groups) = none := by
    have passed := splitEllipsis_fields [] (plain_groupText ip.groups)
    rw [List.append_nil] at passed
    exact passed
  have fields : colonFields (groupsText ip.groups) =
      ip.groups.map groupText :=
    colonFields_intercalate (plain_groupText ip.groups)
  simp [parseIPv6Groups, none, fields, parseGroups_groupText, ip.length]

/-- A `::` in place of a run of zeros. -/
theorem parseIPv6Groups_ellipsis {ip : IPv6} {start length : Nat}
    (run : ip.groups.drop start =
      List.replicate length 0 ++ ip.groups.drop (start + length))
    (inside : start + length ≤ 8) (long : 1 ≤ length) :
    parseIPv6Groups (groupsText (ip.groups.take start) ++ [':', ':'] ++
      groupsText (ip.groups.drop (start + length))) = some ip := by
  have split : splitEllipsis (groupsText (ip.groups.take start) ++
      [':', ':'] ++ groupsText (ip.groups.drop (start + length))) =
      some (groupsText (ip.groups.take start),
        groupsText (ip.groups.drop (start + length))) := by
    have passed := splitEllipsis_fields
      (':' :: ':' :: groupsText (ip.groups.drop (start + length)))
      (plain_groupText (ip.groups.take start))
    simpa [groupsText, splitEllipsis] using passed
  have left : colonFields (groupsText (ip.groups.take start)) =
      (ip.groups.take start).map groupText :=
    colonFields_intercalate (plain_groupText _)
  have right : colonFields (groupsText (ip.groups.drop (start + length))) =
      (ip.groups.drop (start + length)).map groupText :=
    colonFields_intercalate (plain_groupText _)
  have lengthBefore : (ip.groups.take start).length = start := by
    rw [List.length_take, ip.length]
    omega
  have lengthAfter : (ip.groups.drop (start + length)).length =
      8 - (start + length) := by
    rw [List.length_drop, ip.length]
  have whole : ip.groups.take start ++
      List.replicate (8 - (start + (8 - (start + length)))) 0 ++
        ip.groups.drop (start + length) = ip.groups := by
    have same : 8 - (start + (8 - (start + length))) = length := by omega
    rw [same, List.append_assoc, ← run, List.take_append_drop]
  have short : start + (8 - (start + length)) ≤ 7 := by omega
  unfold parseIPv6Groups
  rw [split]
  dsimp only
  rw [left, right, mapM_map parseGroup_groupText, parseGroups_groupText]
  simp only [Option.bind_eq_bind, Option.bind_some, lengthBefore, lengthAfter,
    short, dite_true, whole]

theorem leadingZeros_replicate (groups : List (Fin 65536)) :
    groups = List.replicate (leadingZeros groups) 0 ++
      groups.drop (leadingZeros groups) := by
  induction groups with
  | nil => rfl
  | cons group groups ih =>
      unfold leadingZeros
      split
      · rename_i zero
        subst zero
        rw [List.replicate_succ, List.drop_succ_cons, List.cons_append, ← ih]
      · rfl

/-- A run that was found stands for zeros. -/
def IsRun (groups : List (Fin 65536)) (run : Nat × Nat) : Prop :=
  groups.drop run.1 =
      List.replicate run.2 0 ++ groups.drop (run.1 + run.2) ∧ 2 ≤ run.2

theorem longestRun_isRun {groups rest : List (Fin 65536)} {start : Nat}
    {best : Option (Nat × Nat)} (here : groups.drop start = rest)
    (sound : ∀ run, best = some run → IsRun groups run) :
    ∀ run, longestRun rest start best = some run → IsRun groups run := by
  induction rest generalizing start best with
  | nil => exact sound
  | cons group rest ih =>
      apply ih
      · rw [← List.drop_drop, here]
        rfl
      · intro run found
        split at found
        · rename_i better
          cases found
          refine ⟨?_, better.1⟩
          rw [← List.drop_drop, here]
          exact leadingZeros_replicate (group :: rest)
        · exact sound run found

theorem groups_of_mapped {ip : IPv6} {mapped : IPv4}
    (same : ip.mapped = some mapped) :
    ip.groups = List.replicate 5 0 ++ [0xffff] ++ mapped.groups := by
  unfold IPv6.mapped at same
  split at same
  · rename_i a b c d e f high low found
    split at same
    · rename_i zeros
      obtain ⟨rfl, rfl, rfl, rfl, rfl, rfl⟩ := zeros
      cases same
      rw [found]
      simp only [IPv4.groups, List.replicate, List.cons_append, List.nil_append,
        List.cons.injEq, true_and, and_true]
      constructor
      · apply Fin.ext
        show high.val = 256 * (high.val / 256) + high.val % 256
        omega
      · apply Fin.ext
        show low.val = 256 * (low.val / 256) + low.val % 256
        omega
    · cases same
  · cases same

theorem parseIPv6Groups_mapped {ip : IPv6} {mapped : IPv4}
    (same : ip.mapped = some mapped) :
    parseIPv6Groups ("::ffff:".toList ++ mapped.text) = some ip := by
  have split : splitEllipsis ("::ffff:".toList ++ mapped.text) =
      some ([], "ffff:".toList ++ mapped.text) := rfl
  have right : colonFields ("ffff:".toList ++ mapped.text) =
      ["ffff".toList, mapped.text] := by
    have joined : "ffff:".toList ++ mapped.text =
        [':'].intercalate ["ffff".toList, mapped.text] := by
      simp [List.intercalate]
    rw [joined]
    apply colonFields_intercalate
    intro field present
    simp only [List.mem_cons, List.not_mem_nil, or_false] at present
    rcases present with rfl | rfl
    · decide
    · refine ⟨?_, mapped.text_ne_nil⟩
      intro member
      rcases mem_ipv4_text member with same | digit
      · cases same
      · cases digit
  have groups : parseGroups ["ffff".toList, mapped.text] =
      some (0xffff :: mapped.groups) := by
    have first : parseGroup "ffff".toList = some 0xffff := by decide
    have last : parseGroups [mapped.text] = some mapped.groups := by
      simp [parseGroups, mapped.dot_mem_text, parseIPv4_text]
    rw [parseGroups, first, last]
    · rfl
    · exact fun impossible => by cases impossible
  have left : (colonFields []).mapM parseGroup = some [] := rfl
  have short : ([] : List (Fin 65536)).length +
      (0xffff :: mapped.groups).length ≤ 7 := by
    simp [mapped.groups_length]
  have whole : ([] : List (Fin 65536)) ++ List.replicate
      (8 - (([] : List (Fin 65536)).length +
        (0xffff :: mapped.groups).length)) 0 ++
      (0xffff :: mapped.groups) = ip.groups := by
    rw [groups_of_mapped same]
    simp [mapped.groups_length]
  unfold parseIPv6Groups
  rw [split]
  dsimp only
  rw [left, right, groups]
  simp only [Option.bind_eq_bind, Option.bind_some, short, dite_true, whole]

theorem parseIPv6Groups_text (ip : IPv6) :
    parseIPv6Groups ip.text = some ip := by
  unfold IPv6.text
  split
  · rename_i mapped same
    exact parseIPv6Groups_mapped same
  · split
    · exact parseIPv6Groups_plain ip
    · rename_i start length found
      have none : ∀ run, (none : Option (Nat × Nat)) = some run →
          IsRun ip.groups run := fun _ impossible => by cases impossible
      have isRun := longestRun_isRun List.drop_zero none (start, length) found
      apply parseIPv6Groups_ellipsis isRun.1
      · have size := congrArg List.length isRun.1
        simp only [List.length_append, List.length_replicate, List.length_drop,
          ip.length] at size
        have long : 2 ≤ length := isRun.2
        omega
      · have long : 2 ≤ length := isRun.2
        omega

/-! ## Addresses -/

theorem mem_groupsText {groups : List (Fin 65536)} {c : Char}
    (member : c ∈ groupsText groups) :
    c = ':' ∨ ∃ digit, hexValue c = some digit := by
  rcases mem_intercalate member with same | ⟨field, present, inField⟩
  · exact Or.inl same
  · obtain ⟨group, -, rfl⟩ := List.mem_map.mp present
    exact Or.inr (hexValue_of_mem_groupText inField)

/-- The characters an IPv6 address is printed with. -/
theorem mem_ipv6_text {ip : IPv6} {c : Char} (member : c ∈ ip.text) :
    c = ':' ∨ c = '.' ∨ c.isDigit = true ∨ ∃ digit, hexValue c = some digit := by
  unfold IPv6.text at member
  split at member
  · rcases List.mem_append.mp member with inStart | inMapped
    · have which : c = ':' ∨ c = 'f' := by
        simp at inStart
        tauto
      rcases which with rfl | rfl
      · exact Or.inl rfl
      · exact Or.inr (Or.inr (Or.inr ⟨15, rfl⟩))
    · rcases mem_ipv4_text inMapped with same | digit
      · exact Or.inr (Or.inl same)
      · exact Or.inr (Or.inr (Or.inl digit))
  · have inGroups : c = ':' ∨ ∃ digit, hexValue c = some digit := by
      split at member
      · exact mem_groupsText member
      · rw [List.append_assoc, List.mem_append, List.mem_append] at member
        rcases member with before | colons | after
        · exact mem_groupsText before
        · simp at colons
          exact Or.inl colons
        · exact mem_groupsText after
    rcases inGroups with same | digit
    · exact Or.inl same
    · exact Or.inr (Or.inr (Or.inr digit))

theorem not_mem_ipv6_text {ip : IPv6} {c : Char}
    (other : c ≠ ':' ∧ c ≠ '.' ∧ c.isDigit = false ∧ hexValue c = none) :
    c ∉ ip.text := by
  intro member
  obtain ⟨notColon, notDot, notDigit, notHex⟩ := other
  rcases mem_ipv6_text member with same | same | digit | ⟨digit, value⟩
  · exact notColon same
  · exact notDot same
  · rw [notDigit] at digit
    cases digit
  · rw [notHex] at value
    cases value

theorem find_separator {text : List Char} (colon : ':' ∈ text)
    (noDot : '.' ∉ text) (noZone : '%' ∉ text) :
    text.find? (· ∈ ['.', ':', '%']) = some ':' := by
  cases found : text.find? (· ∈ ['.', ':', '%']) with
  | none =>
      have absent := List.find?_eq_none.mp found ':' colon
      simp at absent
  | some c =>
      have member := List.mem_of_find?_eq_some found
      have which := List.find?_some found
      simp only [decide_eq_true_eq, List.mem_cons, List.not_mem_nil,
        or_false] at which
      rcases which with rfl | rfl | rfl
      · exact absurd member noDot
      · rfl
      · exact absurd member noZone

theorem colon_mem_groupsText {groups : List (Fin 65536)}
    (several : 2 ≤ groups.length) : ':' ∈ groupsText groups := by
  match groups, several with
  | first :: second :: rest, _ =>
      rw [groupsText, List.map_cons, List.map_cons, intercalate_cons]
      simp [separated]

/-- The first separator of a printed IPv6 address is a colon. -/
theorem find_ipv6_text (ip : IPv6) :
    ip.text.find? (· ∈ ['.', ':', '%']) = some ':' := by
  have noZone : '%' ∉ ip.text := not_mem_ipv6_text (by decide)
  have plain (groups : List (Fin 65536)) : '.' ∉ groupsText groups := by
    intro member
    rcases mem_groupsText member with same | ⟨digit, value⟩
    · cases same
    · cases value
  unfold IPv6.text at noZone ⊢
  split
  · rfl
  · rename_i notMapped
    rw [notMapped] at noZone
    dsimp only at noZone
    split
    · rename_i noRun
      rw [noRun] at noZone
      refine find_separator ?_ (plain _) noZone
      exact colon_mem_groupsText (by rw [ip.length]; decide)
    · rename_i start length run
      rw [run] at noZone
      refine find_separator (by simp) ?_ noZone
      have before := plain (ip.groups.take start)
      have after := plain (ip.groups.drop (start + length))
      simp [before, after]

theorem find_ipv4_text (ip : IPv4) :
    ip.text.find? (· ∈ ['.', ':', '%']) = some '.' := by
  cases found : ip.text.find? (· ∈ ['.', ':', '%']) with
  | none =>
      have absent := List.find?_eq_none.mp found '.' ip.dot_mem_text
      simp at absent
  | some c =>
      have which := List.find?_some found
      rcases mem_ipv4_text (List.mem_of_find?_eq_some found) with rfl | digit
      · rfl
      · simp only [decide_eq_true_eq, List.mem_cons, List.not_mem_nil,
          or_false] at which
        rcases which with rfl | rfl | rfl
        · rfl
        · cases digit
        · cases digit

theorem span_of_not_mem {text : List Char} {c : Char} (absent : c ∉ text) :
    text.span (· ≠ c) = (text, []) := by
  have all : ∀ d ∈ text, decide (d ≠ c) = true := by
    intro d member
    rw [decide_eq_true_eq]
    rintro rfl
    exact absent member
  rw [List.span_eq_takeWhile_dropWhile, List.takeWhile_eq_self_iff.mpr all,
    List.dropWhile_eq_nil_iff.mpr all]

theorem parseAddr_v4_text (ip : IPv4) :
    parseAddr (Addr.v4 ip).text = some (.v4 ip) := by
  have found : (Addr.v4 ip).text.find? (· ∈ ['.', ':', '%']) = some '.' :=
    find_ipv4_text ip
  have parsed : parseIPv4 (Addr.v4 ip).text = some ip := parseIPv4_text ip
  simp only [parseAddr, found, parsed, Option.map_some]

theorem parseAddr_v6_text (ip : IPv6) :
    parseAddr (Addr.v6 ip []).text = some (.v6 ip []) := by
  have found : (Addr.v6 ip []).text.find? (· ∈ ['.', ':', '%']) = some ':' :=
    find_ipv6_text ip
  have zoneless : (Addr.v6 ip []).text.span (· ≠ '%') =
      ((Addr.v6 ip []).text, []) :=
    span_of_not_mem (not_mem_ipv6_text (by decide))
  have parsed : parseIPv6Groups (Addr.v6 ip []).text = some ip :=
    parseIPv6Groups_text ip
  simp only [parseAddr, found, parseIPv6, zoneless, parsed, Option.map_some]

/-! ## Prefixes -/

/-- Only the last slash separates the length. -/
theorem splitSlash_last {address length : List Char} (plain : '/' ∉ length) :
    splitSlash (address ++ '/' :: length) = some (address, length) := by
  have all : ∀ d ∈ length.reverse, decide (d ≠ '/') = true := by
    intro d member
    rw [decide_eq_true_eq]
    rintro rfl
    exact plain (List.mem_reverse.mp member)
  have split : (address ++ '/' :: length).reverse.span (· ≠ '/') =
      (length.reverse, '/' :: address.reverse) := by
    rw [List.reverse_append, List.reverse_cons, List.append_assoc,
      List.span_eq_takeWhile_dropWhile, List.takeWhile_append_of_pos all,
      List.dropWhile_append_of_pos all]
    simp
  rw [splitSlash, split]
  simp

/-- What follows a text without slashes is its length. -/
theorem parsePrefix_suffix (address length : List Char) (bits : Nat)
    (plain : '/' ∉ length) (parsed : parseBits length = some bits) :
    parsePrefix (address ++ '/' :: length) = (parseAddr address).bind fun addr =>
      if valid : addr.withoutZone = addr ∧ bits ≤ addr.bitLen then
        some ⟨addr, bits, valid.1, valid.2⟩
      else none := by
  simp only [parsePrefix, splitSlash_last plain, parsed,
    Option.bind_eq_bind, Option.bind_some]

theorem parsePrefix_host_text (addr : Addr) :
    parsePrefix (Prefix.host addr).text = some (Prefix.host addr) := by
  cases addr with
  | v4 ip =>
      have text : (Prefix.host (.v4 ip)).text =
          (Addr.v4 ip).text ++ '/' :: ['3', '2'] := by
        have digits : Nat.toDigits 10 32 = ['3', '2'] := by decide
        simp [Prefix.text, Prefix.host, Addr.withoutZone, Addr.bitLen, digits]
      rw [text, parsePrefix_suffix _ _ 32 (by decide) rfl, parseAddr_v4_text,
        Option.bind_some, dif_pos ⟨rfl, Nat.le_refl _⟩]
      rfl
  | v6 ip zone =>
      have text : (Prefix.host (.v6 ip zone)).text =
          (Addr.v6 ip []).text ++ '/' :: ['1', '2', '8'] := by
        have digits : Nat.toDigits 10 128 = ['1', '2', '8'] := by decide
        simp [Prefix.text, Prefix.host, Addr.withoutZone, Addr.bitLen, digits]
      rw [text, parsePrefix_suffix _ _ 128 (by decide) rfl, parseAddr_v6_text,
        Option.bind_some, dif_pos ⟨rfl, Nat.le_refl _⟩]
      rfl

/-! ## What parses has no slash -/

/-- A text without slashes between its separators has none. -/
theorem not_mem_of_splitOn {text : List Char} (separator : Char)
    (other : separator ≠ '/')
    (plain : ∀ field ∈ text.splitOn separator, '/' ∉ field) :
    '/' ∉ text := by
  intro member
  have whole : [separator].intercalate (text.splitOn separator) = text :=
    List.intercalate_splitOn separator
  rw [← whole] at member
  rcases mem_intercalate member with same | ⟨field, present, inField⟩
  · exact other same.symm
  · exact plain field present inField

theorem parseOctet_slashless {field : List Char} {octet : Fin 256}
    (parsed : parseOctet field = some octet) : '/' ∉ field := by
  intro member
  unfold parseOctet at parsed
  split at parsed
  · rename_i digits
    have isDigit := List.all_eq_true.mp digits.2.1 '/' member
    cases isDigit
  · cases parsed

theorem parseIPv4_slashless {text : List Char} {ip : IPv4}
    (parsed : parseIPv4 text = some ip) : '/' ∉ text := by
  obtain ⟨octets, fields, -⟩ := Option.bind_eq_some_iff.mp parsed
  apply not_mem_of_splitOn '.' (by decide)
  intro field present
  obtain ⟨octet, isOctet⟩ := parsed_of_mapM fields field present
  exact parseOctet_slashless isOctet

theorem parseGroup_slashless {field : List Char} {group : Fin 65536}
    (parsed : parseGroup field = some group) : '/' ∉ field := by
  intro member
  unfold parseGroup at parsed
  split at parsed
  · obtain ⟨digits, hexadecimal, -⟩ := Option.bind_eq_some_iff.mp parsed
    obtain ⟨digit, isDigit⟩ := parsed_of_mapM hexadecimal '/' member
    cases isDigit
  · cases parsed

theorem parseGroups_slashless {fields : List (List Char)}
    {groups : List (Fin 65536)} (parsed : parseGroups fields = some groups) :
    ∀ field ∈ fields, '/' ∉ field := by
  induction fields using parseGroups.induct generalizing groups with
  | case1 => exact List.forall_mem_nil _
  | case2 last dotted =>
      rw [parseGroups, if_pos dotted] at parsed
      obtain ⟨ip, isIPv4, -⟩ := Option.map_eq_some_iff.mp parsed
      simpa using parseIPv4_slashless isIPv4
  | case3 last plain =>
      rw [parseGroups, if_neg plain] at parsed
      obtain ⟨group, isGroup, -⟩ := Option.map_eq_some_iff.mp parsed
      simpa using parseGroup_slashless isGroup
  | case4 field fields more ih =>
      rw [parseGroups] at parsed
      · obtain ⟨group, isGroup, rest⟩ := Option.bind_eq_some_iff.mp parsed
        obtain ⟨others, areGroups, -⟩ := Option.bind_eq_some_iff.mp rest
        exact List.forall_mem_cons.mpr
          ⟨parseGroup_slashless isGroup, ih areGroups⟩
      · exact more

theorem not_mem_of_colonFields {text : List Char}
    (plain : ∀ field ∈ colonFields text, '/' ∉ field) : '/' ∉ text := by
  unfold colonFields at plain
  split at plain
  · rename_i empty
    rw [empty]
    exact List.not_mem_nil
  · exact not_mem_of_splitOn ':' (by decide) plain

theorem splitEllipsis_eq {text left right : List Char}
    (split : splitEllipsis text = some (left, right)) :
    text = left ++ ':' :: ':' :: right := by
  induction text using splitEllipsis.induct generalizing left with
  | case1 rest =>
      cases split
      rfl
  | case2 c rest single ih =>
      rw [splitEllipsis] at split
      · obtain ⟨both, later, same⟩ := Option.map_eq_some_iff.mp split
        cases same
        rw [ih later]
        rfl
      · exact single
  | case3 => cases split

theorem parseIPv6Groups_slashless {text : List Char} {ip : IPv6}
    (parsed : parseIPv6Groups text = some ip) : '/' ∉ text := by
  unfold parseIPv6Groups at parsed
  split at parsed
  · obtain ⟨groups, areGroups, -⟩ := Option.bind_eq_some_iff.mp parsed
    exact not_mem_of_colonFields (parseGroups_slashless areGroups)
  · rename_i left right split
    obtain ⟨before, areBefore, rest⟩ := Option.bind_eq_some_iff.mp parsed
    obtain ⟨after, areAfter, -⟩ := Option.bind_eq_some_iff.mp rest
    have beforePlain : '/' ∉ left := by
      apply not_mem_of_colonFields
      intro field present
      obtain ⟨group, isGroup⟩ := parsed_of_mapM areBefore field present
      exact parseGroup_slashless isGroup
    have afterPlain := not_mem_of_colonFields (parseGroups_slashless areAfter)
    rw [splitEllipsis_eq split]
    simp [beforePlain, afterPlain]

/-- An address without a zone has no slash. -/
theorem parseAddr_slashless {text : List Char} {addr : Addr}
    (parsed : parseAddr text = some addr)
    (zoneless : addr.withoutZone = addr) : '/' ∉ text := by
  unfold parseAddr at parsed
  split at parsed
  · obtain ⟨ip, isIPv4, -⟩ := Option.map_eq_some_iff.mp parsed
    exact parseIPv4_slashless isIPv4
  · unfold parseIPv6 at parsed
    split at parsed
    · rename_i address span
      obtain ⟨ip, isIPv6, -⟩ := Option.map_eq_some_iff.mp parsed
      rw [List.span_eq_takeWhile_dropWhile] at span
      obtain ⟨whole, none⟩ := Prod.mk.inj span
      have parts : text.takeWhile (· ≠ '%') ++ text.dropWhile (· ≠ '%') =
          text := List.takeWhile_append_dropWhile
      rw [whole, none, List.append_nil] at parts
      rw [← parts]
      exact parseIPv6Groups_slashless isIPv6
    · split at parsed
      · cases parsed
      · rename_i filled
        obtain ⟨ip, -, same⟩ := Option.map_eq_some_iff.mp parsed
        subst same
        cases zoneless
        exact absurd rfl filled
  · cases parsed

/-- The text is a prefix of its family that holds one address. -/
def IsHost (text : List Char) : Prop :=
  ∃ pfx, parsePrefix text = some pfx ∧ pfx.bits = pfx.addr.bitLen

theorem isHost_text (addr : Addr) : IsHost (Prefix.host addr).text :=
  ⟨_, parsePrefix_host_text addr, by cases addr <;> rfl⟩

theorem isHost_v4 {address : List Char} :
    IsHost (address ++ "/32".toList) ↔
      ∃ ip, parseAddr address = some (.v4 ip) := by
  have suffix := parsePrefix_suffix address ['3', '2'] 32 (by decide) rfl
  constructor
  · rintro ⟨pfx, parsed, whole⟩
    have same := suffix.symm.trans parsed
    obtain ⟨addr, found, rest⟩ := Option.bind_eq_some_iff.mp same
    split at rest
    · cases rest
      cases addr with
      | v4 ip => exact ⟨ip, found⟩
      | v6 ip zone => cases whole
    · cases rest
  · rintro ⟨ip, found⟩
    rw [found, Option.bind_some, dif_pos ⟨rfl, Nat.le_refl _⟩] at suffix
    exact ⟨_, suffix, rfl⟩

theorem isHost_v6 {address : List Char} :
    IsHost (address ++ "/128".toList) ↔
      ∃ ip, parseAddr address = some (.v6 ip []) := by
  have suffix := parsePrefix_suffix address ['1', '2', '8'] 128 (by decide)
    rfl
  constructor
  · rintro ⟨pfx, parsed, whole⟩
    have same := suffix.symm.trans parsed
    obtain ⟨addr, found, rest⟩ := Option.bind_eq_some_iff.mp same
    split at rest
    · rename_i valid
      cases addr with
      | v4 ip =>
          have fits : 128 ≤ 32 := valid.2
          exact absurd fits (by decide)
      | v6 ip zone =>
          have zoneless := valid.1
          simp only [Addr.withoutZone, Addr.v6.injEq, true_and] at zoneless
          subst zoneless
          exact ⟨ip, found⟩
    · cases rest
  · rintro ⟨ip, found⟩
    rw [found, Option.bind_some, dif_pos ⟨rfl, Nat.le_refl _⟩] at suffix
    exact ⟨_, suffix, rfl⟩

end Netip
