import FluxIP.Text.Utf16
import FluxIP.Wire.Protobuf

/-!
# JSON texts

What `JSON.stringify` writes for texts, lists and objects, and how many bytes it
takes in UTF-8.
-/

namespace Json

/-- A hexadecimal digit in lower case. -/
def hexDigit (value : Nat) : Char :=
  if value < 10 then Char.ofNat (48 + value) else Char.ofNat (87 + value)

/-- What stands for a character between the quotes. -/
def escape (char : Char) : List Char :=
  match char with
  | '"' => ['\\', '"']
  | '\\' => ['\\', '\\']
  | '\n' => ['\\', 'n']
  | '\r' => ['\\', 'r']
  | '\t' => ['\\', 't']
  | char =>
      if char.toNat = 8 then ['\\', 'b']
      else if char.toNat = 12 then ['\\', 'f']
      else if char.toNat < 0x20 then
        ['\\', 'u', '0', '0', hexDigit (char.toNat / 16),
          hexDigit (char.toNat % 16)]
      else [char]

def quote (text : String) : List Char :=
  '"' :: (text.toList.flatMap escape ++ ['"'])

/-- The items between brackets, with commas between them. -/
def array (items : List (List Char)) : List Char :=
  '[' :: ((items.intersperse [',']).flatten ++ [']'])

/-- The fields between braces, with commas between them. -/
def object (fields : List (String × List Char)) : List Char :=
  let written := fields.map fun field => quote field.1 ++ ':' :: field.2
  '{' :: ((written.intersperse [',']).flatten ++ ['}'])

/-- `Buffer.byteLength(text, "utf8")` -/
def byteLength (text : List Char) : Nat :=
  (text.map Char.utf8Size).sum

@[simp] theorem byteLength_nil : byteLength [] = 0 := rfl

@[simp] theorem byteLength_cons (char : Char) (text : List Char) :
    byteLength (char :: text) = char.utf8Size + byteLength text := by
  simp [byteLength]

@[simp] theorem byteLength_append (first second : List Char) :
    byteLength (first ++ second) = byteLength first + byteLength second := by
  simp [byteLength]

theorem byteLength_flatten (texts : List (List Char)) :
    byteLength texts.flatten = (texts.map byteLength).sum := by
  induction texts with
  | nil => rfl
  | cons text texts ih => simp [ih]

theorem length_textBytes (text : String) :
    (Protobuf.textBytes text).length = byteLength text.toList := by
  unfold Protobuf.textBytes byteLength
  rw [List.length_flatMap]
  simp

theorem utf8Size_ascii {char : Char} (ascii : char.toNat < 0x80) :
    char.utf8Size = 1 := by
  have small : char.val ≤ 0x7F := by
    rw [UInt32.le_iff_toNat_le]
    exact Nat.le_of_lt_succ ascii
  unfold Char.utf8Size
  exact if_pos small

/-- An escape is not shorter than its character. -/
theorem utf8Size_le_escape (char : Char) :
    char.utf8Size ≤ byteLength (escape char) := by
  by_cases ascii : char.toNat < 0x80
  · rw [utf8Size_ascii ascii]
    have present : escape char ≠ [] := by
      unfold escape
      repeat' split
      all_goals exact List.cons_ne_nil _ _
    obtain ⟨first, rest, same⟩ := List.exists_cons_of_ne_nil present
    have positive := first.utf8Size_pos
    rw [same, byteLength_cons]
    omega
  · have same : escape char = [char] := by
      unfold escape
      split
      all_goals first
        | exact absurd (by decide) ascii
        | skip
      rw [if_neg (by omega), if_neg (by omega), if_neg (by omega)]
    rw [same, byteLength_cons]
    exact Nat.le_add_right _ _

/-- A quoted text has two bytes more than the text, at least. -/
theorem byteLength_quote (text : String) :
    byteLength text.toList + 2 ≤ byteLength (quote text) := by
  have escaped : byteLength text.toList ≤
      byteLength (text.toList.flatMap escape) := by
    induction text.toList with
    | nil => exact Nat.le_refl _
    | cons char rest ih =>
        have first := utf8Size_le_escape char
        rw [List.flatMap_cons, byteLength_append, byteLength_cons]
        omega
  have quotes : '"'.utf8Size = 1 := by decide
  unfold quote
  simp only [byteLength_cons, byteLength_append, byteLength_nil, quotes]
  omega

theorem utf8Size_le_encodeChar (char : Char) :
    char.utf8Size ≤ 3 * (Utf16.encodeChar char).length := by
  unfold Utf16.encodeChar
  split
  · rename_i small
    have bound : char.val ≤ 0xFFFF := by
      rw [UInt32.le_iff_toNat_le]
      exact Nat.le_of_lt_succ small
    change (if char.val ≤ 0x7F then 1 else if char.val ≤ 0x7FF then 2
      else if char.val ≤ 0xFFFF then 3 else 4) ≤ 3
    split
    · decide
    split
    · decide
    exact Nat.le_refl 3
  · exact Nat.le_trans char.utf8Size_le_four (Nat.le_add_right 4 2)

/-- A text takes at most three bytes for each of its UTF-16 units. -/
theorem byteLength_le_units (text : List Char) :
    byteLength text ≤ 3 * (Utf16.encode text).length := by
  induction text with
  | nil => exact Nat.le_refl _
  | cons char text ih =>
      have first := utf8Size_le_encodeChar char
      rw [byteLength_cons, Utf16.encode_cons, List.length_append]
      omega

end Json
