import Mathlib.Data.List.Lex
import Mathlib.Data.List.Sort

/-!
# Texts as UTF-16 code units

A text is stored as its code units: one for a character of the basic plane, a
high and a low surrogate for every other one.  The encoding is injective, so
texts can be compared by their units.
-/

namespace Utf16

/-- The code units of a character. -/
def encodeChar (char : Char) : List Nat :=
  if char.toNat < 0x10000 then [char.toNat]
  else
    [0xD800 + (char.toNat - 0x10000) / 0x400,
      0xDC00 + (char.toNat - 0x10000) % 0x400]

def encode (text : List Char) : List Nat :=
  text.flatMap encodeChar

/-- The units of a text, as its order sees them. -/
def units (text : String) : List Nat :=
  encode text.toList

@[simp] theorem encode_nil : encode [] = [] := rfl

@[simp] theorem encode_cons (char : Char) (text : List Char) :
    encode (char :: text) = encodeChar char ++ encode text := rfl

/-- No character is a surrogate. -/
theorem toNat_lt_or (char : Char) :
    char.toNat < 0xD800 ∨ 0xDFFF < char.toNat ∧ char.toNat < 0x110000 :=
  char.valid

theorem encodeChar_ne_nil (char : Char) : encodeChar char ≠ [] := by
  unfold encodeChar
  split
  · exact List.cons_ne_nil _ _
  · exact List.cons_ne_nil _ _

/-- The first character can be read off the units. -/
theorem encodeChar_append_inj {first second : Char} {left right : List Nat}
    (same : encodeChar first ++ left = encodeChar second ++ right) :
    first = second ∧ left = right := by
  have low := toNat_lt_or first
  have high := toNat_lt_or second
  suffices both : first.toNat = second.toNat ∧ left = right from
    ⟨Char.toNat_inj.mp both.1, both.2⟩
  unfold encodeChar at same
  split at same
  · split at same
    · simpa using same
    · simp only [List.cons_append, List.nil_append, List.cons.injEq] at same
      omega
  · split at same
    · simp only [List.cons_append, List.nil_append, List.cons.injEq] at same
      omega
    · simp only [List.cons_append, List.nil_append, List.cons.injEq] at same
      obtain ⟨quotient, remainder, rest⟩ := same
      refine ⟨?_, rest⟩
      omega

theorem encode_injective : Function.Injective encode := by
  intro left right same
  induction left generalizing right with
  | nil =>
      cases right with
      | nil => rfl
      | cons char rest =>
          have empty := (List.append_eq_nil_iff.mp same.symm).1
          exact absurd empty (encodeChar_ne_nil char)
  | cons char left ih =>
      cases right with
      | nil =>
          have empty := (List.append_eq_nil_iff.mp same).1
          exact absurd empty (encodeChar_ne_nil char)
      | cons other right =>
          obtain ⟨first, rest⟩ := encodeChar_append_inj same
          rw [first, ih rest]

theorem units_injective : Function.Injective units := by
  intro left right same
  exact String.toList_injective (encode_injective same)

/-- The order of texts by their units. -/
def UnitsLE (first second : String) : Prop :=
  units first ≤ units second

instance : DecidableRel UnitsLE :=
  fun first second => inferInstanceAs (Decidable (units first ≤ units second))

instance : IsTrans String UnitsLE where
  trans _ _ _ earlier later := le_trans earlier later

instance : Std.Total UnitsLE where
  total first second := le_total (units first) (units second)

instance : Std.Antisymm UnitsLE where
  antisymm _ _ forwards backwards :=
    units_injective (le_antisymm forwards backwards)

/-- `Array.prototype.sort` without a comparison. -/
def sort (texts : List String) : List String :=
  texts.insertionSort UnitsLE

theorem sort_perm (texts : List String) : (sort texts).Perm texts :=
  List.perm_insertionSort UnitsLE texts

theorem sort_pairwise (texts : List String) : (sort texts).Pairwise UnitsLE :=
  List.pairwise_insertionSort UnitsLE texts

/-- The sorted list does not depend on the order of its input. -/
theorem sort_congr {left right : List String} (same : left.Perm right) :
    sort left = sort right :=
  ((sort_perm left).trans (same.trans (sort_perm right).symm)).eq_of_pairwise'
    (sort_pairwise left) (sort_pairwise right)

end Utf16
