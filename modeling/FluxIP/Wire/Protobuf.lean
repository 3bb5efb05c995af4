import Mathlib.Algebra.Order.BigOperators.Group.List
import Mathlib.Algebra.Order.Group.Nat
import Mathlib.Algebra.Ring.Nat
import Mathlib.Data.List.Basic

/-!
# The protobuf encoding

A field is its tag and its value; a text or a message is preceded by its length,
in as few groups of seven bits as it takes.  Field numbers are below 16, so a tag
is one byte.
-/

namespace Protobuf

/-- Base 128, least significant group first. -/
def varint (value : Nat) : List UInt8 :=
  if value < 128 then [UInt8.ofNat value]
  else UInt8.ofNat (value % 128 + 128) :: varint (value / 128)

/-- A field with wire type 0. -/
def varintField (field value : Nat) : List UInt8 :=
  UInt8.ofNat (8 * field) :: varint value

/-- A field with wire type 2: bytes, a text or a message. -/
def lengthField (field : Nat) (payload : List UInt8) : List UInt8 :=
  UInt8.ofNat (8 * field + 2) :: (varint payload.length ++ payload)

def textBytes (text : String) : List UInt8 :=
  text.toList.flatMap String.utf8EncodeChar

/-- Seven bits to the byte. -/
theorem length_varint_le {value bytes : Nat} (small : value < 128 ^ (bytes + 1)) :
    (varint value).length ≤ bytes + 1 := by
  induction bytes generalizing value with
  | zero =>
      rw [varint, if_pos (by omega)]
      exact Nat.le_refl _
  | succ bytes ih =>
      rw [varint]
      split
      · exact Nat.le_add_left _ _
      · rw [List.length_cons]
        apply Nat.succ_le_succ
        apply ih
        rw [Nat.div_lt_iff_lt_mul (by decide), ← Nat.pow_succ]
        exact small

theorem length_lengthField (field : Nat) (payload : List UInt8) :
    (lengthField field payload).length =
      1 + (varint payload.length).length + payload.length := by
  unfold lengthField
  rw [List.length_cons, List.length_append]
  omega

/-- The frame of a payload of at most 32 GiB takes six bytes. -/
theorem length_lengthField_le {field : Nat} {payload : List UInt8}
    (small : payload.length < 128 ^ 5) :
    (lengthField field payload).length ≤ payload.length + 6 := by
  have prefixed := length_varint_le small
  rw [length_lengthField]
  omega

theorem length_varintField (field value : Nat) :
    (varintField field value).length = 1 + (varint value).length := by
  unfold varintField
  rw [List.length_cons]
  omega

/-- The bytes of fields that are each at most as long as something else. -/
theorem length_flatMap_le {α : Type} {items : List α} {encode : α → List UInt8}
    {bound : α → Nat} (fits : ∀ item ∈ items, (encode item).length ≤ bound item) :
    (items.flatMap encode).length ≤ (items.map bound).sum := by
  rw [List.length_flatMap]
  exact List.sum_le_sum fits

end Protobuf
