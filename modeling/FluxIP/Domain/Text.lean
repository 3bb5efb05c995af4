import Mathlib.Algebra.Ring.Nat

/-!
# Strings as the backend handles them

JavaScript's `trim` and `length`, which differ from Lean's own.
-/

namespace FluxIP

/-- The white space and line terminators `trim` removes. -/
def isTrimmed (c : Char) : Bool :=
  c.toNat ∈ [0x09, 0x0A, 0x0B, 0x0C, 0x0D, 0x20, 0xA0, 0x1680, 0x2028, 0x2029,
    0x202F, 0x205F, 0x3000, 0xFEFF] ∨
  0x2000 ≤ c.toNat ∧ c.toNat ≤ 0x200A

/-- `text.trim()` -/
@[irreducible] def trim (text : String) : String :=
  String.ofList ((((text.toList.dropWhile isTrimmed).reverse).dropWhile
    isTrimmed).reverse)

/-- `text.length`: the number of UTF-16 code units. -/
def codeUnits (text : String) : Nat :=
  (text.toList.map fun c => if c.toNat ≤ 0xFFFF then 1 else 2).sum

end FluxIP
