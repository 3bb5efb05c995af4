import FluxIP.Text.Utf16

/-!
# Slices of texts

A slice keeps the first code units of a text.  It is a text again unless it cuts
a pair of surrogates in two.
-/

namespace Utf16

def isHigh (unit : Nat) : Bool :=
  decide (0xD800 ≤ unit ∧ unit ≤ 0xDBFF)

def isLow (unit : Nat) : Bool :=
  decide (0xDC00 ≤ unit ∧ unit ≤ 0xDFFF)

/-- Every surrogate is one of a pair. -/
def isWellFormed : List Nat → Bool
  | [] => true
  | [unit] => !isHigh unit && !isLow unit
  | unit :: next :: rest =>
      if isHigh unit then isLow next && isWellFormed rest
      else !isLow unit && isWellFormed (next :: rest)

/-- The cut after `count` units falls between the two surrogates of a pair. -/
def cutsPair (text : List Nat) (count : Nat) : Bool :=
  match text[count - 1]?, text[count]? with
  | some high, some low => decide (count ≠ 0) && isHigh high && isLow low
  | _, _ => false

theorem isWellFormed_cons {unit : Nat} (units : List Nat)
    (notHigh : isHigh unit = false) (notLow : isLow unit = false) :
    isWellFormed (unit :: units) = isWellFormed units := by
  cases units with
  | nil => simp [isWellFormed, notHigh, notLow]
  | cons next rest => simp [isWellFormed, notHigh, notLow]

theorem isWellFormed_pair {high low : Nat} (units : List Nat)
    (isHigh : isHigh high = true) (isLow : isLow low = true) :
    isWellFormed (high :: low :: units) = isWellFormed units := by
  simp [isWellFormed, isHigh, isLow]

/-- A character is one unit that is no surrogate, or a pair of surrogates. -/
theorem encodeChar_cases (char : Char) :
    (∃ unit, encodeChar char = [unit] ∧ isHigh unit = false ∧
      isLow unit = false) ∨
    ∃ high low, encodeChar char = [high, low] ∧ isHigh high = true ∧
      isLow low = true := by
  have valid := toNat_lt_or char
  unfold encodeChar
  split
  · refine .inl ⟨_, rfl, ?_, ?_⟩
    · exact decide_eq_false (by omega)
    · exact decide_eq_false (by omega)
  · refine .inr ⟨_, _, rfl, ?_, ?_⟩
    · exact decide_eq_true (by omega)
    · exact decide_eq_true (by omega)

/-- What encodes characters is well formed. -/
theorem isWellFormed_encode (text : List Char) :
    isWellFormed (encode text) = true := by
  induction text with
  | nil => rfl
  | cons char text ih =>
      rw [encode_cons]
      rcases encodeChar_cases char with
        ⟨unit, same, notHigh, notLow⟩ | ⟨high, low, same, isHigh, isLow⟩
      · rw [same, List.singleton_append, isWellFormed_cons _ notHigh notLow, ih]
      · rw [same, List.cons_append, List.singleton_append,
          isWellFormed_pair _ isHigh isLow, ih]

@[simp] theorem cutsPair_zero (text : List Nat) : cutsPair text 0 = false := by
  unfold cutsPair
  split <;> simp

theorem cutsPair_cons (unit : Nat) (text : List Nat) {count : Nat}
    (positive : count ≠ 0) :
    cutsPair (unit :: text) (count + 1) = cutsPair text count := by
  obtain ⟨before, rfl⟩ := Nat.exists_eq_succ_of_ne_zero positive
  simp [cutsPair]

theorem cutsPair_one {unit : Nat} (text : List Nat)
    (notHigh : isHigh unit = false) : cutsPair (unit :: text) 1 = false := by
  unfold cutsPair
  split
  · rename_i high low first second
    cases first
    rw [notHigh, Bool.and_false, Bool.false_and]
  · rfl

theorem isHigh_of_isLow {unit : Nat} (low : isLow unit = true) :
    isHigh unit = false := by
  have bounds := of_decide_eq_true low
  exact decide_eq_false (by omega)

/-- A slice is well formed unless it cuts a pair. -/
theorem isWellFormed_take (text : List Char) (count : Nat) :
    isWellFormed ((encode text).take count) = !cutsPair (encode text) count := by
  induction text generalizing count with
  | nil =>
      rw [encode_nil, List.take_nil]
      rfl
  | cons char text ih =>
      rw [encode_cons]
      rcases encodeChar_cases char with
        ⟨unit, same, notHigh, notLow⟩ | ⟨high, low, same, isHigh, isLow⟩
      · rw [same, List.singleton_append]
        match count with
        | 0 => rw [cutsPair_zero]; rfl
        | 1 =>
            rw [cutsPair_one _ notHigh]
            exact isWellFormed_cons [] notHigh notLow
        | count + 2 =>
            rw [List.take_succ_cons, isWellFormed_cons _ notHigh notLow, ih,
              cutsPair_cons _ _ (Nat.succ_ne_zero _)]
      · rw [same, List.cons_append, List.singleton_append]
        match count with
        | 0 => rw [cutsPair_zero]; rfl
        | 1 => simp [isWellFormed, cutsPair, isHigh, isLow]
        | 2 =>
            rw [cutsPair_cons _ _ Nat.one_ne_zero,
              cutsPair_one _ (isHigh_of_isLow isLow)]
            exact isWellFormed_pair [] isHigh isLow
        | count + 3 =>
            rw [List.take_succ_cons, List.take_succ_cons,
              isWellFormed_pair _ isHigh isLow, ih,
              cutsPair_cons _ _ (Nat.succ_ne_zero _),
              cutsPair_cons _ _ (Nat.succ_ne_zero _)]

/-- A pair after some units is cut by a slice of one unit more. -/
theorem cutsPair_append (units : List Nat) (high low : Nat) :
    cutsPair (units ++ [high, low]) (units.length + 1) =
      (isHigh high && isLow low) := by
  simp [cutsPair]

theorem encode_append (first second : List Char) :
    encode (first ++ second) = encode first ++ encode second :=
  List.flatMap_append

theorem encode_replicate {char : Char} {unit : Nat} (count : Nat)
    (single : encodeChar char = [unit]) :
    encode (List.replicate count char) = List.replicate count unit := by
  induction count with
  | zero => rfl
  | succ count ih =>
      rw [List.replicate_succ, List.replicate_succ, encode_cons, ih, single]
      rfl

end Utf16
