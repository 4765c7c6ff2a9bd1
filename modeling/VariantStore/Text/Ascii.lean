/-!
# ASCII letters

Header names and URI schemes ignore the case of the ASCII letters and of no others.
Two texts are the same name when their lower-case forms are equal, so `sameName` is an
equivalence by construction.
-/

namespace VariantStore.Text

/-- Lower-cases the ASCII letters and keeps every other character. -/
def lower (s : String) : String := s.map Char.toLower

/-- Equality up to the case of ASCII letters. -/
def sameName (a b : String) : Bool := lower a == lower b

theorem sameName_iff {a b : String} : sameName a b = true ↔ lower a = lower b := by
  simp [sameName]

@[simp] theorem sameName_refl (a : String) : sameName a a = true := by simp [sameName]

theorem sameName_comm (a b : String) : sameName a b = sameName b a := by
  simp [sameName, Bool.beq_comm]

theorem toList_lower (s : String) : (lower s).toList = s.toList.map Char.toLower :=
  String.toList_map

/-- Names are compared character by character. -/
theorem sameName_eq_decide (a b : String) :
    sameName a b = decide (a.toList.map Char.toLower = b.toList.map Char.toLower) := by
  rw [Bool.eq_iff_iff, decide_eq_true_iff, sameName_iff, ← String.toList_inj, toList_lower,
    toList_lower]

/-! ## Digits -/

/-- The value of a decimal digit. -/
def decimalDigit? (c : Char) : Option Nat :=
  if '0' ≤ c ∧ c ≤ '9' then some (c.toNat - '0'.toNat) else none

/-- The value of a hexadecimal digit in either case. -/
def hexDigit? (c : Char) : Option Nat :=
  if '0' ≤ c ∧ c ≤ '9' then some (c.toNat - '0'.toNat)
  else if 'a' ≤ c ∧ c ≤ 'f' then some (c.toNat - 'a'.toNat + 10)
  else if 'A' ≤ c ∧ c ≤ 'F' then some (c.toNat - 'A'.toNat + 10)
  else none

/-- The hexadecimal digit of a value below sixteen, in upper case. -/
def upperHexDigit (n : Nat) : Char :=
  if n < 10 then Char.ofNat ('0'.toNat + n) else Char.ofNat ('A'.toNat + n - 10)

/-- Reads digits of the given base; `none` unless every character is a digit below the base. -/
def numeral? (base : Nat) (cs : List Char) : Option Nat :=
  cs.foldlM (fun n c => do
    let d ← hexDigit? c
    if d < base then some (n * base + d) else none) 0

end VariantStore.Text
