/-!
# Binary floating point

A number of a document that is no integer is read as a binary floating-point number of 64 bits. Such
a number is `mantissa * 2 ^ exponent` with a mantissa below `2 ^ 53`. Results of products and
quotients are rounded to the nearest one, and to the even mantissa half-way between two; what is too
large is no number.

All of it is exact arithmetic on natural numbers. The sign is kept apart.
-/

namespace VariantStore

/-- A magnitude: `mantissa * 2 ^ exponent`. -/
structure Binary64 where
  mantissa : Nat
  exponent : Int
deriving DecidableEq

namespace Binary64

/-- The least exponent. -/
def minExponent : Int := -1074

/-- The greatest exponent. -/
def maxExponent : Int := 971

/-- The mantissa of every number that is not among the smallest is at least this. -/
def leastNormal : Nat := 1 <<< 52

def zero : Binary64 := ⟨0, minExponent⟩

/-- The nearest integer of a quotient, the even one half-way between two. -/
def roundQuotient (num den : Nat) : Nat :=
  let q := num / den
  let r := num % den
  if den < 2 * r ∨ (2 * r = den ∧ q % 2 = 1) then q + 1 else q

/-- A quotient divided by a power of two, as a quotient. -/
def scaleDown (num den : Nat) (exponent : Int) : Nat × Nat :=
  (num <<< (-exponent).toNat, den <<< exponent.toNat)

/-- The exponent at which a quotient has a mantissa of 53 bits, or the least exponent. -/
def exponentOf (num den : Nat) : Int :=
  let guess := max minExponent ((Nat.log2 num : Int) - Nat.log2 den - 52)
  let (n, d) := scaleDown num den guess
  if n / d < leastNormal then max minExponent (guess - 1) else guess

/-- The number nearest to a quotient; `none` if it is too large. -/
def ofQuotient (num den : Nat) : Option Binary64 :=
  if num = 0 then some zero
  else
    let exponent := exponentOf num den
    let (n, d) := scaleDown num den exponent
    let mantissa := roundQuotient n d
    let (mantissa, exponent) :=
      if mantissa = 2 * leastNormal then (leastNormal, exponent + 1) else (mantissa, exponent)
    if maxExponent < exponent then none else some ⟨mantissa, exponent⟩

/-- The exact value, as a quotient. -/
def toQuotient (x : Binary64) : Nat × Nat :=
  (x.mantissa <<< x.exponent.toNat, 1 <<< (-x.exponent).toNat)

def ofNat (n : Nat) : Option Binary64 := ofQuotient n 1

def mul (x y : Binary64) : Option Binary64 :=
  ofQuotient (x.toQuotient.1 * y.toQuotient.1) (x.toQuotient.2 * y.toQuotient.2)

def div (x y : Binary64) : Option Binary64 :=
  ofQuotient (x.toQuotient.1 * y.toQuotient.2) (x.toQuotient.2 * y.toQuotient.1)

def isZero (x : Binary64) : Bool := x.mantissa == 0

/-! ## Decimal parts -/

/-- The largest power of ten that is a number. -/
def maxTen : Nat := 308

/-- Multiplies by a power of ten, or divides by one. The power is rounded before it is used, and a
divisor beyond the largest power is applied in parts. -/
def scaleTen (x : Binary64) (exponent : Int) : Option Binary64 :=
  if exponent.natAbs ≤ maxTen then do
    let power ← ofNat (Nat.pow 10 exponent.natAbs)
    if 0 ≤ exponent then x.mul power else x.div power
  else if x.isZero then some x
  else if 0 ≤ exponent then none
  else do
    let power ← ofNat (Nat.pow 10 maxTen)
    let smaller ← x.div power
    scaleTen smaller (exponent + maxTen)
termination_by exponent.natAbs
decreasing_by
  simp only [maxTen] at *
  omega

/-- The number that a significand and a power of ten stand for. The significand is rounded first. -/
def ofDecimal (significand : Nat) (exponent : Int) : Option Binary64 := do
  let x ← ofNat significand
  x.scaleTen exponent

end Binary64

end VariantStore
