import VariantStore.Decimal.Binary64

/-!
# The shortest decimal text of a number

Of all decimals that are nearer to a number than to its neighbours, the shortest one is written, and
of several the one nearest to the number. For each count of digits only the two points of the
decimal grid around the number can qualify, so they are tried for one digit, two digits, and so on;
seventeen always suffice.
-/

namespace VariantStore

namespace Binary64

/-- Decimal digits and the power of ten of the first one. -/
structure Digits where
  digits : List Char
  exponent : Int
deriving DecidableEq

/-- The bounds of what rounds to the number, and the number, all in quarters of its last place. -/
def quarters (x : Binary64) : Nat × Nat × Nat :=
  let atPower := x.mantissa = leastNormal ∧ minExponent < x.exponent
  (4 * x.mantissa - (if atPower then 1 else 2), 4 * x.mantissa, 4 * x.mantissa + 2)

/-- The power of ten of the first digit of a quotient. -/
def leadingPower (num den : Nat) : Int :=
  if den ≤ num then ((Nat.toDigits 10 (num / den)).length : Int) - 1
  else
    let places := (List.range 400).find? fun k => den ≤ num * Nat.pow 10 k
    Int.negOfNat (places.getD 0)

/-- Takes the zeros off the end. -/
def stripZeros (digits : List Char) : List Char := (digits.reverse.dropWhile (· == '0')).reverse

/-- The point of the grid with the given count of digits that is in bounds and nearest. -/
def gridPoint? (x : Binary64) (power : Int) (count : Nat) : Option Nat :=
  let (low, middle, high) := x.quarters
  -- A quarter of the last place, and a unit of the grid, over a common denominator.
  let place := x.exponent - 2
  let unit := power - (count : Int) + 1
  let quarter := Nat.pow 10 (-unit).toNat <<< place.toNat
  let grid := Nat.pow 10 unit.toNat <<< (-place).toNat
  let inBounds (n : Nat) : Bool :=
    if x.mantissa % 2 = 0 then low * quarter ≤ n * grid && n * grid ≤ high * quarter
    else low * quarter < n * grid && n * grid < high * quarter
  let below := middle * quarter / grid
  let above := below + 1
  let toBelow := middle * quarter - below * grid
  let toAbove := above * grid - middle * quarter
  match inBounds below, inBounds above with
  | true, true =>
    if toBelow < toAbove ∨ (toBelow = toAbove ∧ below % 2 = 0) then some below else some above
  | true, false => some below
  | false, true => some above
  | false, false => none

/-- The shortest digits of a number that is not zero. -/
def shortest (x : Binary64) : Digits :=
  let (num, den) := x.toQuotient
  let power := leadingPower num den
  let found := (List.range 17).findSome? fun k =>
    (x.gridPoint? power (k + 1)).map fun n => (n, k + 1)
  let (n, count) := found.getD (0, 1)
  let digits := Nat.toDigits 10 n
  ⟨stripZeros digits, power + digits.length - count⟩

/-! ## Layout

Positional from `10 ^ (-5)` to below `10 ^ 16`, with a fraction always; otherwise with an exponent
that has a sign always. -/

/-- An exponent: `e`, its sign and its digits. -/
def exponentText (exponent : Int) : List Char :=
  'e' :: (if exponent < 0 then '-' else '+') :: Nat.toDigits 10 exponent.natAbs

def Digits.layout (d : Digits) : List Char :=
  if -5 ≤ d.exponent ∧ d.exponent < 0 then
    '0' :: '.' :: List.replicate (-d.exponent - 1).toNat '0' ++ d.digits
  else if 0 ≤ d.exponent ∧ d.exponent ≤ 15 then
    let whole := d.exponent.toNat + 1
    if d.digits.length ≤ whole then
      d.digits ++ List.replicate (whole - d.digits.length) '0' ++ ['.', '0']
    else d.digits.take whole ++ '.' :: d.digits.drop whole
  else
    match d.digits with
    | [first] => first :: exponentText d.exponent
    | first :: rest => first :: '.' :: rest ++ exponentText d.exponent
    | [] => []

/-- The text of a magnitude. -/
def text (x : Binary64) : String :=
  if x.isZero then "0.0" else String.ofList x.shortest.layout

end Binary64

end VariantStore
