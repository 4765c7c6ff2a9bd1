import VariantStore.Decimal.Shortest
import VariantStore.Json.Fault
import VariantStore.Text.Ascii

/-!
# Numbers

A number without fraction and exponent that fits into 64 bits is an integer; any other one is a
binary floating-point number. Its significand takes digits as long as it fits into 64 bits; digits
after that only count for the power of ten.
-/

namespace VariantStore.Json

open Text

/-- A number of a document. -/
inductive Number
  | natural (n : Nat)
  /-- An integer below zero, by its distance from zero. -/
  | negative (n : Nat)
  | real (below : Bool) (magnitude : Binary64)
deriving DecidableEq

def maxSignificand : Nat := UInt64.size - 1

/-- The largest distance from zero of a negative integer. -/
def maxNegative : Nat := UInt64.size / 2

/-- The largest exponent that is read. -/
def maxPower : Nat := UInt32.size / 2 - 1

/-- The digits at the start of a text. -/
def digitsOf (cs : List Char) : List Nat :=
  (cs.takeWhile fun c => (decimalDigit? c).isSome).filterMap decimalDigit?

/-- Takes digits into the significand until one does not fit; says how many are left. -/
def takeDigits (significand : Nat) : List Nat → Nat × Nat
  | [] => (significand, 0)
  | d :: rest =>
    if maxSignificand < significand * 10 + d then (significand, rest.length + 1)
    else takeDigits (significand * 10 + d) rest

/-- A floating-point number from its parts. -/
def readReal (below : Bool) (significand : Nat) (power : Int) (rest : List Char) : Reading Number :=
  match Binary64.ofDecimal significand power with
  | some x => .ok (.real below x, rest)
  | none => .error (faultHere .numberTooLarge rest)

/-- Takes the digits of an exponent; `none` with the number of digits left if they are too many. -/
def takePower (power : Nat) : List Nat → Except Nat Nat
  | [] => .ok power
  | d :: rest =>
    if maxPower < power * 10 + d then .error rest.length else takePower (power * 10 + d) rest

/-- An exponent, after its letter. -/
def readExponent (below : Bool) (significand : Nat) (power : Int) (cs : List Char) :
    Reading Number :=
  let (down, cs) :=
    match cs with
    | '+' :: rest => (false, rest)
    | '-' :: rest => (true, rest)
    | _ => (false, cs)
  let digits := digitsOf cs
  let rest := cs.drop digits.length
  if digits.isEmpty then
    .error (faultAtNext (if cs.isEmpty then .endInValue else .badNumber) cs)
  else
    match takePower 0 digits with
    | .ok exponent =>
      readReal below significand (if down then power - exponent else power + exponent) rest
    | .error left =>
      if significand ≠ 0 ∧ !down then .error ⟨.numberTooLarge, byteSize rest + left⟩
      else .ok (.real below .zero, rest)

/-- A fraction, after its point. -/
def readFraction (below : Bool) (significand : Nat) (power : Int) (cs : List Char) :
    Reading Number :=
  let digits := digitsOf cs
  let rest := cs.drop digits.length
  if digits.isEmpty then
    .error (faultAtNext (if cs.isEmpty then .endInValue else .badNumber) cs)
  else
    let (significand, left) := takeDigits significand digits
    let power := power - ((digits.length - left : Nat) : Int)
    match rest with
    | 'e' :: rest | 'E' :: rest => readExponent below significand power rest
    | _ => readReal below significand power rest

/-- An integer, unless it does not fit. -/
def integer (below : Bool) (n : Nat) (rest : List Char) : Reading Number :=
  if !below then .ok (.natural n, rest)
  else if n = 0 ∨ maxNegative < n then readReal true n 0 rest
  else .ok (.negative n, rest)

/-- A number, after its sign. -/
def readNumber (below : Bool) (cs : List Char) : Reading Number :=
  let digits := digitsOf cs
  let rest := cs.drop digits.length
  match digits with
  | [] => .error (faultAtNext (if cs.isEmpty then .endInValue else .badNumber) cs)
  | 0 :: _ :: _ => .error (faultAtNext .badNumber (cs.drop 1))
  | _ =>
    let (significand, left) := takeDigits 0 digits
    match rest with
    | '.' :: rest => readFraction below significand left rest
    | 'e' :: rest | 'E' :: rest => readExponent below significand left rest
    | _ => if left = 0 then integer below significand rest else readReal below significand left rest

end VariantStore.Json
