import VariantStore.Text.Ascii

/-!
# Punycode

A label beyond ASCII goes over the wire as its ASCII characters, a hyphen, and digits in base 36
that say where the others are to be inserted. The others come in ascending order; each number counts
the insertions skipped since the one before, so text in one script stays short. The weight of a
digit depends on a bias that follows the numbers seen so far.

Every loop has a measure of its own.

* `adaptSteps`: the number is divided by 35.
* `digitsOf`: the number shrinks, because the threshold of a digit is at least one.
* `encodeRounds`: one distinct code point fewer is left.
* `readNumber`, `decodeRounds`: the input is shorter.
-/

namespace VariantStore.Uri.Punycode

/-! ## Digits and bias -/

def base : Nat := 36

/-- The digits are `a` to `z`, then `0` to `9`. -/
def digitChar (d : Nat) : Char :=
  if d < 26 then Char.ofNat ('a'.toNat + d) else Char.ofNat ('0'.toNat + d - 26)

/-- The value of a digit in either case. -/
def digitValue? (c : Char) : Option Nat :=
  if 'a' ≤ c ∧ c ≤ 'z' then some (c.toNat - 'a'.toNat)
  else if 'A' ≤ c ∧ c ≤ 'Z' then some (c.toNat - 'A'.toNat)
  else if '0' ≤ c ∧ c ≤ '9' then some (c.toNat - '0'.toNat + 26)
  else none

/-- The digits below the threshold end a number. `k` is 36 times the place of the digit, from one.
-/
def threshold (bias k : Nat) : Nat := min 26 (max 1 (k - bias))

theorem one_le_threshold (bias k : Nat) : 1 ≤ threshold bias k := by
  unfold threshold
  omega

/-- Divides by 35 until the number is small, and counts 36 for each division. -/
def adaptSteps (delta k : Nat) : Nat × Nat :=
  if 455 < delta then adaptSteps (delta / 35) (k + base) else (delta, k)
termination_by delta
decreasing_by exact Nat.div_lt_self (by omega) (by omega)

/-- The bias after a number, for a text that then has `points` characters. -/
def adapt (delta points : Nat) (first : Bool) : Nat :=
  let damped := if first then delta / 700 else delta / 2
  let (small, k) := adaptSteps (damped + damped / points) 0
  k + base * small / (small + 38)

/-! ## Encoding -/

/-- A number as digits, from the place `k` on. -/
def digitsOf (bias k n : Nat) : List Char :=
  let t := threshold bias k
  if n < t then [digitChar n]
  else digitChar (t + (n - t) % (base - t)) :: digitsOf bias (k + base) ((n - t) / (base - t))
termination_by n
decreasing_by
  have := one_le_threshold bias k
  exact Nat.lt_of_le_of_lt (Nat.div_le_self _ _) (by omega)

/-- The encoder between two characters: digits so far, insertions skipped, bias, characters known.
-/
structure Encoder where
  digits : List Char := []
  delta : Nat := 0
  bias : Nat := 72
  known : Nat

/-- Passes one character of the text while the code point `m` is being inserted. -/
def Encoder.pass (basics m : Nat) (e : Encoder) (c : Char) : Encoder :=
  if c.toNat < m then { e with delta := e.delta + 1 }
  else if c.toNat = m then
    { digits := e.digits ++ digitsOf e.bias base e.delta
      delta := 0
      bias := adapt e.delta (e.known + 1) (e.known == basics)
      known := e.known + 1 }
  else e

/-- Inserts the given code points one after the other; `next` is the least one still possible. -/
def encodeRounds (text : List Char) (basics : Nat) : List Nat → Nat → Encoder → Encoder
  | [], _, e => e
  | m :: rest, next, e =>
    let e := { e with delta := e.delta + (m - next) * (e.known + 1) }
    let e := text.foldl (Encoder.pass basics m) e
    encodeRounds text basics rest (m + 1) { e with delta := e.delta + 1 }

/-- The code points beyond ASCII, each once, in ascending order. -/
def distinctBeyond (text : List Char) : List Nat :=
  (((text.map Char.toNat).filter fun n => 0x80 ≤ n).mergeSort fun a b => a ≤ b).eraseDups

/-- Encodes a label. -/
def encode (text : List Char) : List Char :=
  let basics := text.filter fun c => c.toNat < 0x80
  let e := encodeRounds text basics.length (distinctBeyond text) 0x80 { known := basics.length }
  if basics.isEmpty then e.digits else basics ++ '-' :: e.digits

/-! ## Decoding -/

/-- Reads one number: its value and what follows. -/
def readNumber (bias k weight value : Nat) : List Char → Option (Nat × List Char)
  | [] => none
  | c :: rest =>
    match digitValue? c with
    | none => none
    | some d =>
      let value := value + d * weight
      let t := threshold bias k
      if d < t then some (value, rest)
      else readNumber bias (k + base) (weight * (base - t)) value rest

theorem length_readNumber {bias k weight value n : Nat} {cs rest : List Char}
    (h : readNumber bias k weight value cs = some (n, rest)) : rest.length < cs.length := by
  induction cs generalizing k weight value with
  | nil => simp [readNumber] at h
  | cons c cs ih =>
    unfold readNumber at h
    split at h
    · simp at h
    · dsimp only at h
      split at h
      · simp_all
      · have := ih h
        simp only [List.length_cons]
        omega

/-- A code point that a character has; surrogates have none. -/
def charOf? (n : Nat) : Option Char :=
  if h : n.isValidChar then some (Char.ofNatAux n h) else none

/-- Reads numbers and inserts a character for each. `position` is where the last one went, plus one.
-/
def decodeRounds (bias point position : Nat) (first : Bool) (text : List Char) :
    List Char → Option (List Char)
  | [] => some text
  | c :: cs =>
    match h : readNumber bias base 1 0 (c :: cs) with
    | none => none
    | some (delta, rest) =>
      have : rest.length ≤ cs.length := Nat.le_of_lt_succ (length_readNumber h)
      let size := text.length + 1
      let place := position + delta
      let point := point + place / size
      match charOf? point with
      | none => none
      | some d =>
        let index := place % size
        decodeRounds (adapt delta size first) point (index + 1) false (text.insertIdx index d) rest
termination_by cs => cs.length

/-- Splits at the last hyphen; one at the very start separates nothing. -/
def splitBasics (text : List Char) : List Char × List Char :=
  let digits := (text.reverse.takeWhile fun c => c != '-').reverse
  let basics := text.take (text.length - digits.length - 1)
  if basics.isEmpty then ([], text) else (basics, digits)

/-- Decodes a label; `none` if it is not well formed. -/
def decode (text : List Char) : Option (List Char) :=
  let (basics, digits) := splitBasics text
  if basics.all fun c => c.toNat < 0x80 then decodeRounds 72 0x80 0 true basics digits else none

end VariantStore.Uri.Punycode
