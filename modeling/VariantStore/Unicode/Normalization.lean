import VariantStore.Unicode.CombiningClass
import VariantStore.Unicode.Decomposition

/-!
# Composed normal form

Canonically equivalent texts have the same composed normal form. It is reached in three steps: every
character is decomposed, the marks after each starter are sorted by combining class, and pairs are
composed again from left to right wherever nothing of an equal or higher class stands between.
-/

namespace VariantStore.Unicode

/-! ## Hangul

A syllable stands for a leading consonant, a vowel and perhaps a trailing consonant; its number is
computed from theirs. -/

namespace Hangul

def syllables : Nat := 0xAC00
def leads : Nat := 0x1100
def vowels : Nat := 0x1161
/-- One before the first trailing consonant, so that offset 0 means none. -/
def tails : Nat := 0x11A7
def leadCount : Nat := 19
def vowelCount : Nat := 21
def tailCount : Nat := 28

/-- The parts of a syllable. -/
def decompose? (c : Char) : Option (List Char) :=
  let n := c.toNat
  if syllables ≤ n ∧ n < syllables + leadCount * vowelCount * tailCount then
    let k := n - syllables
    let lead := Char.ofNat (leads + k / (vowelCount * tailCount))
    let vowel := Char.ofNat (vowels + k % (vowelCount * tailCount) / tailCount)
    if k % tailCount = 0 then some [lead, vowel]
    else some [lead, vowel, Char.ofNat (tails + k % tailCount)]
  else none

/-- A lead takes a vowel, and a syllable without a tail takes a tail. -/
def compose? (a b : Char) : Option Char :=
  let m := a.toNat
  let n := b.toNat
  if leads ≤ m ∧ m < leads + leadCount ∧ vowels ≤ n ∧ n < vowels + vowelCount then
    some (Char.ofNat (syllables + ((m - leads) * vowelCount + (n - vowels)) * tailCount))
  else if syllables ≤ m ∧ m < syllables + leadCount * vowelCount * tailCount
      ∧ (m - syllables) % tailCount = 0 ∧ tails < n ∧ n < tails + tailCount then
    some (Char.ofNat (m + (n - tails)))
  else none

end Hangul

/-! ## Decomposition -/

/-- Decomposes a composite, and its first character in turn as often as the first argument says. -/
def decomposeComposite : Nat → Char → List Char
  | 0, c => [c]
  | depth + 1, c =>
    match imageOf? compositeTable c with
    | some (first :: rest) => decomposeComposite depth first ++ rest
    | _ => [c]

/-- The full decomposition. Composites nest at most three deep. -/
def decompose (c : Char) : List Char :=
  if c.toNat < 0xC0 then [c]
  else
    match Hangul.decompose? c with
    | some parts => parts
    | none => (imageOf? variantTable c).getD (decomposeComposite 4 c)

/-! ## Order of marks -/

/-- Adds a character to a text in reverse: a mark moves before the marks of a higher class. -/
def insertMark (c : Char) : List Char → List Char
  | [] => [c]
  | d :: before =>
    if 0 < combiningClass c ∧ combiningClass c < combiningClass d then d :: insertMark c before
    else c :: d :: before

/-- Sorts the marks after each starter by class and keeps the order of marks of one class. -/
def sortMarks (text : List Char) : List Char :=
  (text.foldl (fun acc c => insertMark c acc) []).reverse

/-! ## Composition -/

/-- The pairs that composites stand for. -/
def compositions : List (Char × List Char) := listedImages compositeTable

/-- The composite of a pair. -/
def compose? (a b : Char) : Option Char :=
  match Hangul.compose? a b with
  | some c => some c
  | none => (compositions.find? fun e => e.2 == [a, b]).map Prod.fst

/-- What composition holds: the text done, in reverse; the starter that still takes marks; the marks
after it that it did not take, in reverse. -/
structure Composing where
  done : List Char := []
  starter : Option Char := none
  marks : List Char := []

/-- The text so far, in reverse. -/
def Composing.text (s : Composing) : List Char := s.marks ++ s.starter.toList ++ s.done

/-- A character is blocked from the starter by a mark of its own class or a higher one. -/
def Composing.blocked (s : Composing) (c : Char) : Bool :=
  match s.marks with
  | [] => false
  | last :: _ => combiningClass c ≤ combiningClass last

/-- Takes one more character. -/
def Composing.next (s : Composing) (c : Char) : Composing :=
  let composed := if s.blocked c then none else s.starter.bind fun a => compose? a c
  match composed with
  | some d => { s with starter := some d }
  | none =>
    if combiningClass c = 0 then { done := s.text, starter := some c }
    else { s with marks := c :: s.marks }

def composeAll (text : List Char) : List Char := (text.foldl Composing.next {}).text.reverse

/-- The composed normal form. -/
def normalize (text : List Char) : List Char :=
  if text.all fun c => c.toNat < 0xC0 then text
  else composeAll (sortMarks (text.flatMap decompose))

end VariantStore.Unicode
