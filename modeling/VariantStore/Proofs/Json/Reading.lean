import VariantStore.Json.Number
import VariantStore.Json.StringLiteral

/-!
# Reading what was written

A document is read from the front, and each of its parts is read off with everything else left
behind: blanks (`skipBlanks_append_cons`), a string however it is spelled (`readString_of_spells`),
and a number from its digits, as long as what follows does not carry on (`readNumber_toString`). The
other way round, a natural number is read only if it fits into 64 bits (`fits_readNumber`).
-/

namespace VariantStore.Json

open Text

/-! ## Blanks -/

/-- A text of blanks. -/
abbrev Blanks := {cs : List Char // cs.all isBlank = true}

theorem skipBlanks_append (blanks : Blanks) (rest : List Char) :
    skipBlanks (blanks.val ++ rest) = skipBlanks rest :=
  List.dropWhile_append_of_pos (List.all_eq_true.mp blanks.property)

theorem skipBlanks_cons {c : Char} (h : isBlank c = false) (rest : List Char) :
    skipBlanks (c :: rest) = c :: rest :=
  List.dropWhile_cons_of_neg (by simpa using h)

theorem skipBlanks_append_cons (blanks : Blanks) {c : Char} (h : isBlank c = false)
    (rest : List Char) : skipBlanks (blanks.val ++ c :: rest) = c :: rest := by
  rw [skipBlanks_append, skipBlanks_cons h]

/-! ## Strings -/

/-- A character that stands for itself. -/
def isPlain (c : Char) : Bool := c ≠ '"' ∧ c ≠ '\\' ∧ 0x20 ≤ c.toNat

/-- What stands between quotes for a text: a character for itself, or its code point. -/
inductive Spells : List Char → List Char → Prop
  | nil : Spells [] []
  | plain {c : Char} {spelling text : List Char} (hplain : isPlain c = true)
      (h : Spells spelling text) : Spells (c :: spelling) (c :: text)
  | code {c a b d e : Char} {spelling text : List Char}
      (hcode : numeral? 16 [a, b, d, e] = some c.toNat) (h : Spells spelling text) :
      Spells ('\\' :: 'u' :: a :: b :: d :: e :: spelling) (c :: text)

/-- The code point of a character is no half of a pair. -/
theorem readEscape_code {c a b d e : Char} (h : numeral? 16 [a, b, d, e] = some c.toNat)
    (rest : List Char) : readEscape ('u' :: a :: b :: d :: e :: rest) = .ok (c, rest) := by
  have hvalid : c.toNat < 0xD800 ∨ 0xDFFF < c.toNat ∧ c.toNat < 0x110000 := c.valid
  have htrailing : isTrailing c.toNat = false := by
    simp only [isTrailing, Bool.and_eq_false_iff, decide_eq_false_iff_not]
    omega
  have hleading : isLeading c.toNat = false := by
    simp only [isLeading, Bool.and_eq_false_iff, decide_eq_false_iff_not]
    omega
  simp [readEscape, readCodePoint, readHex, h, htrailing, hleading, Char.ofNat_toNat]

theorem readString_go_escape {cs rest : List Char} {c : Char} (h : readEscape cs = .ok (c, rest))
    (seen : List Char) : readString.go seen ('\\' :: cs) = readString.go (c :: seen) rest := by
  rw [readString.go]
  split
  case h_1 f heq =>
    rw [h] at heq
    cases heq
  case h_2 c' rest' heq =>
    rw [h] at heq
    cases heq
    rfl

theorem readString_go_of_spells {spelling text : List Char} (h : Spells spelling text)
    (seen rest : List Char) :
    readString.go seen (spelling ++ '"' :: rest)
      = .ok (String.ofList (seen.reverse ++ text), rest) := by
  induction h generalizing seen with
  | nil => simp [readString.go]
  | plain hplain _ ih =>
    obtain ⟨hquote, hescape, hcontrol⟩ := of_decide_eq_true hplain
    rw [List.cons_append, readString.go, if_neg (by omega), ih]
    · simp
    · exact hquote
    · exact hescape
  | code hcode _ ih =>
    simp only [List.cons_append]
    rw [readString_go_escape (readEscape_code hcode _), ih]
    simp

/-- A text of such characters is spelled by itself. -/
theorem spells_self {text : List Char} (h : text.all isPlain = true) : Spells text text := by
  induction text with
  | nil => exact .nil
  | cons c text ih =>
    rw [List.all_cons, Bool.and_eq_true] at h
    exact .plain h.1 (ih h.2)

theorem readString_of_spells {spelling : List Char} {text : String}
    (h : Spells spelling text.toList) (rest : List Char) :
    readString (spelling ++ '"' :: rest) = .ok (text, rest) := by
  rw [readString, readString_go_of_spells h]
  simp

/-! ## Numbers -/

/-- What stands behind the digits of a number does not carry on with it. -/
def Stops (rest : List Char) : Prop :=
  ∀ c ∈ rest.head?, decimalDigit? c = none ∧ c ≠ '.' ∧ c ≠ 'e' ∧ c ≠ 'E'

theorem stops_cons {c : Char} (h : decimalDigit? c = none ∧ c ≠ '.' ∧ c ≠ 'e' ∧ c ≠ 'E')
    (rest : List Char) : Stops (c :: rest) := by
  intro d hd
  obtain rfl : c = d := by simpa using hd
  exact h

theorem stops_of_isBlank {c : Char} (h : isBlank c = true) (rest : List Char) :
    Stops (c :: rest) := by
  simp only [isBlank, Bool.or_eq_true, beq_iff_eq] at h
  rcases h with ((rfl | rfl) | rfl) | rfl <;> exact stops_cons (by decide) rest

theorem Stops.append {rest : List Char} (h : Stops rest) (blanks : Blanks) :
    Stops (blanks.val ++ rest) := by
  obtain ⟨cs, hcs⟩ := blanks
  cases cs with
  | nil => exact h
  | cons c cs =>
    have hblank : isBlank c = true := List.all_eq_true.mp hcs c List.mem_cons_self
    exact stops_of_isBlank hblank (cs ++ rest)

/-- The digits of a number. -/
def digits (n : Nat) : List Nat := (Nat.toDigits 10 n).filterMap decimalDigit?

theorem decimalDigit?_digitChar {n : Nat} (h : n < 10) : decimalDigit? n.digitChar = some n := by
  have all : ∀ d ∈ List.range 10, decimalDigit? d.digitChar = some d := by decide
  exact all n (List.mem_range.mpr h)

theorem digits_of_lt {n : Nat} (h : n < 10) : digits n = [n] := by
  rw [digits, Nat.toDigits_of_lt_base h]
  simp [decimalDigit?_digitChar h]

theorem digits_of_le {n : Nat} (h : 10 ≤ n) : digits n = digits (n / 10) ++ [n % 10] := by
  rw [digits, Nat.toDigits_of_base_le (by omega) h, List.filterMap_append]
  simp [digits, decimalDigit?_digitChar (Nat.mod_lt n (by omega : 0 < 10))]

/-- Only zero begins with a zero. -/
theorem exists_digits_eq_cons (n : Nat) : ∃ d rest, digits n = d :: rest ∧ (d = 0 → n = 0) := by
  induction n using Nat.strongRecOn with
  | ind n ih =>
    by_cases hlt : n < 10
    · exact ⟨n, [], digits_of_lt hlt, id⟩
    · obtain ⟨d, rest, hdigits, hzero⟩ := ih (n / 10) (by omega)
      refine ⟨d, rest ++ [n % 10], ?_, fun hd => ?_⟩
      · rw [digits_of_le (by omega), hdigits]
        rfl
      · have := hzero hd
        omega

/-- The number that digits stand for, behind a significand. -/
def value (significand : Nat) (ds : List Nat) : Nat := ds.foldl (fun n d => n * 10 + d) significand

theorem value_digits (n : Nat) : value 0 (digits n) = n := by
  induction n using Nat.strongRecOn with
  | ind n ih =>
    by_cases hlt : n < 10
    · rw [digits_of_lt hlt]
      exact Nat.zero_add n
    · have hfront := ih (n / 10) (by omega)
      rw [digits_of_le (by omega), value, List.foldl_append]
      show value 0 (digits (n / 10)) * 10 + n % 10 = n
      omega

theorem le_value (significand : Nat) (ds : List Nat) : significand ≤ value significand ds := by
  induction ds generalizing significand with
  | nil => exact Nat.le_refl _
  | cons d ds ih =>
    have hle : significand * 10 + d ≤ value significand (d :: ds) := ih (significand * 10 + d)
    omega

/-- Digits are taken as long as their number fits. -/
theorem takeDigits_eq {significand : Nat} {ds : List Nat}
    (h : value significand ds ≤ maxSignificand) :
    takeDigits significand ds = (value significand ds, 0) := by
  induction ds generalizing significand with
  | nil => rfl
  | cons d ds ih =>
    have hle : significand * 10 + d ≤ value significand (d :: ds) :=
      le_value (significand * 10 + d) ds
    rw [takeDigits, if_neg (by omega)]
    exact ih h

theorem isSome_decimalDigit? (c : Char) : (decimalDigit? c).isSome = c.isDigit := by
  unfold decimalDigit? Char.isDigit
  rw [← Bool.decide_and]
  split
  case isTrue h => exact (decide_eq_true h).symm
  case isFalse h => exact (decide_eq_false h).symm

/-- The digits of a number, wherever it ends, are its digits. -/
theorem digitsOf_toString_append (n : Nat) {rest : List Char} (h : Stops rest) :
    digitsOf ((toString n).toList ++ rest) = digits n := by
  have hdigit : ∀ c ∈ Nat.toDigits 10 n, (decimalDigit? c).isSome = true := fun c hc => by
    rw [isSome_decimalDigit?]
    exact Nat.isDigit_of_mem_toDigits (by omega) (by omega) hc
  have hrest : (rest.takeWhile fun c => (decimalDigit? c).isSome) = [] := by
    cases rest with
    | nil => rfl
    | cons c rest =>
      refine List.takeWhile_cons_of_neg ?_
      rw [(h c rfl).1]
      decide
  rw [Nat.toString_eq_repr, Nat.toList_repr, digitsOf, List.takeWhile_append_of_pos hdigit, hrest,
    List.append_nil]
  rfl

theorem length_digits (n : Nat) : (digits n).length = (toString n).toList.length := by
  rw [Nat.toString_eq_repr, Nat.toList_repr, digits, List.filterMap_length_eq_length]
  intro c hc
  rw [isSome_decimalDigit?]
  exact Nat.isDigit_of_mem_toDigits (by omega) (by omega) hc

theorem exists_toString_eq_cons (n : Nat) :
    ∃ c cs, (toString n).toList = c :: cs ∧ c.isDigit = true := by
  rw [Nat.toString_eq_repr, Nat.toList_repr]
  cases hcs : Nat.toDigits 10 n with
  | nil => exact absurd hcs (List.length_pos_iff.mp Nat.length_toDigits_pos)
  | cons c cs =>
    have hmem : c ∈ Nat.toDigits 10 n := by
      rw [hcs]
      exact List.mem_cons_self
    exact ⟨c, cs, rfl, Nat.isDigit_of_mem_toDigits (by omega) (by omega) hmem⟩

theorem isBlank_of_isDigit {c : Char} (h : c.isDigit = true) : isBlank c = false := by
  rw [Bool.eq_false_iff]
  intro hblank
  simp only [isBlank, Bool.or_eq_true, beq_iff_eq] at hblank
  rcases hblank with ((rfl | rfl) | rfl) | rfl <;> exact absurd h (by decide)

/-- The digits of a number that fits give the number back. -/
theorem readNumber_toString {n : Nat} (hfits : n ≤ maxSignificand) {rest : List Char}
    (h : Stops rest) : readNumber false ((toString n).toList ++ rest) = .ok (.natural n, rest) := by
  have hdrop : ((toString n).toList ++ rest).drop (digits n).length = rest := by
    rw [length_digits, List.drop_left]
  have htake : takeDigits 0 (digits n) = (n, 0) := by
    rw [takeDigits_eq (by rwa [value_digits]), value_digits]
  obtain ⟨d, ds, hdigits, hzero⟩ := exists_digits_eq_cons n
  unfold readNumber
  simp only [digitsOf_toString_append n h, hdrop]
  split
  case h_1 hnil =>
    rw [hdigits] at hnil
    cases hnil
  case h_2 e es hlong =>
    -- a number with a zero in front is zero, which has no other digit
    rw [hdigits] at hlong
    cases hlong
    rw [hzero rfl, digits_of_lt (by omega)] at hdigits
    cases hdigits
  case h_3 =>
    rw [htake]
    dsimp only
    split
    case h_1 => exact absurd rfl (h _ rfl).2.1
    case h_2 => exact absurd rfl (h _ rfl).2.2.1
    case h_3 => exact absurd rfl (h _ rfl).2.2.2
    case h_4 => rfl

/-! ## What is read fits -/

/-- Whatever is read meets a condition. -/
def Meets {α : Type} (p : α → Prop) (r : Reading α) : Prop := ∀ a rest, r = .ok (a, rest) → p a

section Meets

variable {α β : Type} {p : α → Prop} {q : β → Prop}

theorem meets_error (f : Fault) : Meets p (.error f) := by
  intro a rest h
  cases h

theorem meets_ok {a : α} (h : p a) (rest : List Char) : Meets p (.ok (a, rest)) := by
  intro b rest' heq
  cases heq
  exact h

theorem Meets.map {r : Reading α} (h : Meets p r) {f : α → β} (hf : ∀ a, p a → q (f a)) :
    Meets q (r.map fun result => (f result.1, result.2)) := by
  cases r with
  | error fault => exact meets_error fault
  | ok result => exact meets_ok (hf result.1 (h result.1 result.2 rfl)) result.2

theorem meets_bind {γ : Type} {r : Except Fault γ} {f : γ → Except Fault (β × List Char)}
    (h : ∀ c, r = .ok c → Meets q (f c)) :
    Meets q (r >>= f : Except Fault (β × List Char)) := by
  cases r with
  | error fault => exact meets_error fault
  | ok c => exact h c rfl

end Meets

/-- A natural number fits into 64 bits. -/
def Number.Fits : Number → Prop
  | .natural n => n ≤ maxSignificand
  | .negative _ | .real _ _ => True

theorem takeDigits_le {significand : Nat} (h : significand ≤ maxSignificand) (ds : List Nat) :
    (takeDigits significand ds).1 ≤ maxSignificand := by
  induction ds generalizing significand with
  | nil => exact h
  | cons d ds ih =>
    rw [takeDigits]
    split
    case isTrue => exact h
    case isFalse hle => exact ih (by omega)

theorem fits_readReal (below : Bool) (significand : Nat) (power : Int) (rest : List Char) :
    Meets Number.Fits (readReal below significand power rest) := by
  fun_cases readReal below significand power rest with
  | case1 => exact meets_ok trivial _
  | case2 => exact meets_error _

theorem fits_readExponent (below : Bool) (significand : Nat) (power : Int) (cs : List Char) :
    Meets Number.Fits (readExponent below significand power cs) := by
  fun_cases readExponent below significand power cs with
  | case1 | case3 => exact meets_error _
  | case2 => exact fits_readReal _ _ _ _
  | case4 => exact meets_ok trivial _

theorem fits_readFraction (below : Bool) (significand : Nat) (power : Int) (cs : List Char) :
    Meets Number.Fits (readFraction below significand power cs) := by
  fun_cases readFraction below significand power cs with
  | case1 => exact meets_error _
  | case2 | case3 => exact fits_readExponent _ _ _ _
  | case4 => exact fits_readReal _ _ _ _

theorem fits_integer (below : Bool) {significand : Nat} (h : significand ≤ maxSignificand)
    (rest : List Char) : Meets Number.Fits (integer below significand rest) := by
  fun_cases integer below significand rest with
  | case1 =>
    have hfits : (Number.natural significand).Fits := h
    exact meets_ok hfits _
  | case2 => exact fits_readReal _ _ _ _
  | case3 => exact meets_ok trivial _

/-- A number with a fraction or an exponent is not natural, and digits are taken only while they
fit. -/
theorem fits_readNumber (below : Bool) (cs : List Char) :
    Meets Number.Fits (readNumber below cs) := by
  fun_cases readNumber below cs with
  | case1 | case2 => exact meets_error _
  | case3 => exact fits_readFraction _ _ _ _
  | case4 | case5 => exact fits_readExponent _ _ _ _
  | case6 digits _ _ _ _ _ _ _ htake =>
    have hfits := takeDigits_le (Nat.zero_le maxSignificand) digits
    rw [htake] at hfits
    exact fits_integer below hfits _
  | case7 => exact fits_readReal _ _ _ _

end VariantStore.Json
