import VariantStore.Json.Fault
import VariantStore.Text.Ascii

/-!
# String literals

A string ends at the next quote that is not escaped. A character beyond the basic plane may be
escaped as a pair of surrogates; a half of a pair alone is refused, and so is a control character
that is not escaped.
-/

namespace VariantStore.Json

open Text

/-- Four hexadecimal digits. -/
def readHex (cs : List Char) : Reading Nat :=
  match cs with
  | a :: b :: c :: d :: rest =>
    match numeral? 16 [a, b, c, d] with
    | some n => .ok (n, rest)
    | none => .error ⟨.badEscape, byteSize cs - 4⟩
  | _ => if byteSize cs < 4 then .error ⟨.endInString, 0⟩ else .error ⟨.badEscape, byteSize cs - 4⟩

theorem length_readHex {cs rest : List Char} {n : Nat} (h : readHex cs = .ok (n, rest)) :
    rest.length < cs.length := by
  unfold readHex at h
  split at h
  · split at h
    · simp only [Except.ok.injEq, Prod.mk.injEq] at h
      simp only [List.length_cons, ← h.2]
      omega
    · simp at h
  · split at h <;> simp at h

def isLeading (n : Nat) : Bool := 0xD800 ≤ n && n ≤ 0xDBFF

def isTrailing (n : Nat) : Bool := 0xDC00 ≤ n && n ≤ 0xDFFF

/-- The other half of a pair of surrogates. -/
def readSecondHalf (first : Nat) (cs : List Char) : Reading Char :=
  match cs with
  | [] => .error ⟨.endInString, 0⟩
  | ['\\'] => .error ⟨.endInString, 0⟩
  | '\\' :: 'u' :: rest =>
    match readHex rest with
    | .error f => .error f
    | .ok (n, rest) =>
      if isTrailing n then
        .ok (Char.ofNat ((first - 0xD800) * 0x400 + (n - 0xDC00) + 0x10000), rest)
      else .error (faultHere .loneSurrogate rest)
  | '\\' :: rest => .error (faultAtNext .brokenPair rest)
  | rest => .error (faultAtNext .brokenPair rest)

theorem length_readSecondHalf {first : Nat} {cs rest : List Char} {c : Char}
    (h : readSecondHalf first cs = .ok (c, rest)) : rest.length < cs.length := by
  unfold readSecondHalf at h
  split at h
  · simp at h
  · simp at h
  · split at h
    · simp at h
    · next hex =>
      have := length_readHex hex
      split at h
      · simp only [Except.ok.injEq, Prod.mk.injEq] at h
        simp only [List.length_cons, ← h.2]
        omega
      · simp at h
  · simp at h
  · simp at h

/-- An escape by code point, after `\u`. -/
def readCodePoint (cs : List Char) : Reading Char :=
  match readHex cs with
  | .error f => .error f
  | .ok (n, rest) =>
    if isTrailing n then .error (faultHere .loneSurrogate rest)
    else if isLeading n then readSecondHalf n rest
    else .ok (Char.ofNat n, rest)

/-- What a one-letter escape stands for. -/
def escapedChar? (c : Char) : Option Char :=
  match c with
  | '"' => some '"'
  | '\\' => some '\\'
  | '/' => some '/'
  | 'b' => some '\x08'
  | 'f' => some '\x0c'
  | 'n' => some '\n'
  | 'r' => some '\r'
  | 't' => some '\t'
  | _ => none

/-- An escape, after its backslash. -/
def readEscape (cs : List Char) : Reading Char :=
  match cs with
  | [] => .error ⟨.endInString, 0⟩
  | 'u' :: rest => readCodePoint rest
  | c :: rest =>
    match escapedChar? c with
    | some d => .ok (d, rest)
    | none => .error (faultAtNext .badEscape cs)

theorem length_readEscape {cs rest : List Char} {c : Char} (h : readEscape cs = .ok (c, rest)) :
    rest.length < cs.length := by
  unfold readEscape at h
  split at h
  · simp at h
  · unfold readCodePoint at h
    split at h
    · simp at h
    · next hex =>
      have := length_readHex hex
      split at h
      · simp at h
      · split at h
        · have := length_readSecondHalf h
          simp only [List.length_cons]
          omega
        · simp only [Except.ok.injEq, Prod.mk.injEq] at h
          simp only [List.length_cons, ← h.2]
          omega
  · split at h
    · simp only [Except.ok.injEq, Prod.mk.injEq] at h
      simp [h.2]
    · simp at h

/-- A string, after its opening quote. -/
def readString (cs : List Char) : Reading String :=
  go [] cs
where
  /-- The characters read are given in reverse. -/
  go (seen : List Char) (cs : List Char) : Reading String :=
    match cs with
    | [] => .error ⟨.endInString, 0⟩
    | '"' :: rest => .ok (String.ofList seen.reverse, rest)
    | '\\' :: rest =>
      match h : readEscape rest with
      | .error f => .error f
      | .ok (c, after) =>
        have := length_readEscape h
        go (c :: seen) after
    | c :: rest => if c.toNat < 0x20 then .error (faultHere .control rest) else go (c :: seen) rest
  termination_by cs.length

end VariantStore.Json
