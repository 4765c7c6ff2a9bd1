import VariantStore.Text.Ascii
import VariantStore.Text.Utf8

/-!
# What the bytes of a text tell

The bytes of a text give the text back (`ofUtf8?_utf8`). A byte below 128 stands in them only for
the character of that code (`mem_of_mem_utf8`), so marks of ASCII characters can be looked for among
the bytes. The digits of a number give the number back (`numeral?_toString`).
-/

namespace VariantStore.Text

/-! ## Bytes and characters -/

theorem toByteArray_utf8 (s : String) : (⟨(utf8 s).toArray⟩ : ByteArray) = s.toByteArray := by
  rw [← String.utf8Encode_toList, List.utf8Encode, utf8, encodeChars]
  exact (ByteArray.ext (List.data_toByteArray)).symm

/-- The bytes of a text give the text back. -/
@[simp] theorem ofUtf8?_utf8 (s : String) : ofUtf8? (utf8 s) = some s := by
  unfold ofUtf8?
  rw [toByteArray_utf8, String.fromUTF8?, dif_pos s.isValidUTF8]
  rfl

/-- The bytes of a character beyond ASCII are all 128 or more. -/
theorem toNat_of_mem_utf8EncodeChar {c : Char} {b : UInt8} (hb : b ∈ String.utf8EncodeChar c)
    (hlt : b.toNat < 128) : c.toNat = b.toNat := by
  unfold String.utf8EncodeChar at hb
  have hval : c.val.toNat = c.toNat := rfl
  simp only [hval] at hb
  split at hb
  case isTrue hascii =>
    rw [List.mem_singleton.mp hb, UInt8.toNat_ofNat']
    omega
  case isFalse =>
    -- leading bytes begin at 192 and the others at 128
    split at hb
    · simp only [List.mem_cons, List.not_mem_nil, or_false] at hb
      rcases hb with rfl | rfl <;> rw [UInt8.toNat_ofNat'] at hlt <;> omega
    · split at hb
      · simp only [List.mem_cons, List.not_mem_nil, or_false] at hb
        rcases hb with rfl | rfl | rfl <;> rw [UInt8.toNat_ofNat'] at hlt <;> omega
      · simp only [List.mem_cons, List.not_mem_nil, or_false] at hb
        rcases hb with rfl | rfl | rfl | rfl <;> rw [UInt8.toNat_ofNat'] at hlt <;> omega

theorem mem_of_mem_utf8 {s : String} {c : Char} (hc : c.toNat < 128)
    (h : UInt8.ofNat c.toNat ∈ utf8 s) : c ∈ s.toList := by
  obtain ⟨d, hd, hbyte⟩ := List.mem_flatMap.mp h
  have hcode : (UInt8.ofNat c.toNat).toNat = c.toNat := by
    rw [UInt8.toNat_ofNat']
    omega
  have heq := toNat_of_mem_utf8EncodeChar hbyte (by omega)
  rw [hcode] at heq
  exact Char.toNat_inj.mp heq ▸ hd

/-! ## Numbers -/

theorem hexDigit?_digitChar {n : Nat} (h : n < 10) : hexDigit? n.digitChar = some n := by
  have all : ∀ d ∈ List.range 10, hexDigit? d.digitChar = some d := by decide
  exact all n (List.mem_range.mpr h)

/-- A digit behind a numeral is worth its value, and the numeral ten times as much as before. -/
theorem numeral?_append_digit {cs : List Char} {n d : Nat} (hn : numeral? 10 cs = some n)
    (hd : d < 10) : numeral? 10 (cs ++ [d.digitChar]) = some (n * 10 + d) := by
  unfold numeral? at hn ⊢
  rw [List.foldlM_append, hn]
  simp [hexDigit?_digitChar hd, hd]

theorem numeral?_toDigits (n : Nat) : numeral? 10 (Nat.toDigits 10 n) = some n := by
  induction n using Nat.strongRecOn with
  | ind n ih =>
    by_cases hlt : n < 10
    · rw [Nat.toDigits_of_lt_base hlt]
      have hnil : numeral? 10 [] = some 0 := rfl
      simpa using numeral?_append_digit hnil hlt
    · rw [Nat.toDigits_of_base_le (by omega) (by omega),
        numeral?_append_digit (ih (n / 10) (by omega)) (Nat.mod_lt n (by omega))]
      congr 1
      omega

/-- The digits of a number give the number back. -/
theorem numeral?_toString (n : Nat) : numeral? 10 (toString n).toList = some n := by
  rw [Nat.toString_eq_repr, Nat.toList_repr]
  exact numeral?_toDigits n

theorem notMem_toString (n : Nat) {c : Char} (hc : c.isDigit = false) :
    c ∉ (toString n).toList := by
  rw [Nat.toString_eq_repr, Nat.toList_repr]
  intro hmem
  rw [Nat.isDigit_of_mem_toDigits (by omega) (by omega) hmem] at hc
  cases hc

end VariantStore.Text
