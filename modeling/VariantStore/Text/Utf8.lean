/-!
# Bytes of a text

Texts go over the wire in UTF-8. Bytes are kept as lists, so that what is written is a list
function of what is stored.
-/

namespace VariantStore

/-- A sequence of bytes. -/
abbrev Bytes := List UInt8

namespace Text

/-- The UTF-8 form of a sequence of characters. -/
def encodeChars (cs : List Char) : Bytes := cs.flatMap String.utf8EncodeChar

/-- The UTF-8 form of a text. -/
def utf8 (s : String) : Bytes := encodeChars s.toList

/-- Reads UTF-8; `none` if the bytes are not well formed. -/
def ofUtf8? (bytes : Bytes) : Option String := String.fromUTF8? ⟨bytes.toArray⟩

@[simp] theorem utf8_append (a b : String) : utf8 (a ++ b) = utf8 a ++ utf8 b := by
  simp [utf8, encodeChars]

end Text

end VariantStore
