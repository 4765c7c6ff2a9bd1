import VariantStore.Text.Ascii
import VariantStore.Text.Utf8

/-!
# Percent encoding

Each part of a URI has a set of characters that it cannot hold. Such a character is written as its
UTF-8 bytes, each as `%` and two upper-case hexadecimal digits. Characters beyond ASCII are in every
set. A `%` is in none of them, so text that is encoded already stays as it is.
-/

namespace VariantStore.Uri

open Text

/-! ## Sets -/

/-- Controls and everything beyond ASCII: what no part of a URI holds. -/
def controlSet (c : Char) : Bool := c.toNat < 0x20 || 0x7E < c.toNat

/-- What a fragment does not hold. -/
def fragmentSet (c : Char) : Bool :=
  controlSet c || c == ' ' || c == '"' || c == '<' || c == '>' || c == '\x60'

/-- What a query does not hold. -/
def querySet (c : Char) : Bool :=
  controlSet c || c == ' ' || c == '"' || c == '#' || c == '<' || c == '>'

/-- What the query of a special scheme does not hold. -/
def specialQuerySet (c : Char) : Bool := querySet c || c == '\''

/-- What a path segment does not hold. -/
def pathSet (c : Char) : Bool :=
  fragmentSet c || c == '#' || c == '?' || c == '{' || c == '}'

/-- What a user name or password does not hold. -/
def userinfoSet (c : Char) : Bool :=
  pathSet c || c == '/' || c == ':' || c == ';' || c == '=' || c == '@' || c == '[' || c == '\\'
    || c == ']' || c == '^' || c == '|'

/-! ## Encoding -/

/-- One byte as `%` and two digits. -/
def percentByte (b : UInt8) : List Char :=
  ['%', upperHexDigit (b.toNat / 16), upperHexDigit (b.toNat % 16)]

def percentChar (set : Char → Bool) (c : Char) : List Char :=
  if set c then (String.utf8EncodeChar c).flatMap percentByte else [c]

/-- Encodes the characters of a set and keeps the others. -/
def percentEncode (set : Char → Bool) (cs : List Char) : List Char := cs.flatMap (percentChar set)

/-- Encodes into a text. -/
def encoded (set : Char → Bool) (cs : List Char) : String := String.ofList (percentEncode set cs)

/-! ## Decoding -/

/-- Reads `%` and two digits as one byte; a `%` that no two digits follow stands for itself. -/
def percentDecode : List Char → Bytes
  | [] => []
  | '%' :: a :: b :: rest =>
    match hexDigit? a, hexDigit? b with
    | some high, some low => UInt8.ofNat (high * 16 + low) :: percentDecode rest
    | _, _ => String.utf8EncodeChar '%' ++ percentDecode (a :: b :: rest)
  | c :: rest => String.utf8EncodeChar c ++ percentDecode rest

end VariantStore.Uri
