import VariantStore.Unicode.Printable

/-!
# Quoted text

A message shows a text between double quotes. Quotes, backslashes and what a reader could not see
are escaped: the common controls by a letter, extending and unprintable characters by their code
point.
-/

namespace VariantStore.Text

/-- A code point in lower-case hexadecimal, in braces. -/
def escapeCode (c : Char) : List Char :=
  "\\u\x7b".toList ++ Nat.toDigits 16 c.toNat ++ ['\x7d']

/-- One character as it stands between quotes. -/
def quoteChar (c : Char) : List Char :=
  match c with
  | '"' => ['\\', '"']
  | '\\' => ['\\', '\\']
  | '\n' => ['\\', 'n']
  | '\r' => ['\\', 'r']
  | '\t' => ['\\', 't']
  | '\x00' => ['\\', '0']
  | c => if Unicode.isExtender c || Unicode.isUnprintable c then escapeCode c else [c]

/-- A text between double quotes. -/
def quoted (s : String) : String :=
  String.ofList ('"' :: s.toList.flatMap quoteChar ++ ['"'])

end VariantStore.Text
