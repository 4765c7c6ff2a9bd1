/-!
# Blanks

White space is the Unicode property of that name: 25 characters, the line separators among them.
Core's `Char.isWhitespace` knows four of them.
-/

namespace VariantStore.Text

/-- A white space character. -/
def isBlank (c : Char) : Bool :=
  let n := c.toNat
  (0x09 ≤ n && n ≤ 0x0D) || n == 0x20 || n == 0x85 || n == 0xA0 || n == 0x1680
    || (0x2000 ≤ n && n ≤ 0x200A) || n == 0x2028 || n == 0x2029 || n == 0x202F || n == 0x205F
    || n == 0x3000

/-- Takes the blanks off both ends. -/
def trimChars (cs : List Char) : List Char :=
  ((cs.dropWhile isBlank).reverse.dropWhile isBlank).reverse

/-- The parts between commas, without the blanks around them; parts that hold nothing else are
left out. -/
def listItems (s : String) : List String :=
  ((s.toList.splitOn ',').map trimChars).filterMap fun part =>
    if part.isEmpty then none else some (String.ofList part)

end VariantStore.Text
