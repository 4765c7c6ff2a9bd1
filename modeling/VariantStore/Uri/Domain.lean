import VariantStore.Text.Utf8
import VariantStore.Unicode.Direction
import VariantStore.Unicode.HostMapping
import VariantStore.Unicode.Joining
import VariantStore.Unicode.Mark
import VariantStore.Unicode.Normalization
import VariantStore.Uri.Punycode

/-!
# Domain names

A domain name is written in ASCII. Its characters are mapped and brought into composed normal form,
and the result is split into labels. A label that begins with `xn--` is decoded first, and must be
what the mapping would have left. Labels beyond ASCII are checked and then encoded.

Hyphens may stand anywhere and labels may be empty. A label in ASCII may have any length; one beyond
ASCII, and what `xn--` marks, only a length that its encoding can be worked out for in good time.
-/

namespace VariantStore.Uri.Domain

open Unicode

/-- Characters that would end a host or change its meaning: controls, the space and delimiters. -/
def forbidden (c : Char) : Bool :=
  c.toNat ≤ 0x20 || c.toNat == 0x7F || "%#/:<>?@[\\]^|".toList.contains c

def isAsciiLabel (label : List Char) : Bool := label.all fun c => c.toNat < 0x80

/-- Maps every character; `none` if one is refused. -/
def mapAll (text : List Char) : Option (List Char) := (text.mapM mapHostChar).map List.flatten

/-- What a label begins with when it stands for one beyond ASCII. -/
def encodedMark : List Char := ['x', 'n', '-', '-']

/-- The most characters that a label beyond ASCII may have. -/
def lengthLimit : Nat := 1000

/-- The most characters that may follow the mark of an encoded label. -/
def encodedLengthLimit : Nat := 2000

/-- The label that is meant: itself, or what its encoding stands for. -/
def meaning? (label : List Char) : Option (List Char) :=
  if encodedMark.isPrefixOf label then
    let encoded := label.drop encodedMark.length
    if encodedLengthLimit < encoded.length then none
    else
      match Punycode.decode encoded with
      | some meant =>
        if !isAsciiLabel meant && mapAll meant == some meant && normalize meant == meant then
          some meant
        else none
      | none => none
  else some label

/-- A label beyond ASCII is not too long, begins with no mark and holds joiners only where they
show. -/
def allowed (label : List Char) : Bool :=
  isAsciiLabel label ||
    (label.length ≤ lengthLimit && !(label.head?.any isMark) && joinersAllowed [] label)

/-- The label as it goes over the wire. -/
def written (label : List Char) : List Char :=
  if isAsciiLabel label then label else encodedMark ++ Punycode.encode label

/-- The name in ASCII; `none` if it is no domain name. -/
def toAscii? (name : List Char) : Option (List Char) := do
  let mapped ← mapAll name
  let text := normalize mapped
  let labels ← (text.splitOn '.').mapM meaning?
  let bidirectional := labels.any fun label => label.any turnsDirection
  if text.any forbidden || !labels.all allowed || (bidirectional && !labels.all keepsDirection) then
    none
  else some (['.'].intercalate (labels.map written))

end VariantStore.Uri.Domain
