/-!
# Characters that do not count

Controls and spaces do not count at either end of a URI, and tabs and line ends nowhere: they are
*breaks*. All parts are read as if the breaks were not there, but for the path of a file, where one
sets off a drive letter.
-/

namespace VariantStore.Uri

/-- Controls and the space. -/
def isEdgeSpace (c : Char) : Bool := c.toNat ≤ 0x20

/-- Drops controls and spaces at both ends. -/
def trimEdges (text : List Char) : List Char :=
  ((text.dropWhile isEdgeSpace).reverse.dropWhile isEdgeSpace).reverse

/-- Tabs and line ends. -/
def isBreak (c : Char) : Bool := c == '\t' || c == '\n' || c == '\r'

/-- The text as it reads. -/
def dropBreaks (text : List Char) : List Char := text.filter fun c => !isBreak c

end VariantStore.Uri
