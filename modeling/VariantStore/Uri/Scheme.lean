import VariantStore.Text.Ascii
import VariantStore.Uri.Cleaning

/-!
# Schemes

A scheme is a letter, followed by letters, digits, `+`, `-` and `.`, up to a colon. Its letters are
written in lower case. Some schemes are special: they always have an authority, take a backslash for
a slash, and most have a default port.
-/

namespace VariantStore.Uri

/-- How URIs of a scheme are read. -/
inductive SchemeKind
  | web (defaultPort : Nat)
  | file
  | other
deriving DecidableEq

def schemeKind (scheme : String) : SchemeKind :=
  match scheme with
  | "http" | "ws" => .web 80
  | "https" | "wss" => .web 443
  | "ftp" => .web 21
  | "file" => .file
  | _ => .other

def SchemeKind.isSpecial : SchemeKind → Bool
  | .web _ | .file => true
  | .other => false

def isSchemeChar (c : Char) : Bool := c.isAlphanum || c == '+' || c == '-' || c == '.'

/-- The scheme in lower case and what follows its colon. -/
def scheme? (text : List Char) : Option (String × List Char) :=
  match text.dropWhile (· != ':') with
  | _ :: rest =>
    let name := dropBreaks (text.takeWhile (· != ':'))
    if name.head?.any Char.isAlpha && name.all isSchemeChar then
      some (Text.lower (String.ofList name), rest)
    else none
  | [] => none

/-- A slash; special schemes take a backslash for one. -/
def isSlash (special : Bool) (c : Char) : Bool := c == '/' || (special && c == '\\')

end VariantStore.Uri
