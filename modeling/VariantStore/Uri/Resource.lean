import VariantStore.Text.Quoted
import VariantStore.Uri.Parser

/-!
# Resources

A resource is identified by its URI in normal form, without the fragment. The query belongs to the
identity. Resources are ordered by the code points of their texts.
-/

namespace VariantStore

/-- The identity of a resource: its URI in normal form. -/
structure ResourceId where
  text : String
deriving DecidableEq, Ord

/-- Why a text does not name a resource to be asked for. -/
inductive UriError
  | invalid (uri : String) (cause : Uri.ParseError)
  | notHierarchical (uri : String)
deriving DecidableEq

def UriError.message : UriError → String
  | .invalid uri cause => s!"invalid request URI {Text.quoted uri}: {cause.message}"
  | .notHierarchical uri =>
    s!"request URI {Text.quoted uri} does not identify a hierarchical resource"

/-- What the URI's text itself is blamed for. -/
def UriError.cause? : UriError → Option Uri.ParseError
  | .invalid _ cause => some cause
  | .notHierarchical _ => none

/-- Reads an absolute URI. -/
def Uri.ofText (text : String) : Except UriError Uri :=
  match Uri.parse text with
  | .ok uri => .ok uri
  | .error cause => .error (.invalid text cause)

namespace ResourceId

/-- Takes off the spaces at the end. -/
def trimEnd (text : String) : String :=
  String.ofList (text.toList.reverse.dropWhile (· == ' ')).reverse

/-- The resource that a URI names. Spaces at the end of a text without structure do not count once
the fragment is gone. -/
def ofUri (uri : Uri) : ResourceId :=
  match uri.path, uri.query with
  | .literal text, none => ⟨{ uri with path := .literal (trimEnd text) }.renderResource⟩
  | _, _ => ⟨uri.renderResource⟩

/-- The resource that an absolute URI names. -/
def parse (text : String) : Except UriError ResourceId := (Uri.ofText text).map ofUri

end ResourceId

end VariantStore
