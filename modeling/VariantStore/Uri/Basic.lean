import VariantStore.Uri.Ipv4
import VariantStore.Uri.Ipv6

/-!
# Absolute URIs

A URI is kept in parts that are in normal form already: `render` only puts them together. A scheme
may have an authority; the path is a list of segments, except where it has no structure of its own,
as in `mailto:`.
-/

namespace VariantStore

/-- What an authority names. -/
inductive Host
  | domain (name : String)
  | ipv4 (address : Nat)
  | ipv6 (pieces : List Nat)
deriving DecidableEq

def Host.render : Host → String
  | .domain name => name
  | .ipv4 address => Uri.Ipv4.render address
  | .ipv6 pieces => "[" ++ Uri.Ipv6.render pieces ++ "]"

/-- Credentials, host and port; empty credentials, an empty host and a default port are left out. -/
structure Authority where
  username : String := ""
  password : String := ""
  host : Option Host := none
  port : Option Nat := none
deriving DecidableEq

/-- The credentials with the at sign after them. -/
def Authority.renderCredentials (a : Authority) : String :=
  let secret := if a.password.isEmpty then "" else ":" ++ a.password
  if a.username.isEmpty && a.password.isEmpty then "" else a.username ++ secret ++ "@"

def Authority.render (a : Authority) : String :=
  a.renderCredentials ++ (a.host.map Host.render).getD ""
    ++ (a.port.map fun port => ":" ++ toString port).getD ""

/-- Where in the host a URI points. -/
inductive Path
  /-- A text without structure. -/
  | literal (text : String)
  /-- Segments, each with a slash before it. -/
  | segments (names : List String)
deriving DecidableEq

def Path.render : Path → String
  | .literal text => text
  | .segments names => String.join (names.map fun name => "/" ++ name)

/-- An absolute URI in normal form. -/
structure Uri where
  scheme : String
  authority : Option Authority
  path : Path
  query : Option String
  fragment : Option String
deriving DecidableEq

namespace Uri

/-- A path has segments, and so the URI can have others beside it. -/
def isHierarchical (u : Uri) : Bool :=
  match u.path with
  | .segments _ => true
  | .literal _ => false

/-- Without an authority, `/.` keeps a path that begins with two slashes from reading as one. -/
def pathGuard (u : Uri) : String :=
  match u.authority, u.path with
  | none, .segments ("" :: _ :: _) => "/."
  | _, _ => ""

/-- The URI without its fragment. -/
def renderResource (u : Uri) : String :=
  u.scheme ++ ":" ++ (u.authority.map fun a => "//" ++ a.render).getD "" ++ u.pathGuard
    ++ u.path.render ++ (u.query.map fun query => "?" ++ query).getD ""

/-- The whole URI. -/
def render (u : Uri) : String :=
  u.renderResource ++ (u.fragment.map fun fragment => "#" ++ fragment).getD ""

end Uri

end VariantStore
