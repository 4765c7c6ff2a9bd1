import VariantStore.Uri.Basic
import VariantStore.Uri.Domain
import VariantStore.Uri.Segments

/-!
# Reading URIs

A text is split into scheme, body, query and fragment; the scheme decides how the body is read. The
first part that cannot be read decides the error: credentials, then host, then port.
-/

namespace VariantStore.Uri

open Text

/-! ## Errors -/

/-- Why a text is no absolute URI. -/
inductive ParseError
  | emptyHost
  | domainName
  | port
  | ipv4
  | ipv6
  | hostCharacter
  | noScheme
deriving DecidableEq

def ParseError.message : ParseError → String
  | .emptyHost => "empty host"
  | .domainName => "invalid international domain name"
  | .port => "invalid port number"
  | .ipv4 => "invalid IPv4 address"
  | .ipv6 => "invalid IPv6 address"
  | .hostCharacter => "invalid domain character"
  | .noScheme => "relative URL without a base"

/-! ## Splitting -/

/-- Splits at the first occurrence of a character, which is in neither part. -/
def cut (mark : Char) (text : List Char) : List Char × Option (List Char) :=
  match text.dropWhile (· != mark) with
  | [] => (text, none)
  | _ :: rest => (text.takeWhile (· != mark), some rest)

/-! ## Hosts -/

/-- Reads an address in brackets. -/
def bracketed (text : List Char) : Except ParseError Host :=
  if text.getLast? = some ']' then
    match Ipv6.address? (text.drop 1).dropLast with
    | some pieces => .ok (.ipv6 pieces)
    | none => .error .ipv6
  else .error .ipv6

/-- The host of a special scheme: an address or a domain name. -/
def specialHost (text : List Char) : Except ParseError Host :=
  if text.head? = some '[' then bracketed text
  else
    match (ofUtf8? (percentDecode text)).bind fun decoded => Domain.toAscii? decoded.toList with
    | none => .error .domainName
    | some [] => .error .emptyHost
    | some name =>
      if Ipv4.isAddress name then
        match Ipv4.address? name with
        | some address => .ok (.ipv4 address)
        | none => .error .ipv4
      else .ok (.domain (String.ofList name))

/-- Characters that would end the host of another scheme. -/
def isHostDelimiter (c : Char) : Bool :=
  "\x00\t\n\r #/:<>?@[\\]^|".toList.contains c

/-- The host of another scheme: an address in brackets or any text without delimiters. -/
def otherHost (text : List Char) : Except ParseError (Option Host) :=
  if text.head? = some '[' then (bracketed text).map some
  else if text.any isHostDelimiter then .error .hostCharacter
  else if text.isEmpty then .ok none
  else .ok (some (.domain (encoded controlSet text)))

/-! ## Authorities -/

/-- The length of the host at the start of a text: it ends at a colon outside brackets. -/
def hostLength (inBrackets : Bool) : List Char → Nat
  | [] => 0
  | ':' :: rest => if inBrackets then hostLength inBrackets rest + 1 else 0
  | '[' :: rest => hostLength true rest + 1
  | ']' :: rest => hostLength false rest + 1
  | _ :: rest => hostLength inBrackets rest + 1

/-- Splits at the last at sign. -/
def cutCredentials (text : List Char) : Option (List Char) × List Char :=
  match cut '@' text.reverse with
  | (host, some credentials) => (some credentials.reverse, host.reverse)
  | (_, none) => (none, text)

/-- Reads a port after its colon: digits up to the end or to a backslash. No digits and the default
port stand for no port. -/
def readPort (kind : SchemeKind) (text : List Char) : Except ParseError (Option Nat × List Char) :=
  let digits := text.takeWhile fun c => (decimalDigit? c).isSome
  let rest := text.drop digits.length
  let port := (numeral? 10 digits).getD 0
  if 65535 < port then .error .port
  else if !(rest.head?.all fun c => c == '\\') then .error .port
  else if digits.isEmpty || kind == .web port then .ok (none, rest)
  else .ok (some port, rest)

/-- Reads an authority, without the slashes before it. `ended` says whether the URI ends with it.
What is left of it after the port belongs to the path. -/
def readAuthority (kind : SchemeKind) (text : List Char) (ended : Bool) :
    Except ParseError (Authority × List Char) := do
  let (credentials, hostPort) := cutCredentials text
  if credentials = some [] ∧ hostPort = [] ∧ !ended then throw .emptyHost
  let (username, password) := cut ':' (credentials.getD [])
  let hostText := hostPort.take (hostLength false hostPort)
  let afterHost := hostPort.drop hostText.length
  if kind.isSpecial && hostText.isEmpty then throw .emptyHost
  let host ← if kind.isSpecial then (specialHost hostText).map some else otherHost hostText
  let bare : Authority :=
    { username := encoded userinfoSet username
      password := encoded userinfoSet (password.getD [])
      host := host }
  match afterHost with
  | ':' :: portText =>
    if host.isNone then throw .emptyHost
    let (port, rest) ← readPort kind portText
    return ({ bare with port := port }, rest)
  | rest =>
    if host.isNone && bare.renderCredentials != "" then throw .emptyHost
    return (bare, rest)

/-! ## Bodies -/

/-- Splits a body without the slashes before its authority into authority and path. -/
def cutAuthority (special : Bool) (text : List Char) : List Char × List Char :=
  (text.takeWhile fun c => !isSlash special c, text.dropWhile fun c => !isSlash special c)

/-- A body with an authority. `ended` says whether the URI ends with the body. -/
def readWithAuthority (kind : SchemeKind) (text : List Char) (ended : Bool) :
    Except ParseError (Option Authority × Path) := do
  let (authorityText, pathText) := cutAuthority kind.isSpecial text
  let (authority, rest) ← readAuthority kind authorityText (ended && pathText.isEmpty)
  let pathText := rest ++ pathText
  if kind.isSpecial || !pathText.isEmpty then
    return (some authority, .segments (segments kind.isSpecial pathText))
  else return (some authority, .segments [])

/-- What follows a slash at the start of the body of a file. -/
def afterSlash? (text : List Char) : Option (List Char) :=
  match text.dropWhile isBreak with
  | c :: rest => if isSlash true c then some rest else none
  | [] => none

/-- A file by its path. It is on the host, unless the path is on a drive. -/
def fileAt (host : Option Host) (pathText : List Char) : Option Authority × Path :=
  let (names, onDrive) := fileSegments pathText
  (some { host := if onDrive then none else host }, .segments names)

/-- A body of a file: two slashes introduce a host, which may be empty, but for a drive, which
begins the path. The slash after a host is not part of the path; without a host it is. -/
def readFile (text : List Char) : Except ParseError (Option Authority × Path) := do
  let some afterFirst := afterSlash? text | return fileAt none text
  let some rest := afterSlash? afterFirst | return fileAt none afterFirst
  let (hostText, pathText) := cutAuthority true rest
  let hostText := dropBreaks hostText
  if (drive? hostText).isSome then return fileAt none rest
  else if hostText.isEmpty then return fileAt none pathText
  else
    let host ← specialHost hostText
    if host = .domain "localhost" then return fileAt none pathText
    else return fileAt (some host) (pathText.drop 1)

/-- A body of another scheme: two slashes introduce an authority, one a path, and anything else is a
text without structure. -/
def readOther (text : List Char) (ended : Bool) : Except ParseError (Option Authority × Path) :=
  match text with
  | '/' :: '/' :: rest => readWithAuthority .other rest ended
  | '/' :: _ => .ok (none, .segments (segments false text))
  | _ => .ok (none, .literal (encoded controlSet text))

/-- Reads an absolute URI. -/
def parse (text : String) : Except ParseError Uri := do
  let some (scheme, rest) := scheme? (trimEdges text.toList) | throw .noScheme
  let (beforeFragment, fragment) := cut '#' rest
  let (body, query) := cut '?' beforeFragment
  let ended := query.isNone && fragment.isNone
  let kind := schemeKind scheme
  let (authority, path) ←
    match kind with
    | .web _ => readWithAuthority kind ((dropBreaks body).dropWhile (isSlash true)) ended
    | .file => readFile body
    | .other => readOther (dropBreaks body) ended
  return {
    scheme := scheme
    authority := authority
    path := path
    query := query.map fun q =>
      encoded (if kind.isSpecial then specialQuerySet else querySet) (dropBreaks q)
    fragment := fragment.map fun f => encoded fragmentSet (dropBreaks f) }

end VariantStore.Uri
