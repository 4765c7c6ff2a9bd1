import VariantStore.Message.Response

/-!
# The wire format

A response is written as a status line, its header fields and its body. The writer frames the body
itself: a stored `Transfer-Encoding` is never repeated, and neither is a stored `Content-Length`,
except with `304`, where it describes an answer that is not sent.

A status without a body ends with the empty line, and its payload is not opened. Otherwise the media
type is added unless a field gives one, and the length is that of the body. A payload that declares
a length must keep to it. Room is made for such a length before the payload is opened, and if no
buffer can have that much, there is no message at all. Other than that, memory does not run out.
-/

namespace VariantStore

open Text

namespace Wire

def lineEnd : String := "\r\n"

/-- The space before the reason phrase stays where there is none. -/
def statusLine (s : Status) : String :=
  "HTTP/1.1 " ++ toString s.code ++ " " ++ s.reason?.getD "" ++ lineEnd

def fieldLine (f : Field) : String := f.name ++ ": " ++ f.value ++ lineEnd

/-- Stored fields that are repeated. -/
def isRepeated (s : Status) (f : Field) : Bool :=
  !sameName f.name "transfer-encoding" &&
    !(sameName f.name "content-length" && s != .notModified)

/-- The status line and the repeated fields. -/
def heading (r : Response) : String :=
  statusLine r.status ++ String.join ((r.headers.fields.filter (isRepeated r.status)).map fieldLine)

/-- The field that gives the media type, unless a stored one does. -/
def typeLine (headers : Headers) (p : Payload) : String :=
  if headers.contains "content-type" then "" else fieldLine ⟨"Content-Type", p.mime⟩

def lengthLine (length : Nat) : String := fieldLine ⟨"Content-Length", toString length⟩

def lengthMismatch (declared produced : Nat) : IoError :=
  ⟨.invalidData, s!"payload declared {declared} bytes but produced {produced}"⟩

/-- The length, the empty line and the body. A failed read comes before a length that is not kept.
-/
def framedBody (declared : Option Nat) (source : Source) : Except IoError Bytes := do
  let content ← source.drain.result
  match declared with
  | some length =>
    if content.length = length then return utf8 (lengthLine length ++ lineEnd) ++ content
    else throw (lengthMismatch length content.length)
  | none => return utf8 (lengthLine content.length ++ lineEnd) ++ content

/-- Why there is no message. -/
inductive Failure
  /-- The payload cannot be read, or it does not keep to its length. -/
  | payload (e : IoError)
  /-- A buffer was to have more room than there can be. The program does not survive this. -/
  | overflow
deriving DecidableEq

/-- The most bytes that a buffer can have room for. -/
def maxRoom : Nat := UInt64.size / 2 - 1

/-- The buffer is to have room for the status line, for every field and for the length that the
payload promises. What is in memory already is far from filling it, so this can only be too much
where a length is promised. A sum that a machine word cannot hold is too much as well. -/
def overflows (r : Response) : Bool :=
  r.status.permitsBody &&
    (r.payload.bind Payload.promised?).any fun length =>
      decide (maxRoom < 128 + 64 * r.headers.size + length)

/-- Writes a response: the bytes or why there are none, and the streams afterwards. -/
def write (r : Response) (streams : Streams) : Except Failure Bytes × Streams :=
  if overflows r then (.error .overflow, streams)
  else if !r.status.permitsBody then (.ok (utf8 (heading r ++ lineEnd)), streams)
  else
    match r.payload with
    | none => (.ok (utf8 (heading r ++ lengthLine 0 ++ lineEnd)), streams)
    | some p =>
      match p.start streams with
      | (.error e, streams) => (.error (.payload e), streams)
      | (.ok source, streams) =>
        let framed := (framedBody p.length? source).mapError Failure.payload
        (framed.map (utf8 (heading r ++ typeLine r.headers p) ++ ·), streams)

end Wire

end VariantStore
