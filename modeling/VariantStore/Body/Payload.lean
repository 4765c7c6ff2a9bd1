import VariantStore.Body.Streams
import VariantStore.Text.Quoted

/-!
# Payloads

A payload is the body of an answer and its media type. A buffered payload holds its bytes and can be
read any number of times. A stream can be read once, and may declare a length. A replayable payload
comes from outside: every opening starts the same source anew, or fails in the same way. It may
declare a length as well, and says itself whether it is available.
-/

namespace VariantStore

/-- The media type of bytes that nothing more is known about. -/
def defaultMime : String := "application/octet-stream"

/-- The media type of a text. -/
def textMime : String := "text/plain; charset=utf-8"

/-- The body of an answer. -/
inductive Payload
  | buffered (mime : String) (content : Bytes)
  | stream (mime : String) (declared : Option Nat) (number : Nat)
  | replayable (mime : String) (declared : Option Nat) (opening : IoError ⊕ Source)
      (available : Bool)
deriving DecidableEq

namespace Payload

def mime : Payload → String
  | .buffered mime _ | .stream mime _ _ | .replayable mime _ _ _ => mime

/-- The length, if it is known before reading. -/
def length? : Payload → Option Nat
  | .buffered _ content => some content.length
  | .stream _ declared _ | .replayable _ declared _ _ => declared

/-- The length that is declared of bytes that are not in memory. -/
def promised? : Payload → Option Nat
  | .buffered _ _ => none
  | .stream _ declared _ | .replayable _ declared _ _ => declared

/-- The bytes are held in memory. -/
def isBuffered : Payload → Bool
  | .buffered _ _ => true
  | .stream _ _ _ | .replayable _ _ _ _ => false

/-- The payload can still be read. -/
def isAvailable (p : Payload) (streams : Streams) : Bool :=
  match p with
  | .buffered _ _ => true
  | .stream _ _ number => streams.isUnread number
  | .replayable _ _ _ available => available

/-- Why a consumed stream does not open. -/
def alreadyConsumed : IoError := ⟨.other, "payload stream already consumed"⟩

/-- Opens the payload: its source, and the streams afterwards. -/
def start (p : Payload) (streams : Streams) : Except IoError Source × Streams :=
  match p with
  | .buffered _ content => (.ok (.ofBytes content), streams)
  | .stream _ _ number =>
    match streams.unread? number with
    | some source => (.ok source, streams.consume number)
    | none => (.error alreadyConsumed, streams)
  | .replayable _ _ opening _ => (opening.elim .error .ok, streams)

/-- Opens the payload and reads it to the end. -/
def read (p : Payload) (streams : Streams) : Except IoError Bytes × Streams :=
  match p.start streams with
  | (.ok source, streams) => (source.drain.result, streams)
  | (.error e, streams) => (.error e, streams)

/-- A stream in words; the other payloads have no description. -/
def describe? (p : Payload) (streams : Streams) : Option String :=
  match p with
  | .stream mime declared number =>
    let length := (declared.map fun n => s!"Some({n})").getD "None"
    let consumed := !streams.isUnread number
    some <| s!"StreamPayload \x7b mime_type: {Text.quoted mime}, length: {length}, "
      ++ s!"consumed: {consumed} \x7d"
  | .buffered _ _ | .replayable _ _ _ _ => none

/-- A buffered payload gives the same bytes at every reading. -/
@[simp] theorem read_buffered (mime : String) (content : Bytes) (streams : Streams) :
    (buffered mime content).read streams = (.ok content, streams) := by
  simp [read, start, Source.drain_ofBytes]

end Payload

end VariantStore
