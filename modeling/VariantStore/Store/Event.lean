import VariantStore.Selection.Key
import VariantStore.Message.Response

/-!
# Events

A store tells what it does: it logs events and it calls its strategy. The trace of an operation
lists both in the order in which they happen.
-/

namespace VariantStore

/-- How much an event matters. -/
inductive Level
  | trace
  | debug
  | warn
deriving DecidableEq

/-- What a store logs. -/
inductive Event
  | notBuffered (key : Key) (error : IoError)
  | unavailable (key : Key)
  | inserting (key : Key) (status : Status)
  | updating (key : Key) (status : Status)
  | evictedResource (resource : ResourceId) (variants : Nat)
  | evictedVariant (resource : ResourceId) (selector : Selector)
  | lookedUp (resource : ResourceId) (hit : Bool)
  | invalidated (resource : ResourceId) (variants : Nat)
  | cleared (resources : Nat)
  | shuttingDown
deriving DecidableEq

/-- What an event says about one of its aspects. -/
inductive Detail
  | text (value : String)
  | count (value : Nat)
  | flag (value : Bool)
deriving DecidableEq

namespace Event

def level : Event → Level
  | .notBuffered _ _ | .unavailable _ => .warn
  | .inserting _ _ | .updating _ _ | .invalidated _ _ | .cleared _ | .shuttingDown => .debug
  | .evictedResource _ _ | .evictedVariant _ _ | .lookedUp _ _ => .trace

def message : Event → String
  | .notBuffered _ _ => "payload could not be buffered"
  | .unavailable _ => "buffered payload is unavailable"
  | .inserting _ _ => "inserting response"
  | .updating _ _ => "updating response"
  | .evictedResource _ _ => "evicted least recently used resource"
  | .evictedVariant _ _ => "evicted least recently used variant"
  | .lookedUp _ _ => "lookup by request"
  | .invalidated _ _ => "invalidated resource"
  | .cleared _ => "cleared storage"
  | .shuttingDown => "shutting down storage"

/-- The details of an event, by name. -/
def details : Event → List (String × Detail)
  | .notBuffered key error => [("key", .text key.render), ("error", .text error.message)]
  | .unavailable key => [("key", .text key.render)]
  | .inserting key status | .updating key status =>
    [("key", .text key.render), ("status", .text status.render)]
  | .evictedResource resource variants | .invalidated resource variants =>
    [("resource", .text resource.text), ("variants", .count variants)]
  | .evictedVariant resource selector =>
    [("resource", .text resource.text), ("vary", .text selector.render)]
  | .lookedUp resource hit => [("resource", .text resource.text), ("hit", .flag hit)]
  | .cleared resources => [("resources", .count resources)]
  | .shuttingDown => []

end Event

/-- A call that a store makes to its strategy. -/
inductive Call
  | createPayload (key : Key)
  | createItem (response : Response)
  | afterClear
  | shutdown
deriving DecidableEq

/-- One entry of a trace. -/
inductive Activity
  | event (event : Event)
  | call (call : Call)
deriving DecidableEq

abbrev Trace := List Activity

namespace Trace

/-- The events of a trace. -/
def events (t : Trace) : List Event :=
  t.filterMap fun
    | .event e => some e
    | .call _ => none

/-- The calls of a trace. -/
def calls (t : Trace) : List Call :=
  t.filterMap fun
    | .event _ => none
    | .call c => some c

end Trace

end VariantStore
