import VariantStore.Selection.Key
import VariantStore.Store.Item

/-!
# Strategies

A store leaves two decisions open: how a response becomes an item, and how a payload is buffered.
The second may create streams, and it may read less of the source than there is.
-/

namespace VariantStore

/-- The decisions that a store leaves open. -/
structure Strategy where
  /-- The item that keeps a response. -/
  createItem : Response → Item
  /-- The payload that is kept for a payload whose source was opened. -/
  createPayload : Key → Payload → Source → Streams → Except IoError Payload × Streams

namespace Strategy

/-- Reads the source into memory, within the limit if there is one. -/
def bufferWithin (limit : Option Nat) (_ : Key) (p : Payload) (source : Source)
    (streams : Streams) : Except IoError Payload × Streams :=
  ((source.collect limit).1.map (Payload.buffered p.mime), streams)

/-- Keeps responses as they are, stamped with the time, and buffers payloads within the limit. -/
def buffering (limit : Option Nat) (now : Int) : Strategy where
  createItem response := ⟨response, now⟩
  createPayload := bufferWithin limit

/-- Buffers payloads of any size. -/
def standard (now : Int) : Strategy := buffering none now

end Strategy

end VariantStore
