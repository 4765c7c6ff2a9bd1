import VariantStore.Recency.BoundedMap
import VariantStore.Settings.Basic
import VariantStore.Store.Event
import VariantStore.Store.Strategy

/-!
# The store

A store maps resources to variants, and the variants of a resource, by selector, to items. Both maps
are bounded and forget what was written least recently. A write brings its resource to the front of
the resources and its variant to the front of the variants; reads change nothing.

An operation takes the store and gives what it leaves, with the trace of what it did. An insertion
buffers the payload before it touches the store, so one that fails leaves the store as it was.
-/

namespace VariantStore

/-- The variants of one resource. -/
abbrev Variants := BoundedMap Selector Item

/-- Resources with their variants. -/
abbrev Resources := BoundedMap ResourceId Variants

/-- Stored responses, bounded by resource and by variant. -/
structure Store where
  variantCapacity : Nat
  resources : Resources
deriving DecidableEq

/-- Why a payload was not kept. -/
inductive Unbufferable
  | unreadable (source : IoError)
  | unavailable
deriving DecidableEq

/-- A response that cannot be stored. -/
structure Uncacheable where
  resource : ResourceId
  cause : Unbufferable
deriving DecidableEq

def Unbufferable.reason : Unbufferable → String
  | .unreadable _ => "payload could not be read into memory"
  | .unavailable => "buffered payload is unavailable"

/-- The failure behind it, if there is one. -/
def Unbufferable.source? : Unbufferable → Option IoError
  | .unreadable source => some source
  | .unavailable => none

def Uncacheable.message (e : Uncacheable) : String :=
  s!"unable to cache response for {e.resource.text}: {e.cause.reason}"

/-- What an operation leaves that reads and writes nothing but the store. -/
structure Change where
  store : Store
  trace : Trace

/-- What an insertion leaves. -/
structure Insertion where
  result : Except Uncacheable Response
  store : Store
  streams : Streams
  trace : Trace

/-- What buffering a payload leaves. -/
structure Buffered where
  result : Except Uncacheable Response
  streams : Streams
  trace : Trace

namespace Store

/-! ## Making a store -/

/-- The empty store with the given bounds. -/
def empty (capacity variantCapacity : Nat) : Store := ⟨variantCapacity, .empty capacity⟩

/-- The empty store with the bounds of the settings. -/
def ofSettings (settings : Settings) : Except ZeroBound Store :=
  settings.bounds.map fun b => empty b.1 b.2

/-! ## Queries -/

def capacity (s : Store) : Nat := s.resources.capacity

/-- The number of resources. -/
def resourceCount (s : Store) : Nat := s.resources.size

/-- The number of variants of all resources. -/
def size (s : Store) : Nat :=
  s.resources.values.foldl (fun count variants => count + variants.size) 0

/-- The item under a key. -/
def get? (s : Store) (key : Key) : Option Item :=
  (s.resources.get? key.resource).bind fun variants => variants.get? key.selector

/-- The first variant that accepts the request, the most recently written one first. -/
def select? (variants : Variants) (request : Headers) : Option Item :=
  (variants.entries.find? fun e => e.1.accepts request).map Prod.snd

/-- The item that answers a request. Only a look-up for a stored resource is logged. -/
def lookup (s : Store) (request : Request) : Option Item × Trace :=
  match s.resources.get? request.resource with
  | none => (none, [])
  | some variants =>
    let hit := select? variants request.headers
    (hit, [.event (.lookedUp request.resource hit.isSome)])

/-- The keys of the variants of one resource, the most recently written first. -/
def keysOf (resource : ResourceId) (variants : Variants) : List Key :=
  variants.keys.map (Key.mk resource)

/-- Every key, in ascending order. -/
def keys (s : Store) : List Key :=
  Key.sorted (s.resources.entries.flatMap fun e => keysOf e.1 e.2)

/-! ## Steps of the operations -/

/-- Takes out one variant, and its resource with the last of them. -/
def removeVariant (s : Store) (key : Key) : Store :=
  match s.resources.get? key.resource with
  | none => s
  | some variants =>
    let rest := variants.erase key.selector
    if rest.isEmpty then { s with resources := s.resources.erase key.resource }
    else { s with resources := s.resources.modify key.resource fun _ => rest }

/-- Writes an item under a key. A new resource may evict another one with all its variants, and a
new variant may evict another one of its resource. -/
def put (s : Store) (key : Key) (item : Item) : Change :=
  let entry := s.resources.entry key.resource fun _ => .empty s.variantCapacity
  let written := entry.value.put key.selector item
  { store := { s with resources := entry.map.modify key.resource fun _ => written.map }
    trace :=
      (entry.evicted.map fun e => .event (.evictedResource e.1 e.2.size)).toList
        ++ (written.evicted.map fun e => .event (.evictedVariant key.resource e.1)).toList }

/-- Replaces the payload of a response by the one that the strategy keeps for it. -/
def buffer (strategy : Strategy) (key : Key) (response : Response) (streams : Streams) : Buffered :=
  match response.payload with
  | none => ⟨.ok response, streams, []⟩
  | some payload =>
    let refuse (e : IoError) (streams : Streams) (calls : Trace) : Buffered :=
      ⟨.error ⟨key.resource, .unreadable e⟩, streams, calls ++ [.event (.notBuffered key e)]⟩
    match payload.start streams with
    | (.error e, streams) => refuse e streams []
    | (.ok source, streams) =>
      let calls : Trace := [.call (.createPayload key)]
      match strategy.createPayload key payload source streams with
      | (.error e, streams) => refuse e streams calls
      | (.ok kept, streams) =>
        if kept.isAvailable streams then ⟨.ok (response.withPayload (some kept)), streams, calls⟩
        else
          ⟨.error ⟨key.resource, .unavailable⟩, streams, calls ++ [.event (.unavailable key)]⟩

/-! ## Operations -/

/-- Stores a response as the answer to a request. Its payload is buffered first; then the variant
under its key is taken out and written anew. The response is given back as it was stored. -/
def insert (s : Store) (strategy : Strategy) (request : Request) (response : Response)
    (streams : Streams) : Insertion :=
  let key := Key.ofExchange request response.headers
  let buffered := buffer strategy key response streams
  match buffered.result with
  | .error e => ⟨.error e, s, buffered.streams, buffered.trace⟩
  | .ok kept =>
    let written := (s.removeVariant key).put key (strategy.createItem kept)
    { result := .ok kept
      store := written.store
      streams := buffered.streams
      trace := buffered.trace
        ++ [.call (.createItem kept), .event (.inserting key kept.status)] ++ written.trace }

/-- Writes a response over the one under its key, without buffering its payload. -/
def update (s : Store) (strategy : Strategy) (request : Request) (response : Response) : Change :=
  let key := Key.ofExchange request response.headers
  let written := s.put key (strategy.createItem response)
  { store := written.store
    trace := [.call (.createItem response), .event (.updating key response.status)]
      ++ written.trace }

/-- Takes out every variant of a resource, one after the other. -/
def invalidate (s : Store) (resource : ResourceId) : Change :=
  match s.resources.get? resource with
  | none => ⟨s, []⟩
  | some variants =>
    let gone := keysOf resource variants
    ⟨gone.foldl removeVariant s, [.event (.invalidated resource gone.length)]⟩

/-- Takes out every resource, one after the other. -/
def clear (s : Store) : Change :=
  let gone := s.resources.keys
  ⟨{ s with resources := gone.foldl BoundedMap.erase s.resources },
    [.call .afterClear, .event (.cleared gone.length)]⟩

/-- Tells the strategy that the store is done with. -/
def shutdown (s : Store) : Change := ⟨s, [.event .shuttingDown, .call .shutdown]⟩

end Store

end VariantStore
