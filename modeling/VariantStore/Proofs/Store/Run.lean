import VariantStore.Proofs.Selection.Negotiation
import VariantStore.Proofs.Store.Steps

/-!
# Runs

A run performs operations one after the other. What an operation does to the layout depends on
little: the write that it makes, if it makes one, or what it removes (`Effect`). So the layout that
a run leaves is what the effects of its operations leave of nothing, one after the other
(`layout_run`).

An operation comes with the strategy and the streams that it finds. A run is thereby open to
strategies that answer differently each time, and to streams that were read in between.
-/

namespace VariantStore

open Recency

/-- An operation of a store, with all that it is given. -/
inductive Operation
  | insert (strategy : Strategy) (request : Request) (response : Response) (streams : Streams)
  | update (strategy : Strategy) (request : Request) (response : Response)
  | lookup (request : Request)
  | get (key : Key)
  | invalidate (resource : ResourceId)
  | clear

/-- The exchange that was written, and the item that was made of it. -/
structure Write where
  request : Request
  response : Response
  item : Item
deriving DecidableEq

/-- A write goes under the key of the exchange as it was given, whatever the item keeps of it. -/
def Write.key (w : Write) : Key := Key.ofExchange w.request w.response.headers

/-- What an operation does to what is stored. -/
inductive Effect
  | write (w : Write)
  | invalidate (resource : ResourceId)
  | clear
  | nothing
deriving DecidableEq

def Effect.write? : Effect → Option Write
  | .write w => some w
  | .invalidate _ | .clear | .nothing => none

/-- The writes among some effects, in order. -/
def writes (effects : List Effect) : List Write := effects.filterMap Effect.write?

/-- An insertion writes if its payload can be buffered, and does nothing otherwise. -/
def Operation.effect : Operation → Effect
  | .insert strategy request response streams =>
    match (Store.buffer strategy (Key.ofExchange request response.headers) response
        streams).result with
    | .error _ => .nothing
    | .ok kept => .write ⟨request, response, strategy.createItem kept⟩
  | .update strategy request response => .write ⟨request, response, strategy.createItem response⟩
  | .lookup _ | .get _ => .nothing
  | .invalidate resource => .invalidate resource
  | .clear => .clear

/-- The effects of some operations, in order. -/
def effects (ops : List Operation) : List Effect := ops.map Operation.effect

/-! ## On layouts -/

namespace Layout

/-- What an effect does within the bounds. -/
def apply (capacity variantCapacity : Nat) (l : Layout) : Effect → Layout
  | .write w => write capacity variantCapacity l w.key w.item
  | .invalidate resource => others resource l
  | .clear => []
  | .nothing => l

/-- What is stored after some effects, from nothing. -/
def after (capacity variantCapacity : Nat) (es : List Effect) : Layout :=
  es.foldl (apply capacity variantCapacity) []

theorem after_concat (capacity variantCapacity : Nat) (es : List Effect) (e : Effect) :
    after capacity variantCapacity (es ++ [e])
      = apply capacity variantCapacity (after capacity variantCapacity es) e := by
  rw [after, List.foldl_append]
  rfl

end Layout

theorem writes_concat_write (es : List Effect) (w : Write) :
    writes (es ++ [.write w]) = writes es ++ [w] := by
  simp [writes, Effect.write?]

theorem writes_concat_of_none {e : Effect} (h : e.write? = none) (es : List Effect) :
    writes (es ++ [e]) = writes es := by
  simp [writes, h]

/-- One effect more is one write more, or none. -/
theorem writes_concat (es : List Effect) (e : Effect) :
    (∃ w, e = .write w ∧ writes (es ++ [e]) = writes es ++ [w]) ∨
      writes (es ++ [e]) = writes es := by
  cases e with
  | write w => exact Or.inl ⟨w, rfl, writes_concat_write es w⟩
  | invalidate resource => exact Or.inr (writes_concat_of_none rfl es)
  | clear => exact Or.inr (writes_concat_of_none rfl es)
  | nothing => exact Or.inr (writes_concat_of_none rfl es)

/-! ## Performing operations -/

namespace Store

/-- What an operation leaves. -/
def perform (s : Store) : Operation → Store
  | .insert strategy request response streams =>
    (s.insert strategy request response streams).store
  | .update strategy request response => (s.update strategy request response).store
  | .lookup _ | .get _ => s
  | .invalidate resource => (s.invalidate resource).store
  | .clear => s.clear.store

/-- What operations leave, one after the other. -/
def run (s : Store) (ops : List Operation) : Store := ops.foldl perform s

theorem run_concat (s : Store) (ops : List Operation) (op : Operation) :
    s.run (ops ++ [op]) = (s.run ops).perform op := by
  rw [run, List.foldl_append]
  rfl

/-- An insertion fails with its buffering, and leaves the store alone then. Whether it does depends
on the exchange and not on the store. -/
theorem insert_cases (s : Store) (strategy : Strategy) (request : Request) (response : Response)
    (streams : Streams) :
    (∃ e, (buffer strategy (Key.ofExchange request response.headers) response streams).result
        = .error e ∧
      (s.insert strategy request response streams).result = .error e ∧
      (s.insert strategy request response streams).store = s) ∨
    ∃ kept, (buffer strategy (Key.ofExchange request response.headers) response streams).result
        = .ok kept ∧
      (s.insert strategy request response streams).result = .ok kept ∧
      (s.insert strategy request response streams).store
        = ((s.removeVariant (Key.ofExchange request response.headers)).put
            (Key.ofExchange request response.headers) (strategy.createItem kept)).store := by
  simp only [insert]
  cases (buffer strategy (Key.ofExchange request response.headers) response streams).result with
  | error e => exact Or.inl ⟨e, rfl, rfl, rfl⟩
  | ok kept => exact Or.inr ⟨kept, rfl, rfl, rfl⟩

/-- What an operation leaves, by its effect. A write takes the old variant out first, or not. -/
theorem perform_cases (s : Store) (op : Operation) :
    (∃ w, op.effect = .write w ∧
      (s.perform op = ((s.removeVariant w.key).put w.key w.item).store ∨
        s.perform op = (s.put w.key w.item).store)) ∨
    (∃ resource, op.effect = .invalidate resource ∧
      s.perform op = (s.invalidate resource).store) ∨
    (op.effect = .clear ∧ s.perform op = s.clear.store) ∨
    (op.effect = .nothing ∧ s.perform op = s) := by
  cases op with
  | insert strategy request response streams =>
    rcases insert_cases s strategy request response streams with
      ⟨e, hb, -, hs⟩ | ⟨kept, hb, -, hs⟩
    · refine Or.inr (Or.inr (Or.inr ⟨?_, hs⟩))
      simp only [Operation.effect, hb]
    · refine Or.inl ⟨⟨request, response, strategy.createItem kept⟩, ?_, Or.inl hs⟩
      simp only [Operation.effect, hb]
  | update strategy request response => exact Or.inl ⟨_, rfl, Or.inr rfl⟩
  | lookup request => exact Or.inr (Or.inr (Or.inr ⟨rfl, rfl⟩))
  | get key => exact Or.inr (Or.inr (Or.inr ⟨rfl, rfl⟩))
  | invalidate resource => exact Or.inr (Or.inl ⟨resource, rfl, rfl⟩)
  | clear => exact Or.inr (Or.inr (Or.inl ⟨rfl, rfl⟩))

variable {s : Store}

theorem bounds_perform (s : Store) (op : Operation) :
    (s.perform op).capacity = s.capacity ∧
      (s.perform op).variantCapacity = s.variantCapacity := by
  rcases perform_cases s op with ⟨w, -, hs | hs⟩ | ⟨resource, -, hs⟩ | ⟨-, hs⟩ | ⟨-, hs⟩
  · rw [hs, capacity_put, capacity_removeVariant, variantCapacity_put,
      variantCapacity_removeVariant]
    exact ⟨rfl, rfl⟩
  · rw [hs, capacity_put, variantCapacity_put]
    exact ⟨rfl, rfl⟩
  · rw [hs]
    exact capacity_invalidate s resource
  · rw [hs, clear_store]
    exact ⟨rfl, rfl⟩
  · rw [hs]
    exact ⟨rfl, rfl⟩

theorem valid_perform (h : s.Valid) (op : Operation) : (s.perform op).Valid := by
  rcases perform_cases s op with ⟨w, -, hs | hs⟩ | ⟨resource, -, hs⟩ | ⟨-, hs⟩ | ⟨-, hs⟩
  · rw [hs]
    exact valid_put (valid_removeVariant h w.key) w.key w.item
  · rw [hs]
    exact valid_put h w.key w.item
  · rw [hs]
    exact valid_invalidate h resource
  · rw [hs, clear_store]
    exact valid_empty h.resources.positive h.variantCapacity_pos
  · rw [hs]
    exact h

/-- An operation does to the layout what its effect does. -/
theorem layout_perform (h : s.Valid) (op : Operation) :
    (s.perform op).layout
      = Layout.apply s.capacity s.variantCapacity s.layout op.effect := by
  rcases perform_cases s op with ⟨w, he, hs | hs⟩ | ⟨resource, he, hs⟩ | ⟨he, hs⟩ | ⟨he, hs⟩
  · -- what an insertion takes out first is what its write would replace
    rw [he, hs, layout_put (valid_removeVariant h w.key), capacity_removeVariant,
      variantCapacity_removeVariant, layout_removeVariant h]
    exact Layout.write_remove _ _ h.distinct w.key w.item
  · rw [he, hs]
    exact layout_put h w.key w.item
  · rw [he, hs]
    exact layout_invalidate h resource
  · rw [he, hs, clear_store]
    rfl
  · rw [he, hs]
    rfl

/-! ## Whole runs -/

theorem bounds_run (s : Store) (ops : List Operation) :
    (s.run ops).capacity = s.capacity ∧ (s.run ops).variantCapacity = s.variantCapacity := by
  induction ops using List.reverseRecOn with
  | nil => exact ⟨rfl, rfl⟩
  | append_singleton ops op ih =>
    rw [run_concat]
    obtain ⟨hc, hv⟩ := bounds_perform (s.run ops) op
    exact ⟨hc.trans ih.1, hv.trans ih.2⟩

theorem valid_run (h : s.Valid) (ops : List Operation) : (s.run ops).Valid := by
  induction ops using List.reverseRecOn with
  | nil => exact h
  | append_singleton ops op ih =>
    rw [run_concat]
    exact valid_perform ih op

/-- A run from nothing leaves what the effects of its operations leave. -/
theorem layout_run {capacity variantCapacity : Nat} (hc : 0 < capacity) (hv : 0 < variantCapacity)
    (ops : List Operation) :
    ((empty capacity variantCapacity).run ops).layout
      = Layout.after capacity variantCapacity (effects ops) := by
  induction ops using List.reverseRecOn with
  | nil => rfl
  | append_singleton ops op ih =>
    -- every operation works within the bounds of the empty store
    obtain ⟨hcap, hvcap⟩ := bounds_run (empty capacity variantCapacity) ops
    rw [run_concat, layout_perform (valid_run (valid_empty hc hv) ops), hcap, hvcap, ih]
    unfold effects
    rw [List.map_append, List.map_singleton, Layout.after_concat]
    rfl

end Store

/-! ## Small exchanges

What short runs are made of. -/

/-- A response that says by which header it was chosen. -/
def Response.chosenBy (name : String) : Response where
  headers := ⟨[⟨"vary", name⟩]⟩

/-- Two variants of one page, and two more pages. -/
def crowded : List Operation :=
  [.update (.standard 0) (.forPage "a" [⟨"accept-language", "en"⟩]) (.chosenBy "accept-language"),
    .update (.standard 1) (.forPage "a" [⟨"accept-language", "fr"⟩]) (.chosenBy "accept-language"),
    .insert (.standard 2) (.forPage "b" []) {} {},
    .insert (.standard 3) (.forPage "c" []) {} {}]

end VariantStore
