import VariantStore.Proofs.Store.Eviction
import VariantStore.Proofs.Store.Replay

/-!
# An insertion leaves what an update leaves

An insertion takes the old variant out before it writes the new one, an update writes over it. On the
way the resource may go and come back, and a full store may have room for a moment. In the end
nothing of this shows (`put_removeVariant`): the store and the log are those of the write alone.

So the two differ in the item at most (`overwriting_of_run`), since an insertion keeps a payload that
was buffered. They do not differ at all if there was nothing to buffer.
-/

namespace VariantStore

attribute [ext] Change

namespace Store

variable {s : Store} {key : Key}

/-! ## The order of what is stored -/

/-- The keys on both levels, each in the order of the last writes. -/
def order (s : Store) : List (ResourceId × List Selector) :=
  s.resources.entries.map fun e => (e.1, e.2.keys)

theorem order_eq_layout (s : Store) :
    s.order = s.layout.map fun e => (e.1, e.2.map Prod.fst) := by
  simp [order, layout, BoundedMap.keys, Function.comp_def]

/-- The order after a write depends on the key alone. -/
theorem order_put_congr (h : s.Valid) (key : Key) (item item' : Item) :
    (s.put key item).store.order = (s.put key item').store.order := by
  rw [order_eq_layout, order_eq_layout, layout_put h, layout_put h]
  simp only [Layout.write, Recency.renew, List.map_take, List.map_cons]

theorem evictions_congr (h : s.Valid) (key : Key) (item item' : Item) :
    s.evictions key item = s.evictions key item' := by
  rw [evictions_eq h, evictions_eq h]

/-! ## Taking out before writing -/

/-- What is taken out before it is written is not missed, neither in the store nor in the log. -/
theorem put_removeVariant (h : s.Valid) (key : Key) (item : Item) :
    (s.removeVariant key).put key item = s.put key item := by
  refine Change.ext (store_put_removeVariant h key item) ?_
  rw [trace_put, trace_put, evictions_removeVariant h]

/-! ## Insertions and updates -/

section Exchange

variable {strategy : Strategy} {request : Request} {response kept : Response} {streams : Streams}

theorem store_insert_of_kept (h : s.Valid)
    (hkept : Kept strategy (.ofExchange request response.headers) response streams kept) :
    (s.insert strategy request response streams).store
      = (s.put (.ofExchange request response.headers) (strategy.createItem kept)).store := by
  rw [s.insert_of_kept hkept]
  exact store_put_removeVariant h _ _

theorem events_insert_of_kept (h : s.Valid)
    (hkept : Kept strategy (.ofExchange request response.headers) response streams kept) :
    (s.insert strategy request response streams).trace.events
      = .inserting (.ofExchange request response.headers) kept.status
        :: s.evictions (.ofExchange request response.headers) (strategy.createItem kept) := by
  rw [(s.trace_insert_of_kept hkept).1, evictions_removeVariant h]

theorem events_update (s : Store) (strategy : Strategy) (request : Request)
    (response : Response) :
    (s.update strategy request response).trace.events
      = .updating (.ofExchange request response.headers) response.status
        :: s.evictions (.ofExchange request response.headers) (strategy.createItem response) := by
  have htrace : (s.update strategy request response).trace
      = [.call (.createItem response),
          .event (.updating (.ofExchange request response.headers) response.status)]
        ++ (s.put (.ofExchange request response.headers) (strategy.createItem response)).trace :=
    rfl
  rw [htrace, Trace.events_append, trace_put, Trace.events_map_event]
  rfl

/-- Bytes that are in memory are kept as they are. -/
theorem kept_of_buffered {now : Int} (h : ∀ p ∈ response.payload, p.isBuffered = true) :
    Kept (.standard now) key response streams response := by
  rw [kept_standard_iff]
  cases hp : response.payload with
  | none => exact Or.inl ⟨rfl, rfl⟩
  | some p =>
    obtain ⟨mime, content, rfl⟩ : ∃ mime content, p = .buffered mime content := by
      have hbuffered := h p hp
      cases p with
      | buffered mime content => exact ⟨mime, content, rfl⟩
      | stream mime declared number => cases hbuffered
      | replayable mime declared opening available => cases hbuffered
    refine Or.inr ⟨_, content, rfl, ?_, ?_⟩
    · rw [Payload.read_buffered]
    · rw [Response.withPayload, Payload.mime, ← hp]

end Exchange

/-! ## Runs -/

/-- After any run, taking a variant out before it is written changes nothing. An insertion that
succeeds leaves the keys and their order that an update leaves, and logs the same evictions. If the
payload is in memory already, or there is none, the standard insertion succeeds and leaves the very
store that the update leaves. -/
theorem overwriting_of_run {capacity variantCapacity : Nat} (hc : 0 < capacity)
    (hv : 0 < variantCapacity) (ops : List Operation) :
    let s := (empty capacity variantCapacity).run ops
    (∀ key item, (s.removeVariant key).put key item = s.put key item) ∧
    (∀ strategy request response streams stored,
      let key := Key.ofExchange request response.headers
      let inserted := s.insert strategy request response streams
      let updated := s.update strategy request response
      inserted.result = .ok stored →
        inserted.store.order = updated.store.order ∧
        ∃ evicted, inserted.trace.events = .inserting key stored.status :: evicted ∧
          updated.trace.events = .updating key response.status :: evicted) ∧
    (∀ now request response streams,
      (∀ p ∈ response.payload, p.isBuffered = true) →
        let inserted := s.insert (.standard now) request response streams
        inserted.result = .ok response ∧
        inserted.store = (s.update (.standard now) request response).store) := by
  intro s
  have hvalid : s.Valid := valid_run (valid_empty hc hv) ops
  refine ⟨put_removeVariant hvalid, ?_, ?_⟩
  · intro strategy request response streams stored key inserted updated hstored
    have hkept := s.insert_eq_ok_iff.mp hstored
    refine ⟨?_, s.evictions key (strategy.createItem stored),
      events_insert_of_kept hvalid hkept, ?_⟩
    · rw [show inserted.store = _ from store_insert_of_kept hvalid hkept]
      exact order_put_congr hvalid key _ _
    · rw [show updated.trace.events = _ from events_update s strategy request response]
      congr 1
      exact evictions_congr hvalid key _ _
  · intro now request response streams hbuffered inserted
    have hkept : Kept (.standard now) (.ofExchange request response.headers) response streams
        response := kept_of_buffered hbuffered
    exact ⟨s.insert_eq_ok_iff.mpr hkept, store_insert_of_kept hvalid hkept⟩

/-- The only variant of a page is written anew where there is no room for another one. -/
theorem overwriting_of_crowded :
    let s := (empty 2 1).run crowded
    let response : Response := { payload := some (.buffered "text/plain" [1, 2]) }
    let inserted := s.insert (.standard 4) (.forPage "b" []) response {}
    s.resourceCount = 2 ∧ inserted.result = .ok response ∧
      inserted.store = (s.update (.standard 4) (.forPage "b" []) response).store := by
  intro s response inserted
  have hbuffered : ∀ p ∈ response.payload, p.isBuffered = true := by
    intro p hp
    cases hp
    rfl
  obtain ⟨-, -, hsame⟩ := overwriting_of_run (by decide : 0 < 2) (by decide : 0 < 1) crowded
  exact ⟨by decide +kernel, hsame 4 (.forPage "b" []) response {} hbuffered⟩

end Store

end VariantStore
