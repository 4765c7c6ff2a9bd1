import VariantStore.Proofs.Store.Eviction
import VariantStore.Proofs.Store.History

/-!
# The log accounts for every stored variant

Whatever a store was through, what goes is logged, and what is logged goes. A write names the
resource or the variant that was written least recently, if there was no room, and nothing else
changes but what it writes (`Accounts`). Removals say how many variants or resources they took out.
-/

namespace VariantStore

open Recency

namespace Store

variable {s : Store}

/-- What is logged for a write under a key accounts for all that changed. It is nothing or one
eviction: of the oldest resource, with the number of its variants, if a new resource met a full
store, or of the oldest variant, if a new variant met a full resource. What the event names is all
that goes: other keys keep their items, and other resources their variants and their order. -/
structure Accounts (history : List Write) (before after : Store) (key : Key) (item : Item)
    (events : List Event) : Prop where
  single : events.length ≤ 1
  kinds : ∀ e ∈ events, (∃ resource variants, e = .evictedResource resource variants) ∨
    ∃ resource selector, e = .evictedVariant resource selector
  resource : (∃ resource variants, .evictedResource resource variants ∈ events) ↔
    key.resource ∉ before.resources.keys ∧ before.resourceCount = before.capacity
  oldestResource : ∀ resource count, .evictedResource resource count ∈ events →
    (∃ variants, before.resources.get? resource = some variants ∧ count = variants.size) ∧
      ∀ other ∈ before.resources.keys, resourceAge history other ≤ resourceAge history resource
  variant : (∃ resource selector, .evictedVariant resource selector ∈ events) ↔
    ∃ variants, before.resources.get? key.resource = some variants ∧
      variants.size = before.variantCapacity ∧ key.selector ∉ variants.keys
  oldestVariant : ∀ resource selector, .evictedVariant resource selector ∈ events →
    resource = key.resource ∧ (before.get? ⟨resource, selector⟩).isSome ∧
      ∀ other, (before.get? ⟨resource, other⟩).isSome →
        keyAge history ⟨resource, other⟩ ≤ keyAge history ⟨resource, selector⟩
  get? : ∀ other, after.get? other = if other = key then some item
    else if events.any (Event.drops other) then none else before.get? other
  others : others key.resource after.layout
    = (others key.resource before.layout).filter fun e => !events.any (Event.dropsResource e.1)
  size : after.size + (events.map Event.dropped).sum
    = before.size + if (before.get? key).isSome then 0 else 1

/-- A write accounts for what it changes, as long as the store tells of the history. -/
theorem accounts_put (h : s.Valid) {history : List Write} (hrec : Recorded history s.layout)
    (key : Key) (item : Item) :
    Accounts history s (s.put key item).store key item (s.evictions key item) where
  single := by
    rcases evictions_cases h key item with ⟨-, -, he⟩ | ⟨e, -, -, he⟩ | ⟨f, -, -, he⟩
    · simp [he]
    · simp [he]
    · simp [he]
  kinds := by
    rcases evictions_cases h key item with ⟨-, -, he⟩ | ⟨e, -, -, he⟩ | ⟨f, -, -, he⟩
    · simp [he]
    · simp [he]
    · simp [he]
  resource := by
    rw [← exists_goingResource_iff h]
    simp only [mem_evictions_resource h]
    constructor
    · rintro ⟨resource, count, e, he, -, -⟩
      exact ⟨e, he⟩
    · rintro ⟨e, he⟩
      exact ⟨e.1, e.2.size, e, he, rfl, rfl⟩
  oldestResource := by
    intro resource count hmem
    obtain ⟨e, he, rfl, rfl⟩ := (mem_evictions_resource h).mp hmem
    have hages := hrec.resources
    rw [map_fst_layout] at hages
    obtain ⟨hstored, holdest⟩ :=
      oldest_of_getLast? hages (BoundedMap.getLast?_of_evicted_makeRoom he)
    refine ⟨⟨e.2, h.resources.get?_eq_some_iff.mpr hstored, rfl⟩, fun other hother => ?_⟩
    obtain ⟨e', he', rfl⟩ := List.mem_map.mp hother
    exact holdest e' he'
  variant := by
    rw [← exists_goingVariant_iff h]
    simp only [mem_evictions_variant h]
    constructor
    · rintro ⟨resource, selector, -, f, hf, -⟩
      exact ⟨f, hf⟩
    · rintro ⟨f, hf⟩
      exact ⟨key.resource, f.1, rfl, f, hf, rfl⟩
  oldestVariant := by
    intro resource selector hmem
    obtain ⟨rfl, f, hf, rfl⟩ := (mem_evictions_variant h).mp hmem
    have hages := hrec.variants_of key.resource
    rw [← entries_found] at hages
    obtain ⟨hstored, holdest⟩ :=
      oldest_of_getLast? hages (BoundedMap.getLast?_of_evicted_makeRoom hf)
    have hget : ∀ other item, s.get? ⟨key.resource, other⟩ = some item ↔
        (other, item) ∈ (s.found key.resource).entries := by
      intro other item
      rw [← get?_found]
      exact (valid_found h key.resource).get?_eq_some_iff
    refine ⟨rfl, Option.isSome_iff_exists.mpr ⟨f.2, (hget f.1 f.2).mpr hstored⟩, ?_⟩
    intro other hother
    obtain ⟨item', hitem⟩ := Option.isSome_iff_exists.mp hother
    exact holdest (other, item') ((hget other item').mp hitem)
  get? := get?_put h key item
  others := others_layout_put h key item
  size := size_put h key item

/-! ## Removals -/

theorem invalidate_of_none {resource : ResourceId} (h : s.resources.get? resource = none) :
    s.invalidate resource = ⟨s, []⟩ := by
  simp only [invalidate, h]

theorem trace_invalidate {resource : ResourceId} {variants : Variants}
    (h : s.resources.get? resource = some variants) :
    (s.invalidate resource).trace = [.event (.invalidated resource variants.size)] := by
  simp [invalidate, h, keysOf, BoundedMap.keys, BoundedMap.size]

theorem get?_invalidate (h : s.Valid) (resource : ResourceId) (key : Key) :
    (s.invalidate resource).store.get? key
      = if key.resource = resource then none else s.get? key := by
  rw [get?_eq_layout, get?_eq_layout, layout_invalidate h]
  by_cases heq : key.resource = resource
  · have hnone : value? key.resource (others resource s.layout) = none := by
      rw [value?_eq_none_iff, heq]
      simp
    rw [if_pos heq, hnone]
    rfl
  · rw [if_neg heq, value?_others_of_ne heq]

/-- The variants of the resource are as many as are missing afterwards. -/
theorem size_invalidate (h : s.Valid) {resource : ResourceId} {variants : Variants}
    (hget : s.resources.get? resource = some variants) :
    (s.invalidate resource).store.size + variants.size = s.size := by
  have hsum := sum_eq_value?_add_others h.distinct resource fun e => e.2.length
  rw [value?_layout, hget] at hsum
  rw [size_eq_sum, size_eq_sum, layout_invalidate h, hsum]
  simp only [Option.map_some, Option.toList_some, List.map_cons, List.map_nil, List.sum_cons,
    List.sum_nil, BoundedMap.size]
  omega

/-! ## Runs -/

/-- After any run, what an operation logs accounts for what it changes. A write logs itself and then
what it evicts. Taking out a resource logs how many variants it had, if it was known, and taking out
all logs how many resources there were. -/
theorem account_of_run {capacity variantCapacity : Nat} (hc : 0 < capacity)
    (hv : 0 < variantCapacity) (ops : List Operation) :
    let s := (empty capacity variantCapacity).run ops
    let history := writes (effects ops)
    (∀ strategy request response streams stored,
      let key := Key.ofExchange request response.headers
      let left := s.insert strategy request response streams
      left.result = .ok stored →
        ∃ evicted, left.trace.events = .inserting key stored.status :: evicted ∧
          Accounts history s left.store key (strategy.createItem stored) evicted) ∧
    (∀ strategy request response,
      let key := Key.ofExchange request response.headers
      let left := s.update strategy request response
      ∃ evicted, left.trace.events = .updating key response.status :: evicted ∧
        Accounts history s left.store key (strategy.createItem response) evicted) ∧
    (∀ resource, s.resources.get? resource = none →
      (s.invalidate resource).trace.events = [] ∧ (s.invalidate resource).store = s) ∧
    (∀ resource variants, s.resources.get? resource = some variants →
      (s.invalidate resource).trace.events = [.invalidated resource variants.size] ∧
      (s.invalidate resource).store.size + variants.size = s.size ∧
      ∀ key, (s.invalidate resource).store.get? key
        = if key.resource = resource then none else s.get? key) ∧
    s.clear.trace.events = [.cleared s.resourceCount] ∧ s.clear.store.size = 0 ∧
      ∀ key, s.clear.store.get? key = none := by
  intro s history
  have hvalid : s.Valid := valid_run (valid_empty hc hv) ops
  have hrec : Recorded history s.layout := recorded_run hc hv ops
  refine ⟨?_, ?_, ?_, ?_, ?_⟩
  · intro strategy request response streams stored key left hstored
    have hkept := s.insert_eq_ok_iff.mp hstored
    have hleft : left = _ := s.insert_of_kept hkept
    refine ⟨_, (s.trace_insert_of_kept hkept).1, ?_⟩
    rw [evictions_removeVariant hvalid, hleft]
    simp only [store_put_removeVariant hvalid]
    exact accounts_put hvalid hrec key _
  · intro strategy request response key left
    refine ⟨s.evictions key (strategy.createItem response), ?_, accounts_put hvalid hrec key _⟩
    have htrace : left.trace = [.call (.createItem response), .event (.updating key response.status)]
        ++ (s.put key (strategy.createItem response)).trace := rfl
    rw [htrace, Trace.events_append, trace_put, Trace.events_map_event]
    rfl
  · intro resource hget
    rw [invalidate_of_none hget]
    exact ⟨rfl, rfl⟩
  · intro resource variants hget
    rw [trace_invalidate hget]
    exact ⟨rfl, size_invalidate hvalid hget, get?_invalidate hvalid resource⟩
  · rw [clear_store]
    refine ⟨?_, rfl, fun key => rfl⟩
    simp [clear, Trace.events, resourceCount, BoundedMap.keys, BoundedMap.size]

/-- A new page makes the oldest one go, with both of its variants. -/
theorem account_of_crowded :
    let s := (empty 2 2).run (crowded.take 3)
    let left := s.update (.standard 3) (.forPage "c" []) {}
    let oldest := (Request.forPage "a" []).resource
    left.trace.events = [.updating (.ofExchange (.forPage "c" []) {}) .ok,
        .evictedResource oldest 2] ∧
      left.store.size + 2 = s.size + 1 ∧
      ∀ selector, left.store.get? ⟨oldest, selector⟩ = none := by
  intro s left oldest
  have htwo : 0 < 2 := by decide
  obtain ⟨-, hupdate, -⟩ := account_of_run htwo htwo (crowded.take 3)
  obtain ⟨evicted, hevents, haccounts⟩ := hupdate (.standard 3) (.forPage "c" []) {}
  have hlogged : left.trace.events = [.updating (.ofExchange (.forPage "c" []) {}) .ok,
      .evictedResource oldest 2] := by
    decide +kernel
  obtain ⟨-, rfl⟩ := List.cons.inj (hevents.symm.trans hlogged)
  have hnew : ¬ (s.get? (.ofExchange (.forPage "c" []) {})).isSome = true := by decide +kernel
  have hother : oldest ≠ (Request.forPage "c" []).resource := by decide +kernel
  refine ⟨hlogged, haccounts.size.trans (congrArg (s.size + ·) (if_neg hnew)), fun selector => ?_⟩
  have hdrops : [Event.evictedResource oldest 2].any (Event.drops ⟨oldest, selector⟩) = true := by
    simp [Event.drops, Event.dropsResource]
  refine (haccounts.get? ⟨oldest, selector⟩).trans ?_
  rw [if_neg fun heq => hother (congrArg Key.resource heq), if_pos hdrops]

end Store

end VariantStore
