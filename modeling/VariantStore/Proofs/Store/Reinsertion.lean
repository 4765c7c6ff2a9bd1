import VariantStore.Proofs.Body.Collecting
import VariantStore.Proofs.Store.Overwriting

/-!
# Inserting again what an insertion gave back

What an insertion gives back has its bytes in memory, and they are within the limit, so it can be
inserted again and comes back as it is (`kept_of_kept`). The headers are the same, so it goes under
the same key. That key has just been written: nothing has to go for it, and the second write leaves
what it alone would have left (`put_put`). All that changes is the time at which the item was stored
(`reinsertion_of_run`).
-/

namespace VariantStore

open Recency

/-! ## Writing twice -/

namespace Layout

theorem variants_write {c : Nat} (hc : 0 < c) (v : Nat) (l : Layout) (key : Key) (item : Item) :
    variants (write c v l key item) key.resource
      = (renew key.selector item (variants l key.resource)).take v := by
  obtain ⟨n, rfl⟩ : ∃ n, c = n + 1 := ⟨c - 1, by omega⟩
  rw [variants, write, renew, List.take_succ_cons, value?_cons_self]
  rfl

theorem write_write {c : Nat} (hc : 0 < c) (v : Nat) {l : Layout} (hl : Distinct l) (key : Key)
    (hvs : Distinct (variants l key.resource)) (old new : Item) :
    write c v (write c v l key old) key new = write c v l key new := by
  have hvariants := variants_write hc v l key old
  rw [write, hvariants, take_renew_take (distinct_renew hvs key.selector old), renew_renew, write,
    take_renew_take (distinct_renew hl key.resource _), renew_renew]
  rfl

end Layout

namespace Store

variable {s : Store} {key : Key}

theorem put_put (h : s.Valid) (key : Key) (old new : Item) :
    ((s.put key old).store.put key new).store = (s.put key new).store := by
  have hwritten := valid_put h key old
  have hvs : Distinct (Layout.variants s.layout key.resource) := by
    rw [← entries_found]
    exact (valid_found h key.resource).distinct
  refine (valid_put hwritten key new).ext (valid_put h key new) ?_ ?_ ?_
  · rw [capacity_put, capacity_put, capacity_put]
  · rw [variantCapacity_put, variantCapacity_put, variantCapacity_put]
  · rw [layout_put hwritten, layout_put h, layout_put h, capacity_put, variantCapacity_put,
      Layout.write_write (show 0 < s.capacity from h.resources.positive) _ h.distinct _ hvs]

/-- Nothing goes for a key that is stored. -/
theorem evictions_of_stored (h : s.Valid) {old : Item} (hget : s.get? key = some old)
    (item : Item) : s.evictions key item = [] := by
  obtain ⟨variants, hvariants, hitem⟩ := Option.bind_eq_some_iff.mp hget
  rcases evictions_cases h key item with ⟨-, -, he⟩ | ⟨e, hgoing, -, -⟩ | ⟨f, -, hgoing, -⟩
  · exact he
  · obtain ⟨hnew, -⟩ := (exists_goingResource_iff h).mp ⟨e, hgoing⟩
    rw [BoundedMap.get?_eq_none_iff_not_mem.mpr hnew] at hvariants
    cases hvariants
  · obtain ⟨variants', hvariants', -, hnew⟩ := (exists_goingVariant_iff h).mp ⟨f, hgoing⟩
    obtain rfl : variants = variants' := Option.some.inj (hvariants.symm.trans hvariants')
    rw [BoundedMap.get?_eq_none_iff_not_mem.mpr hnew] at hitem
    cases hitem

/-- Writing another item under a stored key changes no other key. -/
theorem get?_put_congr (h : s.Valid) {other : Key} (hne : other ≠ key) (old new : Item) :
    (s.put key new).store.get? other = (s.put key old).store.get? other := by
  rw [get?_put h, get?_put h, if_neg hne, if_neg hne, evictions_congr h key new old]

end Store

/-! ## Buffering twice -/

namespace Store

variable {s : Store} {key key' : Key} {limit : Option Nat} {now : Int} {request : Request}
  {response kept : Response} {streams : Streams}

/-- What was kept of a response is kept as it is. -/
theorem kept_of_kept (h : Kept (.buffering limit now) key response streams kept) (now' : Int)
    (key' : Key) (later : Streams) : Kept (.buffering limit now') key' kept later kept := by
  rw [kept_buffering_iff] at h ⊢
  rcases h with ⟨hnone, rfl⟩ | ⟨p, source, opened, content, -, -, hcollect, rfl⟩
  · exact Or.inl ⟨hnone, rfl⟩
  · exact Or.inr ⟨_, _, later, content, rfl, rfl, Source.collect_ofBytes hcollect, rfl⟩

/-! ## Inserting twice -/

/-- After any run, what an insertion gave back can be inserted again, at whatever time and whatever
has become of the streams. It is given back as it is and goes under the same key. Nothing is evicted,
both levels keep their order, and all other keys keep their items. Under the key itself stands the
same response; it is the very same store if no time has passed. -/
theorem reinsertion_of_run {capacity variantCapacity : Nat} (hc : 0 < capacity)
    (hv : 0 < variantCapacity) (ops : List Operation) (limit : Option Nat) (now : Int)
    (request : Request) (response : Response) (streams : Streams) :
    let s := (empty capacity variantCapacity).run ops
    let key := Key.ofExchange request response.headers
    let left := s.insert (.buffering limit now) request response streams
    ∀ stored, left.result = .ok stored →
      Key.ofExchange request stored.headers = key ∧
      left.store.get? key = some ⟨stored, now⟩ ∧
      ∀ now' later,
        let again := left.store.insert (.buffering limit now') request stored later
        again.result = .ok stored ∧
        again.trace.events = [.inserting key stored.status] ∧
        again.store.order = left.store.order ∧
        (∀ other, other ≠ key → again.store.get? other = left.store.get? other) ∧
        again.store.get? key = some ⟨stored, now'⟩ ∧
        (now' = now → again.store = left.store) := by
  intro s key left stored hstored
  have hvalid : s.Valid := valid_run (valid_empty hc hv) ops
  have hkept : Kept (.buffering limit now) key response streams stored :=
    s.insert_eq_ok_iff.mp hstored
  have hkey : Key.ofExchange request stored.headers = key := by
    rw [hkept.head.2]
  have hleft : left.store = (s.put key ⟨stored, now⟩).store := store_insert_of_kept hvalid hkept
  have hget : left.store.get? key = some ⟨stored, now⟩ := by
    rw [hleft, get?_put_self]
  refine ⟨hkey, hget, fun now' later => ?_⟩
  intro again
  have hleftValid : left.store.Valid := by
    rw [hleft]
    exact valid_put hvalid key _
  have hagain : Kept (.buffering limit now') (.ofExchange request stored.headers) stored later
      stored := kept_of_kept hkept now' _ later
  have hevents : again.trace.events = _ := events_insert_of_kept hleftValid hagain
  have hstore : again.store = (s.put key ⟨stored, now'⟩).store := by
    have hput : again.store = _ := store_insert_of_kept hleftValid hagain
    rw [hput, hkey, hleft]
    exact put_put hvalid key _ _
  refine ⟨left.store.insert_eq_ok_iff.mpr hagain, ?_, ?_, fun other hne => ?_, ?_, ?_⟩
  · rw [hevents, hkey, evictions_of_stored hleftValid hget]
  · rw [hstore, hleft]
    exact order_put_congr hvalid key _ _
  · rw [hstore, hleft]
    exact get?_put_congr hvalid hne _ _
  · rw [hstore, get?_put_self]
  · rintro rfl
    rw [hstore, hleft]

/-- A stream as long as the limit, for the only variant of a page, where there is no room for
another page. It is gone when the response is inserted again. -/
theorem reinsertion_of_crowded :
    let s := (empty 2 1).run crowded
    let streams : Streams := ⟨[some [.bytes [1, 2], .failure ⟨.interrupted, ""⟩, .bytes [3]]]⟩
    let stored : Response := { payload := some (.buffered "text/plain" [1, 2, 3]) }
    let left := s.insert (.buffering (some 3) 9) (.forPage "b" [])
      { payload := some (.stream "text/plain" none 0) } streams
    let again := left.store.insert (.buffering (some 3) 10) (.forPage "b" []) stored left.streams
    s.resourceCount = 2 ∧ left.result = .ok stored ∧ again.result = .ok stored ∧
      again.trace.events = [.inserting (.ofExchange (.forPage "b" []) {}) .ok] ∧
      again.store.order = left.store.order := by
  intro s streams stored left again
  have hstored : left.result = .ok stored := by
    refine s.insert_eq_ok_iff.mpr (kept_buffering_iff.mpr (Or.inr ?_))
    exact ⟨_, _, _, [1, 2, 3], rfl, rfl, rfl, rfl⟩
  obtain ⟨-, -, htwice⟩ := reinsertion_of_run (by decide : 0 < 2) (by decide : 0 < 1) crowded
    (some 3) 9 (.forPage "b" []) { payload := some (.stream "text/plain" none 0) } streams stored
    hstored
  obtain ⟨hresult, hevents, horder, -⟩ := htwice 10 left.streams
  exact ⟨by decide +kernel, hstored, hresult, hevents, horder⟩

end Store

end VariantStore
