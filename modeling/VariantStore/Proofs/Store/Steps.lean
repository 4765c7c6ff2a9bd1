import Mathlib.Algebra.Order.Ring.Nat
import VariantStore.Proofs.Recency.BoundedMap
import VariantStore.Proofs.Store.Layout
import VariantStore.Store.Basic

/-!
# What the steps of an operation do

A store is valid if both levels keep to their bounds and no resource is without a variant. Each step
keeps a valid store valid and does to its layout what the layout's own operation does:

* `valid_put` and `layout_put` for a write,
* `valid_removeVariant` and `layout_removeVariant` for the removal of one variant,
* `valid_invalidate` and `layout_invalidate` for the removal of a resource,
* `clear_store` for the removal of everything.

Queries read nothing but the layout.
-/

namespace VariantStore

open Recency

/-- The variants of a resource keep to the bound of the store, and there is one at least. -/
structure Filled (variantCapacity : Nat) (variants : Variants) : Prop where
  valid : BoundedMap.Valid variants
  capacity : variants.capacity = variantCapacity
  nonempty : variants.entries ≠ []

namespace Store

/-- Both levels keep to their bounds, and no resource is without a variant. -/
structure Valid (s : Store) : Prop where
  resources : s.resources.Valid
  variantCapacity_pos : 0 < s.variantCapacity
  filled : ∀ e ∈ s.resources.entries, Filled s.variantCapacity e.2

/-- What the store holds. -/
def layout (s : Store) : Layout := s.resources.entries.map fun e => (e.1, e.2.entries)

variable {s : Store}

theorem valid_empty {capacity variantCapacity : Nat} (hc : 0 < capacity)
    (hv : 0 < variantCapacity) : (empty capacity variantCapacity).Valid where
  resources := BoundedMap.valid_empty hc
  variantCapacity_pos := hv
  filled := by
    intro e he
    cases he

theorem map_fst_layout (s : Store) : s.layout.map Prod.fst = s.resources.keys := by
  simp [layout, BoundedMap.keys, Function.comp_def]

theorem Valid.distinct (h : s.Valid) : Distinct s.layout := by
  rw [Distinct, map_fst_layout]
  exact h.resources.distinct

/-- The variants of each resource have distinct selectors. -/
theorem Valid.distinct_of_mem (h : s.Valid) {e : ResourceId × List (Selector × Item)}
    (he : e ∈ s.layout) : Distinct e.2 := by
  obtain ⟨f, hf, rfl⟩ := List.mem_map.mp he
  exact (h.filled f hf).valid.distinct

/-! ## Queries -/

theorem value?_layout (s : Store) (resource : ResourceId) :
    value? resource s.layout = (s.resources.get? resource).map BoundedMap.entries :=
  value?_map BoundedMap.entries resource s.resources.entries

theorem get?_eq_layout (s : Store) (key : Key) :
    s.get? key = (value? key.resource s.layout).bind (value? key.selector) := by
  unfold get?
  rw [value?_layout]
  cases s.resources.get? key.resource <;> rfl

theorem Valid.get?_eq_some_iff (h : s.Valid) {key : Key} {item : Item} :
    s.get? key = some item ↔ ∃ vs, (key.resource, vs) ∈ s.layout ∧ (key.selector, item) ∈ vs := by
  rw [get?_eq_layout, Option.bind_eq_some_iff]
  constructor
  · rintro ⟨vs, hvs, hitem⟩
    have hmem := (value?_eq_some_iff h.distinct).mp hvs
    exact ⟨vs, hmem, (value?_eq_some_iff (h.distinct_of_mem hmem)).mp hitem⟩
  · rintro ⟨vs, hmem, hitem⟩
    exact ⟨vs, (value?_eq_some_iff h.distinct).mpr hmem,
      (value?_eq_some_iff (h.distinct_of_mem hmem)).mpr hitem⟩

/-- A look-up takes the first variant of the resource that accepts the request. -/
theorem lookup_eq_layout (s : Store) (request : Request) :
    (s.lookup request).1 = (value? request.resource s.layout).bind fun vs =>
      (vs.find? fun f => f.1.accepts request.headers).map Prod.snd := by
  unfold lookup
  rw [value?_layout]
  cases s.resources.get? request.resource <;> rfl

theorem resourceCount_eq_length (s : Store) : s.resourceCount = s.layout.length := by
  simp [resourceCount, BoundedMap.size, layout]

theorem size_eq_sum (s : Store) : s.size = (s.layout.map fun e => e.2.length).sum := by
  have hfold : ∀ (l : List Variants) (n : Nat),
      l.foldl (fun count variants => count + variants.size) n
        = n + (l.map fun variants => variants.size).sum := by
    intro l
    induction l with
    | nil => intro n; simp
    | cons v rest ih =>
      intro n
      rw [List.foldl_cons, ih, List.map_cons, List.sum_cons]
      omega
  rw [size, hfold, Nat.zero_add]
  simp [BoundedMap.values, BoundedMap.size, layout, Function.comp_def]

/-! ## Writing -/

/-- The variants of a resource once an item is written under a key. -/
def writtenVariants (s : Store) (key : Key) (item : Item) : Variants :=
  (((s.resources.get? key.resource).getD (.empty s.variantCapacity)).put key.selector item).map

theorem capacity_put (s : Store) (key : Key) (item : Item) :
    (s.put key item).store.capacity = s.capacity :=
  BoundedMap.capacity_entry s.resources key.resource _

theorem variantCapacity_put (s : Store) (key : Key) (item : Item) :
    (s.put key item).store.variantCapacity = s.variantCapacity := rfl

/-- The resource is renewed with the variants as they are after the write. -/
theorem entries_put (h : s.Valid) (key : Key) (item : Item) :
    (s.put key item).store.resources.entries
      = (renew key.resource (s.writtenVariants key item) s.resources.entries).take s.capacity := by
  simp only [put, BoundedMap.modify]
  rw [BoundedMap.entries_entry h.resources, BoundedMap.value_entry h.resources]
  exact BoundedMap.map_take_renew key.resource _ (fun _ => s.writtenVariants key item)
    s.resources.entries s.resources.capacity

/-- The variants that a write finds, or the ones that it starts with. -/
theorem Valid.found (h : s.Valid) (resource : ResourceId) :
    ((s.resources.get? resource).getD (.empty s.variantCapacity)).Valid ∧
      ((s.resources.get? resource).getD (.empty s.variantCapacity)).capacity
        = s.variantCapacity := by
  cases hr : s.resources.get? resource with
  | none => exact ⟨BoundedMap.valid_empty h.variantCapacity_pos, rfl⟩
  | some variants =>
    have hfilled := h.filled _ (h.resources.get?_eq_some_iff.mp hr)
    exact ⟨hfilled.valid, hfilled.capacity⟩

theorem entries_writtenVariants (h : s.Valid) (key : Key) (item : Item) :
    (s.writtenVariants key item).entries
      = (renew key.selector item (Layout.variants s.layout key.resource)).take
          s.variantCapacity := by
  obtain ⟨hvalid, hcap⟩ := h.found key.resource
  unfold writtenVariants Layout.variants
  rw [BoundedMap.entries_put hvalid, hcap, value?_layout]
  cases s.resources.get? key.resource <;> rfl

theorem filled_writtenVariants (h : s.Valid) (key : Key) (item : Item) :
    Filled s.variantCapacity (s.writtenVariants key item) where
  valid := BoundedMap.valid_put (h.found key.resource).1 key.selector item
  capacity := by
    unfold writtenVariants
    rw [BoundedMap.capacity_put, (h.found key.resource).2]
  nonempty := by
    rw [entries_writtenVariants h]
    have hpos := h.variantCapacity_pos
    simp only [ne_eq, List.take_eq_nil_iff, renew]
    rintro (hzero | hnil)
    · omega
    · cases hnil

theorem valid_put (h : s.Valid) (key : Key) (item : Item) : (s.put key item).store.Valid where
  resources := h.resources.renew (capacity_put s key item) (entries_put h key item)
  variantCapacity_pos := h.variantCapacity_pos
  filled := by
    intro e he
    rw [entries_put h] at he
    rcases mem_of_mem_renew (List.mem_of_mem_take he) with rfl | ⟨he, -⟩
    · exact filled_writtenVariants h key item
    · exact h.filled e he

/-- A write renews the variant and then the resource, each cut to its bound. -/
theorem layout_put (h : s.Valid) (key : Key) (item : Item) :
    (s.put key item).store.layout
      = Layout.write s.capacity s.variantCapacity s.layout key item := by
  unfold layout Layout.write
  rw [entries_put h, List.map_take, ← renew_map BoundedMap.entries, entries_writtenVariants h]
  rfl

/-! ## Taking out one variant -/

theorem capacity_removeVariant (s : Store) (key : Key) :
    (s.removeVariant key).capacity = s.capacity := by
  unfold removeVariant
  split
  · rfl
  · simp only []
    split <;> rfl

theorem variantCapacity_removeVariant (s : Store) (key : Key) :
    (s.removeVariant key).variantCapacity = s.variantCapacity := by
  unfold removeVariant
  split
  · rfl
  · simp only []
    split <;> rfl

/-- What taking out a variant does: nothing without its resource, which goes with its last variant
and stays where it stands otherwise. -/
theorem removeVariant_cases (s : Store) (key : Key) :
    (s.resources.get? key.resource = none ∧ s.removeVariant key = s) ∨
    ∃ variants, s.resources.get? key.resource = some variants ∧
      ((others key.selector variants.entries = [] ∧
        s.removeVariant key = { s with resources := s.resources.erase key.resource }) ∨
      (others key.selector variants.entries ≠ [] ∧ s.removeVariant key =
        { s with
          resources := s.resources.modify key.resource fun _ => variants.erase key.selector })) := by
  unfold removeVariant
  cases s.resources.get? key.resource with
  | none => exact Or.inl ⟨rfl, rfl⟩
  | some variants =>
    refine Or.inr ⟨variants, rfl, ?_⟩
    by_cases hempty : others key.selector variants.entries = []
    · exact Or.inl ⟨hempty, if_pos (List.isEmpty_iff.mpr hempty)⟩
    · exact Or.inr ⟨hempty, if_neg fun hc => hempty (List.isEmpty_iff.mp hc)⟩

theorem valid_removeVariant (h : s.Valid) (key : Key) : (s.removeVariant key).Valid := by
  rcases removeVariant_cases s key with ⟨-, he⟩ | ⟨variants, hget, ⟨-, he⟩ | ⟨hleft, he⟩⟩
  · rw [he]
    exact h
  · rw [he]
    exact ⟨h.resources.erase key.resource, h.variantCapacity_pos,
      fun e hmem => h.filled e (mem_others.mp hmem).1⟩
  · rw [he]
    refine ⟨h.resources.modify key.resource fun _ => variants.erase key.selector,
      h.variantCapacity_pos, ?_⟩
    intro e hmem
    obtain ⟨f, hf, rfl⟩ := List.mem_map.mp hmem
    split
    · have hfilled := h.filled _ (h.resources.get?_eq_some_iff.mp hget)
      exact ⟨hfilled.valid.erase key.selector, hfilled.capacity, hleft⟩
    · exact h.filled f hf

theorem layout_removeVariant (h : s.Valid) (key : Key) :
    (s.removeVariant key).layout = Layout.remove s.layout key := by
  -- the layout looks at the variants that stand in it, the store at those that it found
  have hvs : ∀ variants, s.resources.get? key.resource = some variants →
      ∀ e ∈ s.layout, e.1 = key.resource → e.2 = variants.entries := by
    intro variants hget e he heq
    have hmem : (e.1, variants.entries) ∈ s.layout := by
      rw [heq]
      exact List.mem_map_of_mem (h.resources.get?_eq_some_iff.mp hget)
    exact h.distinct.eq_of_mem he hmem
  rcases removeVariant_cases s key with ⟨hget, he⟩ | ⟨variants, hget, ⟨hleft, he⟩ | ⟨hleft, he⟩⟩
  · have hnot : key.resource ∉ s.layout.map Prod.fst := by
      rw [map_fst_layout]
      exact BoundedMap.get?_eq_none_iff_not_mem.mp hget
    rw [he, Layout.remove_eq_others, others_eq_self hnot]
    intro e hmem heq
    exact absurd (heq ▸ List.mem_map_of_mem hmem) hnot
  · rw [he, Layout.remove_eq_others]
    · exact (others_map BoundedMap.entries key.resource s.resources.entries).symm
    · intro e hmem heq
      rw [hvs variants hget e hmem heq, hleft]
  · -- the store changes the entry where it stands
    rw [he, Layout.remove_eq_map hleft]
    · unfold layout BoundedMap.modify
      rw [List.map_map, List.map_map]
      refine List.map_congr_left fun e _ => ?_
      simp only [Function.comp_apply]
      split <;> rfl
    · intro e hmem heq
      rw [hvs variants hget e hmem heq]

/-! ## Taking out a resource, or all -/

/-- Taking out variants one after the other. -/
theorem foldl_removeVariant (h : s.Valid) (keys : List Key) :
    (keys.foldl removeVariant s).Valid ∧
      (keys.foldl removeVariant s).layout = keys.foldl Layout.remove s.layout := by
  induction keys generalizing s with
  | nil => exact ⟨h, rfl⟩
  | cons key rest ih =>
    obtain ⟨hvalid, hlayout⟩ := ih (valid_removeVariant h key)
    rw [layout_removeVariant h key] at hlayout
    exact ⟨hvalid, hlayout⟩

theorem capacity_foldl_removeVariant (s : Store) (keys : List Key) :
    (keys.foldl removeVariant s).capacity = s.capacity ∧
      (keys.foldl removeVariant s).variantCapacity = s.variantCapacity := by
  induction keys generalizing s with
  | nil => exact ⟨rfl, rfl⟩
  | cons key rest ih =>
    obtain ⟨hc, hv⟩ := ih (s.removeVariant key)
    exact ⟨hc.trans (capacity_removeVariant s key), hv.trans (variantCapacity_removeVariant s key)⟩

theorem valid_invalidate (h : s.Valid) (resource : ResourceId) :
    (s.invalidate resource).store.Valid := by
  unfold invalidate
  split
  · exact h
  · exact (foldl_removeVariant h _).1

theorem capacity_invalidate (s : Store) (resource : ResourceId) :
    (s.invalidate resource).store.capacity = s.capacity ∧
      (s.invalidate resource).store.variantCapacity = s.variantCapacity := by
  unfold invalidate
  split
  · exact ⟨rfl, rfl⟩
  · exact capacity_foldl_removeVariant s _

/-- The loop over the variants of a resource takes out the resource and nothing else. -/
theorem layout_invalidate (h : s.Valid) (resource : ResourceId) :
    (s.invalidate resource).store.layout = others resource s.layout := by
  unfold invalidate
  cases hget : s.resources.get? resource with
  | none =>
    refine (others_eq_self ?_).symm
    rw [map_fst_layout]
    exact BoundedMap.get?_eq_none_iff_not_mem.mp hget
  | some variants =>
    have hmem := h.resources.get?_eq_some_iff.mp hget
    have hfilled := h.filled _ hmem
    have hvariants : Layout.variants s.layout resource = variants.entries :=
      Layout.variants_of_mem h.distinct (List.mem_map_of_mem hmem)
    have hkeys : keysOf resource variants
        = variants.entries.map fun f => Key.mk resource f.1 := by
      simp [keysOf, BoundedMap.keys, Function.comp_def]
    show ((keysOf resource variants).foldl removeVariant s).layout = _
    rw [(foldl_removeVariant h _).2, hkeys]
    exact Layout.foldl_remove h.distinct hfilled.valid.distinct hvariants
      fun hnil => absurd hnil hfilled.nonempty

/-- The loop over all resources leaves a store as it was made. -/
theorem clear_store (s : Store) : s.clear.store = empty s.capacity s.variantCapacity :=
  congrArg (Store.mk s.variantCapacity) (BoundedMap.foldl_erase_eq_empty fun _ => id)

end Store

end VariantStore
