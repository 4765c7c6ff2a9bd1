import VariantStore.Proofs.Recency.Eviction
import VariantStore.Proofs.Store.Insertion

/-!
# What a write evicts, and what it logs

A write makes at most one resource go, or one variant (`evictions_cases`), and what it logs names
exactly that. So the log tells which keys are found afterwards (`get?_put`), what becomes of the
other resources (`others_layout_put`) and how many variants there are (`size_put`).

An insertion takes a variant out before it writes it. That changes neither what is stored in the end
nor what is logged (`store_put_removeVariant`, `evictions_removeVariant`).
-/

namespace VariantStore

open Recency

/-! ## What an event says -/

namespace Event

/-- The event says that the resource was evicted. -/
def dropsResource (resource : ResourceId) : Event → Bool
  | .evictedResource r _ => r == resource
  | _ => false

/-- The event says that the key was evicted, by itself or with its resource. -/
def drops (key : Key) : Event → Bool
  | .evictedVariant resource selector => Key.mk resource selector == key
  | e => e.dropsResource key.resource

/-- How many variants the event says were evicted. -/
def dropped : Event → Nat
  | .evictedResource _ variants => variants
  | .evictedVariant _ _ => 1
  | _ => 0

end Event

namespace Store

variable {s : Store}

/-! ## What a write evicts -/

/-- The variants of a resource, none if it is unknown. -/
def found (s : Store) (resource : ResourceId) : Variants :=
  (s.resources.get? resource).getD (.empty s.variantCapacity)

theorem valid_found (h : s.Valid) (resource : ResourceId) : (s.found resource).Valid :=
  (h.found resource).1

theorem capacity_found (h : s.Valid) (resource : ResourceId) :
    (s.found resource).capacity = s.variantCapacity :=
  (h.found resource).2

theorem found_of_none {resource : ResourceId} (h : s.resources.get? resource = none) :
    s.found resource = .empty s.variantCapacity := by
  simp [found, h]

theorem found_of_some {resource : ResourceId} {variants : Variants}
    (h : s.resources.get? resource = some variants) : s.found resource = variants := by
  simp [found, h]

theorem get?_found (s : Store) (key : Key) :
    (s.found key.resource).get? key.selector = s.get? key := by
  unfold found get?
  cases s.resources.get? key.resource <;> rfl

theorem entries_found (s : Store) (resource : ResourceId) :
    (s.found resource).entries = Layout.variants s.layout resource := by
  unfold found Layout.variants
  rw [value?_layout]
  cases s.resources.get? resource <;> rfl

/-- The resource that goes when a key is written. -/
def goingResource? (s : Store) (key : Key) : Option (ResourceId × Variants) :=
  (s.resources.makeRoom key.resource).evicted

/-- The variant that goes when a key is written. -/
def goingVariant? (s : Store) (key : Key) : Option (Selector × Item) :=
  ((s.found key.resource).makeRoom key.selector).evicted

theorem wrote_resources (h : s.Valid) (key : Key) (item : Item) :
    s.resources.Wrote key.resource (s.writtenVariants key item) (s.goingResource? key)
      (s.put key item).store.resources.entries := by
  have hwrote := BoundedMap.wrote_entry h.resources key.resource
    (fun _ => .empty s.variantCapacity) (s.writtenVariants key item)
  rw [BoundedMap.evicted_entry] at hwrote
  simp only [put, BoundedMap.value_entry h.resources]
  exact hwrote

theorem wrote_variants (h : s.Valid) (key : Key) (item : Item) :
    (s.found key.resource).Wrote key.selector item (s.goingVariant? key)
      (s.writtenVariants key item).entries := by
  have hwrote := BoundedMap.wrote_put (valid_found h key.resource) key.selector item
  rwa [BoundedMap.evicted_put (valid_found h key.resource)] at hwrote

/-- A resource goes if and only if a new one meets a full store. -/
theorem exists_goingResource_iff (h : s.Valid) {key : Key} :
    (∃ e, s.goingResource? key = some e) ↔
      key.resource ∉ s.resources.keys ∧ s.resourceCount = s.capacity :=
  BoundedMap.exists_evicted_makeRoom_iff h.resources

/-- A variant goes if and only if a new one meets a full resource. -/
theorem exists_goingVariant_iff (h : s.Valid) {key : Key} :
    (∃ f, s.goingVariant? key = some f) ↔
      ∃ variants, s.resources.get? key.resource = some variants ∧
        variants.size = s.variantCapacity ∧ key.selector ∉ variants.keys := by
  unfold goingVariant?
  rw [BoundedMap.exists_evicted_makeRoom_iff (valid_found h key.resource), capacity_found h]
  cases hget : s.resources.get? key.resource with
  | none =>
    rw [found_of_none hget]
    constructor
    · rintro ⟨-, hfull⟩
      exact absurd hfull.symm (Nat.ne_of_gt h.variantCapacity_pos)
    · rintro ⟨variants, hvariants, -⟩
      cases hvariants
  | some variants =>
    rw [found_of_some hget]
    constructor
    · rintro ⟨hnew, hfull⟩
      exact ⟨variants, rfl, hfull, hnew⟩
    · rintro ⟨_, hvariants, hfull, hnew⟩
      cases hvariants
      exact ⟨hnew, hfull⟩

/-- A new resource has no variant that could go. -/
theorem goingVariant_of_goingResource (h : s.Valid) {key : Key} {e : ResourceId × Variants}
    (he : s.goingResource? key = some e) : s.goingVariant? key = none := by
  obtain ⟨hnew, -⟩ := (exists_goingResource_iff h).mp ⟨e, he⟩
  rw [Option.eq_none_iff_forall_ne_some]
  intro f hf
  obtain ⟨variants, hget, -⟩ := (exists_goingVariant_iff h).mp ⟨f, hf⟩
  rw [BoundedMap.get?_eq_none_iff_not_mem.mpr hnew] at hget
  cases hget

/-- The written resource stays. -/
theorem goingResource_ne (h : s.Valid) (key : Key) :
    (s.goingResource? key).map Prod.fst ≠ some key.resource := by
  intro hgoing
  obtain ⟨e, he, heq⟩ := Option.map_eq_some_iff.mp hgoing
  obtain ⟨hnew, -⟩ := (exists_goingResource_iff h).mp ⟨e, he⟩
  have hmem := List.mem_of_getLast? (BoundedMap.getLast?_of_evicted_makeRoom he)
  exact hnew (heq ▸ List.mem_map_of_mem hmem)

/-! ## What a write logs -/

theorem evictions_eq (h : s.Valid) (key : Key) (item : Item) :
    s.evictions key item
      = ((s.goingResource? key).map fun e => .evictedResource e.1 e.2.size).toList
        ++ ((s.goingVariant? key).map fun f => .evictedVariant key.resource f.1).toList := by
  have hput := BoundedMap.evicted_put (valid_found h key.resource) key.selector item
  unfold found at hput
  simp only [evictions, BoundedMap.evicted_entry, BoundedMap.value_entry h.resources, hput]
  rfl

/-- A write logs nothing, or the resource that goes, or the variant. -/
theorem evictions_cases (h : s.Valid) (key : Key) (item : Item) :
    (s.goingResource? key = none ∧ s.goingVariant? key = none ∧ s.evictions key item = []) ∨
    (∃ e, s.goingResource? key = some e ∧ s.goingVariant? key = none ∧
      s.evictions key item = [.evictedResource e.1 e.2.size]) ∨
    (∃ f, s.goingResource? key = none ∧ s.goingVariant? key = some f ∧
      s.evictions key item = [.evictedVariant key.resource f.1]) := by
  rw [evictions_eq h]
  cases hresource : s.goingResource? key with
  | none =>
    cases hvariant : s.goingVariant? key with
    | none => exact Or.inl ⟨rfl, rfl, rfl⟩
    | some f => exact Or.inr (Or.inr ⟨f, rfl, rfl, rfl⟩)
  | some e =>
    rw [goingVariant_of_goingResource h hresource]
    exact Or.inr (Or.inl ⟨e, rfl, rfl, rfl⟩)

theorem mem_evictions_resource (h : s.Valid) {key : Key} {item : Item} {resource : ResourceId}
    {count : Nat} :
    .evictedResource resource count ∈ s.evictions key item ↔
      ∃ e, s.goingResource? key = some e ∧ resource = e.1 ∧ count = e.2.size := by
  rcases evictions_cases h key item with ⟨hr, -, he⟩ | ⟨e, hr, -, he⟩ | ⟨f, hr, -, he⟩
  · simp [hr, he]
  · simp [hr, he]
  · simp [hr, he]

theorem mem_evictions_variant (h : s.Valid) {key : Key} {item : Item} {resource : ResourceId}
    {selector : Selector} :
    .evictedVariant resource selector ∈ s.evictions key item ↔
      resource = key.resource ∧ ∃ f, s.goingVariant? key = some f ∧ selector = f.1 := by
  rcases evictions_cases h key item with ⟨-, hv, he⟩ | ⟨e, -, hv, he⟩ | ⟨f, -, hv, he⟩
  · simp [hv, he]
  · simp [hv, he]
  · simp [hv, he]

theorem any_dropsResource_evictions (h : s.Valid) {key : Key} {item : Item}
    {resource : ResourceId} :
    (s.evictions key item).any (Event.dropsResource resource) = true ↔
      (s.goingResource? key).map Prod.fst = some resource := by
  rcases evictions_cases h key item with ⟨hr, -, he⟩ | ⟨e, hr, -, he⟩ | ⟨f, hr, -, he⟩
  · simp [hr, he]
  · simp [hr, he, Event.dropsResource]
  · simp [hr, he, Event.dropsResource]

theorem any_drops_evictions (h : s.Valid) {key other : Key} {item : Item} :
    (s.evictions key item).any (Event.drops other) = true ↔
      (s.goingResource? key).map Prod.fst = some other.resource ∨
        key.resource = other.resource ∧
          (s.goingVariant? key).map Prod.fst = some other.selector := by
  rcases evictions_cases h key item with ⟨hr, hv, he⟩ | ⟨e, hr, hv, he⟩ | ⟨f, hr, hv, he⟩
  · simp [hr, hv, he]
  · simp [hr, hv, he, Event.drops, Event.dropsResource]
  · simp [hr, hv, he, Event.drops, Key.ext_iff]

theorem sum_dropped_evictions (h : s.Valid) (key : Key) (item : Item) :
    ((s.evictions key item).map Event.dropped).sum
      = ((s.goingResource? key).toList.map fun e => e.2.size).sum
        + ((s.goingVariant? key).toList.map fun _ => 1).sum := by
  rcases evictions_cases h key item with ⟨hr, hv, he⟩ | ⟨e, hr, hv, he⟩ | ⟨f, hr, hv, he⟩
  · simp [hr, hv, he]
  · simp [hr, hv, he, Event.dropped]
  · simp [hr, hv, he, Event.dropped]

/-! ## What a write leaves -/

theorem get?_put (h : s.Valid) (key : Key) (item : Item) (other : Key) :
    (s.put key item).store.get? other = if other = key then some item
      else if (s.evictions key item).any (Event.drops other) then none else s.get? other := by
  have hresources : (s.put key item).store.resources.get? other.resource = _ :=
    (wrote_resources h key item).value?_eq h.resources other.resource
  have hput : (s.put key item).store.get? other
      = ((s.put key item).store.resources.get? other.resource).bind
          fun variants => variants.get? other.selector := rfl
  rw [hput, hresources]
  simp only [any_drops_evictions h]
  by_cases hres : other.resource = key.resource
  · have hvariants : (s.writtenVariants key item).get? other.selector = _ :=
      (wrote_variants h key item).value?_eq (valid_found h key.resource) other.selector
    have hfound : (s.found key.resource).get? other.selector = s.get? other := by
      rw [← hres, get?_found]
    have hstays := goingResource_ne h key
    rw [if_pos hres, Option.bind_some, hvariants, hfound, hres]
    by_cases hsel : other.selector = key.selector
    · rw [if_pos hsel, if_pos (Key.ext hres hsel)]
    · rw [if_neg hsel, if_neg fun heq => hsel (congrArg Key.selector heq)]
      by_cases hgoing : (s.goingVariant? key).map Prod.fst = some other.selector
      · rw [if_pos hgoing, if_pos (Or.inr ⟨rfl, hgoing⟩)]
      · rw [if_neg hgoing, if_neg]
        rintro (hgoing' | ⟨-, hgoing'⟩)
        · exact hstays hgoing'
        · exact hgoing hgoing'
  · rw [if_neg hres, if_neg fun heq => hres (congrArg Key.resource heq)]
    by_cases hgoing : (s.goingResource? key).map Prod.fst = some other.resource
    · rw [if_pos hgoing, if_pos (Or.inl hgoing)]
      rfl
    · rw [if_neg hgoing, if_neg]
      · rfl
      · rintro (hgoing' | ⟨hsame, -⟩)
        · exact hgoing hgoing'
        · exact hres hsame.symm

theorem others_layout_put (h : s.Valid) (key : Key) (item : Item) :
    others key.resource (s.put key item).store.layout
      = (others key.resource s.layout).filter fun e =>
        !(s.evictions key item).any (Event.dropsResource e.1) := by
  unfold layout
  rw [others_map, others_map, (wrote_resources h key item).others_eq h.resources, List.filter_map]
  congr 1
  refine List.filter_congr fun e _ => ?_
  simp only [Function.comp_apply]
  rw [Bool.eq_iff_iff, decide_eq_true_iff, Bool.not_eq_true', ← Bool.not_eq_true,
    any_dropsResource_evictions h]

theorem size_eq_sum_entries (s : Store) :
    s.size = (s.resources.entries.map fun e => e.2.size).sum := by
  rw [size_eq_sum, layout, List.map_map]
  rfl

theorem size_put (h : s.Valid) (key : Key) (item : Item) :
    (s.put key item).store.size + ((s.evictions key item).map Event.dropped).sum
      = s.size + if (s.get? key).isSome then 0 else 1 := by
  have hresources := (wrote_resources h key item).sum_eq h.resources fun e => e.2.size
  have hvariants := (wrote_variants h key item).sum_eq (valid_found h key.resource) fun _ => 1
  have hfound : ((s.resources.get? key.resource).toList.map BoundedMap.size).sum
      = (s.found key.resource).entries.length := by
    unfold found
    cases s.resources.get? key.resource with
    | none => rfl
    | some variants => simp [BoundedMap.size]
  have hold : ((s.get? key).toList.map fun _ => 1).sum = if (s.get? key).isSome then 1 else 0 := by
    cases s.get? key <;> rfl
  have hcount : ∀ variants : Variants,
      (variants.entries.map fun _ => 1).sum = variants.entries.length := by
    intro variants
    simp
  rw [get?_found, hold, hcount, hcount] at hvariants
  rw [size_eq_sum_entries, size_eq_sum_entries, sum_dropped_evictions h]
  have hwritten : (s.writtenVariants key item).size
      = (s.writtenVariants key item).entries.length := rfl
  rw [hfound, hwritten] at hresources
  by_cases hstored : (s.get? key).isSome = true
  · rw [if_pos hstored] at hvariants ⊢
    omega
  · rw [if_neg hstored] at hvariants ⊢
    omega

/-! ## Taking a variant out before it is written -/

/-- A valid store is told by its bounds and its layout. -/
theorem Valid.entries_eq (h : s.Valid) :
    s.resources.entries = s.layout.map fun e => (e.1, ⟨s.variantCapacity, e.2⟩) := by
  rw [layout, List.map_map]
  refine (List.map_id _).symm.trans (List.map_congr_left fun e he => ?_)
  have hcap := (h.filled e he).capacity
  obtain ⟨resource, capacity, entries⟩ := e
  rw [← hcap]
  rfl

theorem Valid.ext {t : Store} (hs : s.Valid) (ht : t.Valid) (hcap : s.capacity = t.capacity)
    (hvcap : s.variantCapacity = t.variantCapacity) (hlayout : s.layout = t.layout) : s = t := by
  have hentries : s.resources.entries = t.resources.entries := by
    rw [hs.entries_eq, ht.entries_eq, hlayout, hvcap]
  obtain ⟨v, c, entries⟩ := s
  obtain ⟨v', c', entries'⟩ := t
  cases hcap
  cases hvcap
  cases hentries
  rfl

theorem store_put_removeVariant (h : s.Valid) (key : Key) (item : Item) :
    ((s.removeVariant key).put key item).store = (s.put key item).store := by
  have hremoved := valid_removeVariant h key
  refine (valid_put hremoved key item).ext (valid_put h key item) ?_ ?_ ?_
  · rw [capacity_put, capacity_put, capacity_removeVariant]
  · rw [variantCapacity_put, variantCapacity_put, variantCapacity_removeVariant]
  · rw [layout_put hremoved, layout_put h, layout_removeVariant h, capacity_removeVariant,
      variantCapacity_removeVariant, Layout.write_remove _ _ h.distinct]

theorem goingResource_removeVariant (h : s.Valid) (key : Key) :
    (s.removeVariant key).goingResource? key = s.goingResource? key := by
  rcases removeVariant_cases s key with ⟨-, he⟩ | ⟨variants, hget, ⟨-, he⟩ | ⟨-, he⟩⟩
  · rw [he]
  · rw [he]
    exact BoundedMap.evicted_makeRoom_erase h.resources key.resource
  · -- the resource stays where it stands
    have hmem : key.resource ∈ s.resources.keys :=
      List.mem_map_of_mem (h.resources.get?_eq_some_iff.mp hget)
    have hmem' : key.resource ∈
        (s.resources.modify key.resource fun _ => variants.erase key.selector).keys := by
      rwa [BoundedMap.keys_modify]
    rw [he]
    unfold goingResource?
    rw [BoundedMap.makeRoom_of_mem hmem, BoundedMap.makeRoom_of_mem hmem']

theorem goingVariant_removeVariant (h : s.Valid) (key : Key) :
    (s.removeVariant key).goingVariant? key = s.goingVariant? key := by
  rcases removeVariant_cases s key with ⟨-, he⟩ | ⟨variants, hget, ⟨hleft, he⟩ | ⟨-, he⟩⟩
  · rw [he]
  · -- the resource goes with its only variant, which is the written one
    have hfilled := h.filled _ (h.resources.get?_eq_some_iff.mp hget)
    have hmem : key.selector ∈ variants.keys := by
      by_contra hnew
      exact hfilled.nonempty ((others_eq_self hnew).symm.trans hleft)
    have hgone : (s.resources.erase key.resource).get? key.resource = none := by
      simp [BoundedMap.get?_eq_none_iff_not_mem, BoundedMap.keys, BoundedMap.erase]
    have hroom : (BoundedMap.empty s.variantCapacity : Variants).size < s.variantCapacity :=
      h.variantCapacity_pos
    rw [he]
    unfold goingVariant?
    rw [found_of_none hgone, found_of_some hget, BoundedMap.makeRoom_of_mem hmem,
      BoundedMap.makeRoom_of_lt hroom]
  · have hfilled := h.filled _ (h.resources.get?_eq_some_iff.mp hget)
    have hget' : (s.resources.modify key.resource fun _ => variants.erase key.selector).get?
        key.resource = some (variants.erase key.selector) := by
      rw [BoundedMap.get?_modify_self, hget]
      rfl
    rw [he]
    unfold goingVariant?
    rw [found_of_some hget, found_of_some hget']
    exact BoundedMap.evicted_makeRoom_erase hfilled.valid key.selector

theorem evictions_removeVariant (h : s.Valid) (key : Key) (item : Item) :
    (s.removeVariant key).evictions key item = s.evictions key item := by
  rw [evictions_eq (valid_removeVariant h key), evictions_eq h, goingResource_removeVariant h,
    goingVariant_removeVariant h]

end Store

end VariantStore
