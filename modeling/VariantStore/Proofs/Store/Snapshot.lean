import Mathlib.Data.Finset.Card
import VariantStore.Proofs.Selection.Order
import VariantStore.Proofs.Store.Run

/-!
# Listing the keys

A store stands in the order of its last writes, on two levels. A list of its keys goes through both
and is then put in ascending order. Resources occur once, and selectors occur once under each of
them, so no key is met twice and none is lost on the way (`Valid.keys_perm`). What is listed is what
is found, in the one order that there is for it (`snapshot_of_run`).
-/

namespace VariantStore

open Recency

namespace Layout

/-- The keys as they stand. -/
def keys (l : Layout) : List Key := l.flatMap fun e => e.2.map fun f => Key.mk e.1 f.1

variable {l : Layout} {key : Key}

theorem mem_keys : key ∈ keys l ↔ ∃ vs item, (key.resource, vs) ∈ l ∧ (key.selector, item) ∈ vs := by
  unfold keys
  rw [List.mem_flatMap]
  constructor
  · rintro ⟨e, he, hkey⟩
    obtain ⟨f, hf, rfl⟩ := List.mem_map.mp hkey
    exact ⟨e.2, f.2, he, hf⟩
  · rintro ⟨vs, item, hvs, hitem⟩
    exact ⟨_, hvs, List.mem_map.mpr ⟨_, hitem, rfl⟩⟩

/-- Keys occur once if resources do, and selectors under each of them. -/
theorem nodup_keys (hl : Distinct l) (hvs : ∀ e ∈ l, Distinct e.2) : (keys l).Nodup := by
  unfold keys
  rw [List.nodup_flatMap]
  constructor
  · intro e he
    have hkeys : (e.2.map fun f => Key.mk e.1 f.1) = (e.2.map Prod.fst).map (Key.mk e.1) := by
      rw [List.map_map]
      rfl
    rw [hkeys]
    exact (hvs e he).map fun a b hab => congrArg Key.selector hab
  · refine (List.pairwise_map.mp hl).imp fun {e e'} hne => ?_
    -- keys of different resources are different
    intro key hkey hkey'
    obtain ⟨f, -, rfl⟩ := List.mem_map.mp hkey
    obtain ⟨f', -, heq⟩ := List.mem_map.mp hkey'
    exact hne (congrArg Key.resource heq).symm

theorem length_keys (l : Layout) : (keys l).length = (l.map fun e => e.2.length).sum := by
  simp [keys, List.length_flatMap]

/-- Where no resource is empty, the resources of the keys are all there are. -/
theorem mem_resources_keys (hne : ∀ e ∈ l, e.2 ≠ []) {resource : ResourceId} :
    resource ∈ (keys l).map Key.resource ↔ resource ∈ l.map Prod.fst := by
  constructor
  · intro hmem
    obtain ⟨key, hkey, rfl⟩ := List.mem_map.mp hmem
    obtain ⟨vs, -, hvs, -⟩ := mem_keys.mp hkey
    exact List.mem_map_of_mem hvs
  · intro hmem
    obtain ⟨⟨resource, vs⟩, he, rfl⟩ := List.mem_map.mp hmem
    obtain ⟨f, hf⟩ := List.exists_mem_of_ne_nil vs (hne _ he)
    exact List.mem_map.mpr ⟨⟨resource, f.1⟩, mem_keys.mpr ⟨vs, f.2, he, hf⟩, rfl⟩

end Layout

namespace Store

variable {s : Store} {key : Key}

theorem keys_eq_layout (s : Store) : s.keys = Key.sorted s.layout.keys := by
  simp [keys, keysOf, Layout.keys, layout, BoundedMap.keys, List.flatMap_map, Function.comp_def]

theorem Valid.mem_layout_keys (h : s.Valid) :
    key ∈ s.layout.keys ↔ (s.get? key).isSome = true := by
  rw [Layout.mem_keys, Option.isSome_iff_exists]
  simp only [h.get?_eq_some_iff]
  exact exists_comm

/-- What is listed is what is found. -/
theorem Valid.mem_keys (h : s.Valid) : key ∈ s.keys ↔ (s.get? key).isSome = true := by
  rw [keys_eq_layout, Key.mem_sorted, h.mem_layout_keys]

/-- No key is met twice, so none is dropped when they are put in order. -/
theorem Valid.keys_perm (h : s.Valid) : s.keys.Perm s.layout.keys := by
  rw [keys_eq_layout]
  exact Key.perm_sorted (Layout.nodup_keys h.distinct fun e he => h.distinct_of_mem he)

theorem Valid.count_keys (h : s.Valid) (key : Key) :
    s.keys.count key = if (s.get? key).isSome then 1 else 0 := by
  have hnodup : s.keys.Nodup := by
    rw [keys_eq_layout]
    exact (Key.ascending_sorted _).nodup
  rw [hnodup.count]
  exact if_congr h.mem_keys rfl rfl

theorem Valid.length_keys (h : s.Valid) : s.keys.length = s.size := by
  rw [h.keys_perm.length_eq, Layout.length_keys, size_eq_sum]

theorem Valid.card_resources (h : s.Valid) :
    (s.keys.map Key.resource).toFinset.card = s.resourceCount := by
  have hne : ∀ e ∈ s.layout, e.2 ≠ [] := by
    intro e he
    obtain ⟨f, hf, rfl⟩ := List.mem_map.mp he
    exact (h.filled f hf).nonempty
  have hsame : (s.keys.map Key.resource).toFinset = (s.layout.map Prod.fst).toFinset := by
    ext resource
    rw [List.mem_toFinset, List.mem_toFinset, ← Layout.mem_resources_keys hne,
      (h.keys_perm.map Key.resource).mem_iff]
  rw [hsame, List.toFinset_card_of_nodup h.distinct, List.length_map, resourceCount_eq_length]

/-- Stores that hold the same keys list them alike. -/
theorem Valid.keys_eq {t : Store} (hs : s.Valid) (ht : t.Valid)
    (h : ∀ key, (t.get? key).isSome = (s.get? key).isSome) : t.keys = s.keys := by
  rw [keys_eq_layout, keys_eq_layout]
  refine Key.sorted_eq_of_mem_iff fun key => ?_
  rw [ht.mem_layout_keys, hs.mem_layout_keys, h]

/-- After any run, each key that is stored is listed once and no other, in strictly ascending order.
So there are as many as there are variants, of as many resources as there are. Whatever the bounds
and the order of the writes were, the same keys are listed alike. The comparison of keys decides
which one comes first, and it is a total order: only equal keys are compared as equal. -/
theorem snapshot_of_run {capacity variantCapacity : Nat} (hc : 0 < capacity)
    (hv : 0 < variantCapacity) (ops : List Operation) :
    let s := (empty capacity variantCapacity).run ops
    (∀ key, s.keys.count key = if (s.get? key).isSome then 1 else 0) ∧
    s.keys.Pairwise Key.Precedes ∧
    s.keys.length = s.size ∧
    (s.keys.map Key.resource).toFinset.card = s.resourceCount ∧
    (∀ capacity' variantCapacity' ops', 0 < capacity' → 0 < variantCapacity' →
      let t := (empty capacity' variantCapacity').run ops'
      (∀ key, (t.get? key).isSome = (s.get? key).isSome) → t.keys = s.keys) ∧
    (∀ a b : Key, (compare a b = .lt ↔ a.Precedes b) ∧ (compare a b = .eq ↔ a = b) ∧
      (compare a b = .gt ↔ b.Precedes a)) ∧
    ∀ a b c : Key, a.Precedes b → b.Precedes c → a.Precedes c := by
  intro s
  have hvalid : s.Valid := valid_run (valid_empty hc hv) ops
  refine ⟨hvalid.count_keys, ?_, hvalid.length_keys, hvalid.card_resources, ?_, ?_, ?_⟩
  · rw [keys_eq_layout]
    exact Key.ascending_sorted _
  · intro capacity' variantCapacity' ops' hc' hv' t
    exact hvalid.keys_eq (valid_run (valid_empty hc' hv') ops')
  · intro a b
    exact ⟨Key.compare_eq_lt_iff, Std.LawfulEqCmp.compare_eq_iff_eq, Key.compare_eq_gt_iff⟩
  · intro a b c
    exact Key.Precedes.trans

/-- The same keys after the writes in another order, with more room. -/
theorem snapshot_of_crowded :
    let s := (empty 3 2).run crowded
    let t := (empty 4 3).run crowded.reverse
    s.resources.keys ≠ t.resources.keys ∧ t.keys = s.keys ∧ s.keys.length = 4 ∧
      (s.keys.map Key.resource).toFinset.card = 3 := by
  intro s t
  obtain ⟨-, -, hlength, hcard, hsame, -⟩ :=
    snapshot_of_run (by decide : 0 < 3) (by decide : 0 < 2) crowded
  have hs : s.Valid := valid_run (valid_empty (by decide) (by decide)) crowded
  have ht : t.Valid := valid_run (valid_empty (by decide) (by decide)) crowded.reverse
  have hkeys : t.layout.keys ⊆ s.layout.keys ∧ s.layout.keys ⊆ t.layout.keys := by
    decide +kernel
  have hstored : ∀ key, (t.get? key).isSome = (s.get? key).isSome := by
    intro key
    rw [Bool.eq_iff_iff, ← ht.mem_layout_keys, ← hs.mem_layout_keys]
    exact ⟨fun hmem => hkeys.1 hmem, fun hmem => hkeys.2 hmem⟩
  refine ⟨by decide +kernel, hsame 4 3 crowded.reverse (by decide) (by decide) hstored, ?_, ?_⟩
  · exact hlength.trans (by decide +kernel)
  · exact hcard.trans (by decide +kernel)

end Store

end VariantStore
