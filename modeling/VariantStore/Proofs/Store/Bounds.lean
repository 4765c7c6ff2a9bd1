import Mathlib.Algebra.Order.BigOperators.Group.List
import Mathlib.Algebra.Order.Ring.Nat
import VariantStore.Proofs.Store.Run

/-!
# How much a store can hold

Whatever was done to it, a store holds no more resources than it may, and under each of them at
least one variant and no more than it may (`bounds_of_run`). Insertions take a variant out before
they write it, and a resource may go with its only variant and come back; it is never left behind
empty.
-/

namespace VariantStore.Store

variable {s : Store}

/-- There are as many variants as the resources have together. -/
theorem size_eq_sum_sizes (s : Store) :
    s.size = (s.resources.values.map BoundedMap.size).sum := by
  rw [size_eq_sum]
  simp [layout, BoundedMap.values, BoundedMap.size, Function.comp_def]

/-- Each resource has a variant at least. -/
theorem Valid.resourceCount_le_size (h : s.Valid) : s.resourceCount ≤ s.size := by
  have hone : ∀ n ∈ s.resources.values.map BoundedMap.size, 1 ≤ n := by
    intro n hn
    obtain ⟨variants, hvariants, rfl⟩ := List.mem_map.mp hn
    obtain ⟨e, he, rfl⟩ := List.mem_map.mp hvariants
    exact List.length_pos_iff.mpr (h.filled e he).nonempty
  have hle := List.length_le_sum_of_one_le _ hone
  rw [size_eq_sum_sizes]
  simpa [BoundedMap.values, resourceCount, BoundedMap.size] using hle

theorem Valid.size_le (h : s.Valid) : s.size ≤ s.capacity * s.variantCapacity := by
  have hbound : ∀ n ∈ s.resources.values.map BoundedMap.size, n ≤ s.variantCapacity := by
    intro n hn
    obtain ⟨variants, hvariants, rfl⟩ := List.mem_map.mp hn
    obtain ⟨e, he, rfl⟩ := List.mem_map.mp hvariants
    have hfilled := h.filled e he
    rw [← hfilled.capacity]
    exact hfilled.valid.bounded
  rw [size_eq_sum_sizes]
  calc (s.resources.values.map BoundedMap.size).sum
      ≤ (s.resources.values.map BoundedMap.size).length * s.variantCapacity :=
        List.sum_le_card_nsmul _ _ hbound
    _ = s.resources.size * s.variantCapacity := by
        simp [BoundedMap.values, BoundedMap.size]
    _ ≤ s.capacity * s.variantCapacity :=
        Nat.mul_le_mul_right _ h.resources.bounded

/-- After any run both levels keep to their bounds, keys occur once, and no resource is without a
variant. -/
theorem bounds_of_run {capacity variantCapacity : Nat} (hc : 0 < capacity)
    (hv : 0 < variantCapacity) (ops : List Operation) :
    let s := (empty capacity variantCapacity).run ops
    s.resourceCount ≤ capacity ∧ s.resources.keys.Nodup ∧
    (∀ e ∈ s.resources.entries, 1 ≤ e.2.size ∧ e.2.size ≤ variantCapacity ∧ e.2.keys.Nodup ∧
      e.2.capacity = variantCapacity) ∧
    s.size = (s.resources.values.map BoundedMap.size).sum ∧
    s.resourceCount ≤ s.size ∧ s.size ≤ capacity * variantCapacity := by
  intro s
  have hvalid : s.Valid := valid_run (valid_empty hc hv) ops
  have hcap : s.capacity = capacity := (bounds_run (empty capacity variantCapacity) ops).1
  have hvcap : s.variantCapacity = variantCapacity :=
    (bounds_run (empty capacity variantCapacity) ops).2
  refine ⟨?_, hvalid.resources.distinct, ?_, size_eq_sum_sizes s, hvalid.resourceCount_le_size, ?_⟩
  · rw [← hcap]
    exact hvalid.resources.bounded
  · intro e he
    have hfilled := hvalid.filled e he
    refine ⟨List.length_pos_iff.mpr hfilled.nonempty, ?_, hfilled.valid.distinct, ?_⟩
    · rw [← hvcap, ← hfilled.capacity]
      exact hfilled.valid.bounded
    · rw [← hvcap]
      exact hfilled.capacity
  · rw [← hcap, ← hvcap]
    exact hvalid.size_le

theorem bounds_of_crowded :
    ((empty 2 1).run crowded).resourceCount = 2 ∧ ((empty 2 1).run crowded).size ≤ 2 * 1 := by
  refine ⟨by decide +kernel, ?_⟩
  exact (bounds_of_run (by decide) (by decide) crowded).2.2.2.2.2

end VariantStore.Store
