import VariantStore.Proofs.Store.Observation

/-!
# What a removal takes out

A resource is taken out by removing its variants one after the other, and the last one takes the
entry of the resource with it. What is left is the store without that entry, and nothing else has
moved (`store_invalidate`). So it does not matter in which order resources are taken out, or how
often (`invalidateAll_congr`), and without all of its resources a store is as it was made
(`scope_of_run`).
-/

namespace VariantStore

open Recency

namespace Store

variable {s : Store}

/-- Takes out several resources, one after the other. -/
def invalidateAll (s : Store) (gone : List ResourceId) : Store :=
  gone.foldl (fun s resource => (s.invalidate resource).store) s

/-! ## One resource -/

theorem Valid.erase (h : s.Valid) (resource : ResourceId) :
    Valid { s with resources := s.resources.erase resource } where
  resources := h.resources.erase resource
  variantCapacity_pos := h.variantCapacity_pos
  filled := fun e he => h.filled e (mem_others.mp he).1

/-- The removals one by one take out the entry of the resource, and leave the others as they are. -/
theorem store_invalidate (h : s.Valid) (resource : ResourceId) :
    (s.invalidate resource).store = { s with resources := s.resources.erase resource } := by
  obtain ⟨hcap, hvcap⟩ := capacity_invalidate s resource
  refine (valid_invalidate h resource).ext (h.erase resource) hcap hvcap ?_
  rw [layout_invalidate h]
  exact others_map BoundedMap.entries resource s.resources.entries

/-! ## Several resources -/

theorem invalidateAll_eq (h : s.Valid) (gone : List ResourceId) :
    s.invalidateAll gone = { s with resources := gone.foldl BoundedMap.erase s.resources } := by
  unfold invalidateAll
  induction gone generalizing s with
  | nil => rfl
  | cons resource rest ih =>
    rw [List.foldl_cons, store_invalidate h, ih (h.erase resource)]
    rfl

/-- Neither the order nor a repetition shows. -/
theorem invalidateAll_congr (h : s.Valid) {gone other : List ResourceId}
    (hsame : ∀ resource, resource ∈ gone ↔ resource ∈ other) :
    s.invalidateAll gone = s.invalidateAll other := by
  rw [invalidateAll_eq h, invalidateAll_eq h, BoundedMap.foldl_erase_congr hsame]

/-- Taking out everything that is stored, and perhaps more, leaves a store as it was made. -/
theorem invalidateAll_eq_empty (h : s.Valid) {gone : List ResourceId}
    (hall : ∀ resource ∈ s.resources.keys, resource ∈ gone) :
    s.invalidateAll gone = empty s.capacity s.variantCapacity := by
  rw [invalidateAll_eq h, BoundedMap.foldl_erase_eq_empty hall]
  rfl

/-! ## Runs -/

/-- After any run, taking out a resource leaves all but its entry: the other resources stand as they
stood, with their variants. A resource that is not stored leaves everything, so a second removal does
nothing, and of several removals neither the order nor a repetition shows. Clearing leaves a store as
it was made, and so do removals of all that is stored; what follows goes as on a new store. Clearing
it again tells the strategy again, and leaves the same. -/
theorem scope_of_run {capacity variantCapacity : Nat} (hc : 0 < capacity)
    (hv : 0 < variantCapacity) (ops : List Operation) :
    let s := (empty capacity variantCapacity).run ops
    (∀ resource, (s.invalidate resource).store = { s with resources :=
      { s.resources with entries := s.resources.entries.filter fun e => e.1 ≠ resource } }) ∧
    (∀ resource, s.resources.get? resource = none → (s.invalidate resource).store = s) ∧
    (∀ resource, ((s.invalidate resource).store.invalidate resource).store
      = (s.invalidate resource).store) ∧
    (∀ gone other, (∀ resource, resource ∈ gone ↔ resource ∈ other) →
      s.invalidateAll gone = s.invalidateAll other) ∧
    s.clear.store = empty capacity variantCapacity ∧
    (∀ gone, (∀ resource ∈ s.resources.keys, resource ∈ gone) →
      s.invalidateAll gone = empty capacity variantCapacity) ∧
    (∀ later, s.clear.store.observations later
      = (empty capacity variantCapacity).observations later) ∧
    s.clear.trace.calls = [.afterClear] ∧
    s.clear.store.clear.store = s.clear.store ∧
    s.clear.store.clear.trace.calls = [.afterClear] := by
  intro s
  have hvalid : s.Valid := valid_run (valid_empty hc hv) ops
  have hbounds : empty s.capacity s.variantCapacity = empty capacity variantCapacity := by
    obtain ⟨hcap, hvcap⟩ := bounds_run (empty capacity variantCapacity) ops
    rw [hcap, hvcap]
    rfl
  have hclear : s.clear.store = empty capacity variantCapacity :=
    (clear_store s).trans hbounds
  refine ⟨fun resource => ?_, fun resource hnone => ?_, fun resource => ?_,
    fun gone other => invalidateAll_congr hvalid, hclear, fun gone hall => ?_, fun later => ?_, rfl,
    ?_, rfl⟩
  · rw [store_invalidate hvalid, BoundedMap.erase]
    simp only [bne, beq_eq_decide, ne_eq, decide_not]
  · rw [invalidate_of_none hnone]
  · rw [store_invalidate hvalid, store_invalidate (hvalid.erase resource)]
    simp only [BoundedMap.erase_erase]
  · rw [invalidateAll_eq_empty hvalid hall, hbounds]
  · rw [hclear]
  · rw [clear_store, hclear]
    rfl

/-- Three pages, one of them with two variants, are taken out in another order than they came, and
one of them twice. -/
theorem scope_of_crowded :
    let s := (empty 3 2).run crowded
    let page := fun name => (Request.forPage name []).resource
    s.resources.keys = [page "c", page "b", page "a"] ∧ s.size = 4 ∧
      (s.invalidate (page "a")).store.resources.keys = [page "c", page "b"] ∧
      s.invalidateAll [page "b", page "a", page "b", page "c"] = empty 3 2 := by
  intro s page
  have hkeys : s.resources.keys = [page "c", page "b", page "a"] := by decide +kernel
  obtain ⟨hscope, -, -, -, -, hall, -⟩ :=
    scope_of_run (by decide : 0 < 3) (by decide : 0 < 2) crowded
  have hleft : (s.invalidate (page "a")).store = _ := hscope (page "a")
  refine ⟨hkeys, by decide +kernel, ?_, hall _ fun resource hmem => ?_⟩
  · rw [hleft]
    decide +kernel
  · rw [show ((empty 3 2).run crowded).resources.keys = _ from hkeys] at hmem
    simp only [List.mem_cons] at hmem ⊢
    tauto

end Store

end VariantStore
