import Mathlib.Data.Finset.Card
import VariantStore.Proofs.Store.Run

/-!
# How far apart the writes to a resource are

The writes to a resource cut a history into gaps. How many resources are written in a gap decides
whether the resource outlives it (`Spaced`). A store sees a gap grow one write after the other; the
resources of the last gap are `recent`, and they are the ones that stand in front of the resource as
long as nothing is taken out. `spaced_concat` ties the two together: all gaps are small if the last
one was small after each write.
-/

namespace VariantStore

/-- The resources that were written. -/
def resourcesOf (ws : List Write) : Finset ResourceId := (ws.map fun w => w.key.resource).toFinset

/-- The selectors that were written under a resource. -/
def selectorsOf (resource : ResourceId) (ws : List Write) : Finset Selector :=
  ((ws.filter fun w => w.key.resource == resource).map fun w => w.key.selector).toFinset

/-- The writes before, between and after those to a resource. -/
def gaps (resource : ResourceId) (ws : List Write) : List (List Write) :=
  ws.splitOnP fun w => w.key.resource == resource

/-- Fewer than `n` resources are written in each gap. -/
def Spaced (n : Nat) (resource : ResourceId) (ws : List Write) : Prop :=
  ∀ gap ∈ gaps resource ws, (resourcesOf gap).card < n

instance (n : Nat) (resource : ResourceId) (ws : List Write) : Decidable (Spaced n resource ws) :=
  inferInstanceAs (Decidable (∀ gap ∈ gaps resource ws, (resourcesOf gap).card < n))

/-- What is in front of a resource, after a write. -/
def pushed (resource : ResourceId) (ahead : Finset ResourceId) (w : Write) : Finset ResourceId :=
  if w.key.resource = resource then ∅ else insert w.key.resource ahead

/-- The resources that were written since the last write to the given one. -/
def recent (resource : ResourceId) (ws : List Write) : Finset ResourceId :=
  ws.foldl (pushed resource) ∅

variable {resource : ResourceId} {ws : List Write} {w : Write}

theorem resourcesOf_concat (ws : List Write) (w : Write) :
    resourcesOf (ws ++ [w]) = insert w.key.resource (resourcesOf ws) := by
  ext r
  simp [resourcesOf]

theorem selectorsOf_concat_of_eq (h : w.key.resource = resource) (ws : List Write) :
    selectorsOf resource (ws ++ [w]) = insert w.key.selector (selectorsOf resource ws) := by
  ext v
  simp [selectorsOf, h]

theorem selectorsOf_concat_of_ne (h : w.key.resource ≠ resource) (ws : List Write) :
    selectorsOf resource (ws ++ [w]) = selectorsOf resource ws := by
  simp [selectorsOf, h]

theorem pushed_of_eq (h : w.key.resource = resource) (ahead : Finset ResourceId) :
    pushed resource ahead w = ∅ :=
  if_pos h

theorem pushed_of_ne (h : w.key.resource ≠ resource) (ahead : Finset ResourceId) :
    pushed resource ahead w = insert w.key.resource ahead :=
  if_neg h

theorem pushed_mono {ahead ahead' : Finset ResourceId} (h : ahead ⊆ ahead') :
    pushed resource ahead w ⊆ pushed resource ahead' w := by
  unfold pushed
  split
  · exact Finset.Subset.refl ∅
  · exact Finset.insert_subset_insert _ h

theorem recent_concat (resource : ResourceId) (ws : List Write) (w : Write) :
    recent resource (ws ++ [w]) = pushed resource (recent resource ws) w := by
  rw [recent, List.foldl_append]
  rfl

/-! ## Gaps -/

/-- A write to the resource opens a gap. -/
theorem gaps_concat_of_eq (h : w.key.resource = resource) (ws : List Write) :
    gaps resource (ws ++ [w]) = gaps resource ws ++ [[]] := by
  unfold gaps
  rw [List.splitOnP_append_cons _ _ (by simpa using h)]
  rfl

/-- Any other write goes into the last gap. -/
theorem gaps_concat_of_ne (h : w.key.resource ≠ resource) (ws : List Write) :
    ∃ front last, gaps resource ws = front ++ [last] ∧
      gaps resource (ws ++ [w]) = front ++ [last ++ [w]] := by
  unfold gaps
  -- the split goes from the front, where the new write changes nothing
  induction ws with
  | nil => exact ⟨[], [], rfl, by simp [List.splitOnP_cons_eq_if_modifyHead, h]⟩
  | cons a rest ih =>
    obtain ⟨front, last, hrest, hconcat⟩ := ih
    rw [List.cons_append, List.splitOnP_cons_eq_if_modifyHead,
      List.splitOnP_cons_eq_if_modifyHead, hrest, hconcat]
    split
    · exact ⟨[] :: front, last, rfl, rfl⟩
    · cases front with
      | nil => exact ⟨[], a :: last, rfl, rfl⟩
      | cons g front => exact ⟨(a :: g) :: front, last, rfl, rfl⟩

/-- The resources of the last gap are the recent ones. -/
theorem exists_last_gap (resource : ResourceId) (ws : List Write) :
    ∃ front last, gaps resource ws = front ++ [last] ∧
      resourcesOf last = recent resource ws := by
  induction ws using List.reverseRecOn with
  | nil => exact ⟨[], [], rfl, rfl⟩
  | append_singleton ws w ih =>
    rw [recent_concat]
    by_cases h : w.key.resource = resource
    · rw [pushed_of_eq h]
      exact ⟨gaps resource ws, [], gaps_concat_of_eq h ws, rfl⟩
    · obtain ⟨front, last, hws, hconcat⟩ := gaps_concat_of_ne h ws
      obtain ⟨front', last', hws', hlast'⟩ := ih
      obtain ⟨-, hsame⟩ := List.append_inj' (hws.symm.trans hws') rfl
      cases hsame
      rw [pushed_of_ne h, ← hlast', ← resourcesOf_concat]
      exact ⟨front, last ++ [w], hconcat, rfl⟩

/-! ## Small gaps -/

theorem spaced_nil {n : Nat} (hn : 0 < n) (resource : ResourceId) : Spaced n resource [] := by
  intro gap hgap
  rw [gaps, List.splitOnP_nil, List.mem_singleton] at hgap
  rw [hgap]
  exact hn

theorem Spaced.recent_card_lt {n : Nat} (h : Spaced n resource ws) :
    (recent resource ws).card < n := by
  obtain ⟨front, last, hgaps, hlast⟩ := exists_last_gap resource ws
  rw [← hlast]
  exact h last (by rw [hgaps]; simp)

theorem spaced_concat {n : Nat} :
    Spaced n resource (ws ++ [w]) ↔
      Spaced n resource ws ∧ (recent resource (ws ++ [w])).card < n := by
  unfold Spaced
  by_cases h : w.key.resource = resource
  · rw [gaps_concat_of_eq h, List.forall_mem_append, recent_concat, pushed_of_eq h,
      List.forall_mem_singleton]
    rfl
  · obtain ⟨front, last, hws, hconcat⟩ := gaps_concat_of_ne h ws
    obtain ⟨front', last', hws', hlast'⟩ := exists_last_gap resource ws
    obtain ⟨-, hsame⟩ := List.append_inj' (hws.symm.trans hws') rfl
    cases hsame
    rw [hws, hconcat, List.forall_mem_append, List.forall_mem_append, List.forall_mem_singleton,
      List.forall_mem_singleton, recent_concat, pushed_of_ne h, ← hlast', resourcesOf_concat]
    -- a gap that is small with the write was small without it
    have hcard : (resourcesOf last).card ≤ (insert w.key.resource (resourcesOf last)).card :=
      Finset.card_le_card (Finset.subset_insert _ _)
    constructor
    · rintro ⟨hfront, hlt⟩
      exact ⟨⟨hfront, by omega⟩, hlt⟩
    · rintro ⟨⟨hfront, -⟩, hlt⟩
      exact ⟨hfront, hlt⟩

/-! ## With removals between the writes -/

namespace Effect

/-- The effect does not take the resource out. -/
def Spares (resource : ResourceId) : Effect → Prop
  | .write _ | .nothing => True
  | .invalidate other => other ≠ resource
  | .clear => False

/-- What is in front of a resource, after an effect that spares it. -/
def ahead (resource : ResourceId) (front : Finset ResourceId) : Effect → Finset ResourceId
  | .write w => pushed resource front w
  | .invalidate other => front.erase other
  | .clear | .nothing => front

/-- The selectors that were written under a resource, after an effect. -/
def among (resource : ResourceId) (front : Finset Selector) : Effect → Finset Selector
  | .write w => if w.key.resource = resource then insert w.key.selector front else front
  | .invalidate _ | .clear | .nothing => front

end Effect

/-- What is in front of a resource that was in front of everything. -/
def resourcesAhead (resource : ResourceId) (es : List Effect) : Finset ResourceId :=
  es.foldl (Effect.ahead resource) ∅

theorem resourcesAhead_concat (resource : ResourceId) (es : List Effect) (e : Effect) :
    resourcesAhead resource (es ++ [e]) = e.ahead resource (resourcesAhead resource es) := by
  rw [resourcesAhead, List.foldl_append]
  rfl

/-- Removals only take away from what is in front. -/
theorem resourcesAhead_subset_recent (resource : ResourceId) (es : List Effect) :
    resourcesAhead resource es ⊆ recent resource (writes es) := by
  induction es using List.reverseRecOn with
  | nil => exact Finset.Subset.refl ∅
  | append_singleton es e ih =>
    rw [resourcesAhead_concat]
    cases e with
    | write w =>
      rw [writes_concat_write, recent_concat]
      exact pushed_mono ih
    | invalidate other =>
      rw [writes_concat_of_none rfl]
      exact (Finset.erase_subset _ _).trans ih
    | clear =>
      rw [writes_concat_of_none rfl]
      exact ih
    | nothing =>
      rw [writes_concat_of_none rfl]
      exact ih

/-- Without removals all recent resources are in front. -/
theorem resourcesAhead_eq_recent {es : List Effect}
    (h : ∀ e ∈ es, ∀ other, e.Spares other) (resource : ResourceId) :
    resourcesAhead resource es = recent resource (writes es) := by
  induction es using List.reverseRecOn with
  | nil => rfl
  | append_singleton es e ih =>
    have ih := ih fun f hf => h f (List.mem_append_left _ hf)
    have he := h e (by simp)
    rw [resourcesAhead_concat]
    cases e with
    | write w =>
      rw [writes_concat_write, recent_concat, ← ih]
      rfl
    | invalidate other => exact absurd rfl (he other)
    | clear => exact absurd (he resource) id
    | nothing =>
      rw [writes_concat_of_none rfl]
      exact ih

/-- Neither level ever gets too crowded: no more stood in front of the resource than there was room
for, at any time, and no more selectors were written than there is room for. -/
structure Fits (capacity variantCapacity : Nat) (resource : ResourceId) (es : List Effect) :
    Prop where
  resources : ∀ part, part <+: es → (resourcesAhead resource part).card < capacity
  selectors : (selectorsOf resource (writes es)).card < variantCapacity

section Fits

variable {capacity variantCapacity : Nat} {es : List Effect} {e : Effect}

theorem fits_nil (hc : 0 < capacity) (hv : 0 < variantCapacity) (resource : ResourceId) :
    Fits capacity variantCapacity resource [] where
  resources := by
    intro part hpart
    rw [List.prefix_nil.mp hpart]
    exact hc
  selectors := hv

theorem selectorsOf_writes_concat (resource : ResourceId) (es : List Effect) (e : Effect) :
    selectorsOf resource (writes (es ++ [e]))
      = e.among resource (selectorsOf resource (writes es)) := by
  cases e with
  | write w =>
    rw [writes_concat_write]
    by_cases h : w.key.resource = resource
    · rw [selectorsOf_concat_of_eq h]
      exact (if_pos h).symm
    · rw [selectorsOf_concat_of_ne h]
      exact (if_neg h).symm
  | invalidate other =>
    rw [writes_concat_of_none rfl]
    rfl
  | clear =>
    rw [writes_concat_of_none rfl]
    rfl
  | nothing =>
    rw [writes_concat_of_none rfl]
    rfl

theorem Effect.subset_among (resource : ResourceId) (front : Finset Selector) (e : Effect) :
    front ⊆ e.among resource front := by
  cases e with
  | write w =>
    show front ⊆ if w.key.resource = resource then insert w.key.selector front else front
    split
    · exact Finset.subset_insert _ _
    · exact Finset.Subset.refl front
  | invalidate other => exact Finset.Subset.refl front
  | clear => exact Finset.Subset.refl front
  | nothing => exact Finset.Subset.refl front

theorem fits_concat :
    Fits capacity variantCapacity resource (es ++ [e]) ↔
      Fits capacity variantCapacity resource es ∧
      (resourcesAhead resource (es ++ [e])).card < capacity ∧
      (selectorsOf resource (writes (es ++ [e]))).card < variantCapacity := by
  constructor
  · rintro ⟨hres, hsel⟩
    refine ⟨⟨fun part hpart => hres part (hpart.trans (List.prefix_append es [e])), ?_⟩,
      hres _ List.prefix_rfl, hsel⟩
    rw [selectorsOf_writes_concat] at hsel
    exact Nat.lt_of_le_of_lt (Finset.card_le_card (e.subset_among resource _)) hsel
  · rintro ⟨⟨hres, -⟩, hlast, hsel⟩
    refine ⟨fun part hpart => ?_, hsel⟩
    rcases List.prefix_concat_iff.mp hpart with rfl | hpart
    · exact hlast
    · exact hres part hpart

theorem spaced_of_concat {n : Nat} (h : Spaced n resource (writes (es ++ [e]))) :
    Spaced n resource (writes es) := by
  rcases writes_concat es e with ⟨w, -, hw⟩ | hw
  · rw [hw] at h
    exact (spaced_concat.mp h).1
  · rwa [hw] at h

/-- Small gaps leave room, whatever was taken out in between. -/
theorem fits_of_spaced (hspaced : Spaced capacity resource (writes es))
    (hsel : (selectorsOf resource (writes es)).card < variantCapacity) :
    Fits capacity variantCapacity resource es := by
  refine ⟨?_, hsel⟩
  clear hsel
  induction es using List.reverseRecOn with
  | nil =>
    intro part hpart
    rw [List.prefix_nil.mp hpart]
    exact hspaced.recent_card_lt
  | append_singleton es e ih =>
    intro part hpart
    rcases List.prefix_concat_iff.mp hpart with rfl | hpart
    · exact Nat.lt_of_le_of_lt
        (Finset.card_le_card (resourcesAhead_subset_recent resource (es ++ [e])))
        hspaced.recent_card_lt
    · exact ih (spaced_of_concat hspaced) part hpart

/-- Without removals, only small gaps leave room. -/
theorem Fits.spaced (h : Fits capacity variantCapacity resource es)
    (hspares : ∀ e ∈ es, ∀ other, e.Spares other) : Spaced capacity resource (writes es) := by
  induction es using List.reverseRecOn with
  | nil => exact spaced_nil (h.resources [] List.prefix_rfl) resource
  | append_singleton es e ih =>
    obtain ⟨hes, hlast, -⟩ := fits_concat.mp h
    have ih := ih hes fun f hf => hspares f (List.mem_append_left _ hf)
    rw [resourcesAhead_eq_recent hspares] at hlast
    rcases writes_concat es e with ⟨w, -, hw⟩ | hw
    · rw [hw] at hlast ⊢
      exact spaced_concat.mpr ⟨ih, hlast⟩
    · rw [hw]
      exact ih

end Fits

end VariantStore
