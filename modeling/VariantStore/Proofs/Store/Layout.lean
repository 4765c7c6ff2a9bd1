import VariantStore.Proofs.Recency.BoundedMap
import VariantStore.Store.Item
import VariantStore.Selection.Key

/-!
# What a store holds

A layout lists resources, and under each its selectors with their items, everything in the order of
the last writes. The steps of a store are functions of its layout: a write renews the variant and
then the resource, each cut to its bound (`write`), and a removal takes out a variant, and its
resource with the last of them (`remove`).

* `write_remove`: taking a variant out before it is written changes nothing.
* `foldl_remove`: taking out the variants of a resource one after the other takes out the resource.
-/

namespace VariantStore

open Recency

attribute [ext] Key

/-- Resources with their variants, both in the order of their last writes. -/
abbrev Layout := List (ResourceId × List (Selector × Item))

namespace Layout

/-- The variants of a resource. -/
def variants (l : Layout) (resource : ResourceId) : List (Selector × Item) :=
  (value? resource l).getD []

/-- Writes an item under a key within the bounds. -/
def write (capacity variantCapacity : Nat) (l : Layout) (key : Key) (item : Item) : Layout :=
  (renew key.resource
    ((renew key.selector item (variants l key.resource)).take variantCapacity) l).take capacity

/-- What a removal leaves of a resource: nothing once its variants have gone. -/
def leave (key : Key) (e : ResourceId × List (Selector × Item)) :
    Option (ResourceId × List (Selector × Item)) :=
  if e.1 = key.resource then
    if (others key.selector e.2).isEmpty then none else some (e.1, others key.selector e.2)
  else some e

/-- Takes out the variant under a key, and its resource with the last of them. -/
def remove (l : Layout) (key : Key) : Layout := l.filterMap (leave key)

theorem variants_of_mem {l : Layout} (h : Distinct l) {resource : ResourceId}
    {vs : List (Selector × Item)} (hmem : (resource, vs) ∈ l) : variants l resource = vs := by
  unfold variants
  rw [(value?_eq_some_iff h).mpr hmem]
  rfl

theorem variants_of_not_mem {l : Layout} {resource : ResourceId}
    (hmem : resource ∉ l.map Prod.fst) : variants l resource = [] := by
  unfold variants
  rw [value?_eq_none_iff.mpr hmem]
  rfl

/-- The variants of a resource that is stored stand in the layout. -/
theorem variants_eq_nil_or_mem (l : Layout) (resource : ResourceId) :
    variants l resource = [] ∨ (resource, variants l resource) ∈ l := by
  unfold variants value?
  cases hf : l.find? fun e => e.1 == resource with
  | none => exact Or.inl rfl
  | some e =>
    have heq : e.1 = resource := by simpa using List.find?_some hf
    rw [← heq]
    exact Or.inr (List.mem_of_find?_eq_some hf)

theorem leave_of_ne {key : Key} {e : ResourceId × List (Selector × Item)}
    (hne : e.1 ≠ key.resource) : leave key e = some e :=
  if_neg hne

theorem leave_of_eq {key : Key} {e : ResourceId × List (Selector × Item)}
    (heq : e.1 = key.resource) :
    leave key e = if (others key.selector e.2).isEmpty then none
      else some (e.1, others key.selector e.2) :=
  if_pos heq

theorem fst_of_leave {key : Key} {e e' : ResourceId × List (Selector × Item)}
    (h : leave key e = some e') : e'.1 = e.1 := by
  unfold leave at h
  split at h
  · split at h
    · cases h
    · cases h; rfl
  · cases h; rfl

/-- A removal leaves the other resources alone. -/
theorem others_remove (l : Layout) (key : Key) :
    others key.resource (remove l key) = others key.resource l := by
  unfold remove
  induction l with
  | nil => rfl
  | cons e rest ih =>
    by_cases heq : e.1 = key.resource
    · rw [others_cons_of_eq heq, ← ih]
      cases hw : leave key e with
      | none => rw [List.filterMap_cons_none hw]
      | some e' =>
        rw [List.filterMap_cons_some hw, others_cons_of_eq (by rw [fst_of_leave hw, heq])]
    · rw [List.filterMap_cons_some (leave_of_ne heq), others_cons_of_ne heq,
        others_cons_of_ne heq, ih]

theorem mem_remove {l : Layout} {key : Key} {e : ResourceId × List (Selector × Item)} :
    e ∈ remove l key ↔ ∃ e' ∈ l, leave key e' = some e :=
  List.mem_filterMap

theorem keys_remove_sublist (l : Layout) (key : Key) :
    ((remove l key).map Prod.fst).Sublist (l.map Prod.fst) := by
  unfold remove
  induction l with
  | nil => exact .slnil
  | cons e rest ih =>
    cases hw : leave key e with
    | none =>
      rw [List.filterMap_cons_none hw]
      exact ih.cons _
    | some e' =>
      rw [List.filterMap_cons_some hw, List.map_cons, List.map_cons, fst_of_leave hw]
      exact ih.cons_cons _

theorem distinct_remove {l : Layout} (h : Distinct l) (key : Key) : Distinct (remove l key) :=
  List.Nodup.sublist (keys_remove_sublist l key) h

/-- A removal leaves the other variants of the resource. -/
theorem variants_remove {l : Layout} (h : Distinct l) (key : Key) :
    variants (remove l key) key.resource
      = others key.selector (variants l key.resource) := by
  by_cases hmem : key.resource ∈ l.map Prod.fst
  · obtain ⟨⟨resource, vs⟩, he, hr⟩ := List.mem_map.mp hmem
    have hw := leave_of_eq hr
    rw [← hr, variants_of_mem h he]
    split at hw
    case isTrue hempty =>
      -- the last variant has gone, and the resource with it
      rw [List.isEmpty_iff.mp hempty]
      refine variants_of_not_mem fun hleft => ?_
      obtain ⟨e, hleft, heq⟩ := List.mem_map.mp hleft
      obtain ⟨e', he', hw'⟩ := mem_remove.mp hleft
      have hfst := fst_of_leave hw'
      have hsame : e' = (resource, vs) :=
        List.inj_on_of_nodup_map h he' he (by rw [← hfst, heq])
      rw [hsame, hw] at hw'
      cases hw'
    case isFalse =>
      exact variants_of_mem (distinct_remove h key) (mem_remove.mpr ⟨_, he, hw⟩)
  · have hleft : key.resource ∉ (remove l key).map Prod.fst := fun hleft =>
      hmem ((keys_remove_sublist l key).subset hleft)
    rw [variants_of_not_mem hmem, variants_of_not_mem hleft]
    rfl

/-- Taking a variant out before it is written changes nothing. -/
theorem write_remove (capacity variantCapacity : Nat) {l : Layout} (h : Distinct l) (key : Key)
    (item : Item) :
    write capacity variantCapacity (remove l key) key item
      = write capacity variantCapacity l key item := by
  unfold write
  rw [variants_remove h key]
  unfold renew
  rw [others_others, others_remove]

/-- Without variants the resource goes. -/
theorem remove_eq_others {l : Layout} {key : Key}
    (h : ∀ e ∈ l, e.1 = key.resource → others key.selector e.2 = []) :
    remove l key = others key.resource l := by
  unfold remove
  induction l with
  | nil => rfl
  | cons e rest ih =>
    have ih := ih fun f hf => h f (List.mem_cons_of_mem e hf)
    by_cases heq : e.1 = key.resource
    · have hnone : leave key e = none := by
        rw [leave_of_eq heq, h e List.mem_cons_self heq]
        rfl
      rw [List.filterMap_cons_none hnone, others_cons_of_eq heq, ih]
    · rw [List.filterMap_cons_some (leave_of_ne heq), others_cons_of_ne heq, ih]

/-- With variants left the resource stays where it stands. -/
theorem remove_eq_map {l : Layout} {key : Key} {left : List (Selector × Item)} (hleft : left ≠ [])
    (h : ∀ e ∈ l, e.1 = key.resource → others key.selector e.2 = left) :
    remove l key = l.map fun e => if e.1 == key.resource then (e.1, left) else e := by
  unfold remove
  induction l with
  | nil => rfl
  | cons e rest ih =>
    have ih := ih fun f hf => h f (List.mem_cons_of_mem e hf)
    by_cases heq : e.1 = key.resource
    · have hsome : leave key e = some (e.1, left) := by
        rw [leave_of_eq heq, h e List.mem_cons_self heq, if_neg (by simpa using hleft)]
      rw [List.filterMap_cons_some hsome, List.map_cons, if_pos (by simpa using heq), ih]
    · rw [List.filterMap_cons_some (leave_of_ne heq), List.map_cons,
        if_neg (by simpa using heq), ih]

/-- Taking out the variants of a resource one after the other takes out the resource. -/
theorem foldl_remove {l : Layout} (hl : Distinct l) {resource : ResourceId}
    {vs : List (Selector × Item)} (hvs : Distinct vs) (h : variants l resource = vs)
    (hnone : vs = [] → resource ∉ l.map Prod.fst) :
    (vs.map fun f => Key.mk resource f.1).foldl remove l = others resource l := by
  induction vs generalizing l with
  | nil => exact (others_eq_self (hnone rfl)).symm
  | cons f rest ih =>
    obtain ⟨hnot, hrest⟩ := List.nodup_cons.mp hvs
    -- the first removal leaves the variants that the others take out
    have hvariants : variants (remove l ⟨resource, f.1⟩) resource = rest := by
      rw [variants_remove hl ⟨resource, f.1⟩, h, others_cons_of_eq rfl, others_eq_self hnot]
    rw [List.map_cons, List.foldl_cons, ih (distinct_remove hl _) hrest hvariants]
    · exact others_remove l ⟨resource, f.1⟩
    · intro hempty hmem
      -- it was the last one, so the resource has gone with it
      rw [remove_eq_others] at hmem
      · obtain ⟨e, he, heq⟩ := List.mem_map.mp hmem
        exact (mem_others.mp he).2 heq
      · intro e he heq
        have hsame : e.2 = f :: rest := by
          rw [← h, ← variants_of_mem hl he, heq]
        rw [hsame, others_cons_of_eq rfl, others_eq_self hnot, hempty]

end Layout

end VariantStore
