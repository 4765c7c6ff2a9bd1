import Mathlib.Data.List.Sort
import VariantStore.Selection.Key

/-!
# The order of keys

Keys come in the order of their resources, by code points, and the keys of a resource in the order of
their selectors: by the fields, as sequences of names and values in which a proper part in front
comes first, and then without the wildcard before with it. `Key.Precedes` says so apart from the
comparison, and the comparison decides it (`Key.compare_eq_lt_iff`). The order is total, and only
equal keys are compared as equal.

So there is one way to list keys in ascending order (`Key.sorted_eq_of_mem_iff`), and `Key.sorted`
finds it (`Key.ascending_sorted`, `Key.mem_sorted`). It drops repetitions and nothing else
(`Key.perm_sorted`).
-/

namespace VariantStore

open Std

/-- The name comes first, or the value under the same name. -/
def Field.Precedes (f g : Field) : Prop := f.name < g.name ∨ f.name = g.name ∧ f.value < g.value

/-- The fields come first as a sequence, or they are the same and only the other is a wildcard. -/
def Selector.Precedes (s t : Selector) : Prop :=
  List.Lex Field.Precedes s.fields t.fields ∨
    s.fields = t.fields ∧ s.wildcard = false ∧ t.wildcard = true

/-- The text of the resource comes first, or the selector of the same resource. -/
def Key.Precedes (a b : Key) : Prop :=
  a.resource.text < b.resource.text ∨ a.resource = b.resource ∧ a.selector.Precedes b.selector

/-! ## The comparisons are orders -/

theorem compare_text_eq_lt_iff {s t : String} : compare s t = .lt ↔ s < t :=
  compareOfLessAndEq_eq_lt

theorem ResourceId.compare_eq (a b : ResourceId) : compare a b = compare a.text b.text := by
  show (compare a.text b.text).then .eq = _
  cases compare a.text b.text <;> rfl

instance : TransOrd ResourceId where
  eq_swap {a b} := by
    rw [ResourceId.compare_eq, ResourceId.compare_eq, OrientedOrd.eq_swap]
  isLE_trans {a b c} := by
    rw [ResourceId.compare_eq, ResourceId.compare_eq, ResourceId.compare_eq]
    exact TransOrd.isLE_trans

instance : LawfulEqOrd ResourceId where
  eq_of_compare {a b} h := by
    rw [ResourceId.compare_eq] at h
    cases a
    cases b
    cases LawfulEqOrd.eq_of_compare h
    rfl

namespace Selector

instance : TransCmp compareFields :=
  inferInstanceAs (TransCmp (compareLex (compareOn Field.name) (compareOn Field.value)))

instance : LawfulEqCmp compareFields where
  eq_of_compare {f g} h := by
    obtain ⟨hname, hvalue⟩ := Ordering.then_eq_eq.mp h
    cases f
    cases g
    cases LawfulEqOrd.eq_of_compare hname
    cases LawfulEqOrd.eq_of_compare hvalue
    rfl

theorem transCmp_compareLex : TransCmp (List.compareLex compareFields) := inferInstance

theorem lawfulEqCmp_compareLex : LawfulEqCmp (List.compareLex compareFields) := inferInstance

instance : TransCmp fun s t : Selector => List.compareLex compareFields s.fields t.fields where
  eq_swap := transCmp_compareLex.eq_swap
  isLE_trans := transCmp_compareLex.isLE_trans

instance : TransOrd Selector :=
  inferInstanceAs (TransCmp (compareLex
    (fun s t : Selector => List.compareLex compareFields s.fields t.fields)
    (compareOn Selector.wildcard)))

instance : LawfulEqOrd Selector where
  eq_of_compare {s t} h := by
    obtain ⟨hfields, hwildcard⟩ := Ordering.then_eq_eq.mp h
    cases s
    cases t
    cases lawfulEqCmp_compareLex.eq_of_compare hfields
    cases LawfulEqOrd.eq_of_compare hwildcard
    rfl

end Selector

instance : TransOrd Key :=
  inferInstanceAs (TransCmp (compareLex (compareOn Key.resource) (compareOn Key.selector)))

instance : LawfulEqOrd Key where
  eq_of_compare {a b} h := by
    obtain ⟨hresource, hselector⟩ := Ordering.then_eq_eq.mp h
    cases a
    cases b
    cases LawfulEqOrd.eq_of_compare hresource
    cases LawfulEqOrd.eq_of_compare hselector
    rfl

/-! ## The comparisons decide the order -/

/-- Sequences are compared at their first difference, and a proper part in front comes first. -/
theorem compareLex_eq_lt_iff {α : Type} {cmp : α → α → Ordering} [LawfulEqCmp cmp]
    {r : α → α → Prop} (h : ∀ a b, cmp a b = .lt ↔ r a b) {l l' : List α} :
    List.compareLex cmp l l' = .lt ↔ List.Lex r l l' := by
  induction l generalizing l' with
  | nil =>
    cases l' with
    | nil => simp [List.compareLex]
    | cons b l' => simp [List.compareLex]
  | cons a l ih =>
    cases l' with
    | nil => simp [List.compareLex]
    | cons b l' =>
      rw [List.compareLex_cons_cons, Ordering.then_eq_lt, h, LawfulEqCmp.compare_eq_iff_eq, ih,
        List.cons_lex_cons_iff]

theorem Selector.compareFields_eq_lt_iff (f g : Field) :
    compareFields f g = .lt ↔ f.Precedes g := by
  unfold compareFields Field.Precedes
  rw [Ordering.then_eq_lt, compare_text_eq_lt_iff, compare_text_eq_lt_iff,
    LawfulEqCmp.compare_eq_iff_eq]

theorem Selector.compare_eq_lt_iff {s t : Selector} : compare s t = .lt ↔ s.Precedes t := by
  have hwildcard : compare s.wildcard t.wildcard = .lt ↔
      s.wildcard = false ∧ t.wildcard = true := by
    cases s.wildcard <;> cases t.wildcard <;> decide
  show (List.compareLex compareFields s.fields t.fields).then (compare s.wildcard t.wildcard) = .lt
    ↔ _
  rw [Ordering.then_eq_lt, compareLex_eq_lt_iff compareFields_eq_lt_iff,
    LawfulEqCmp.compare_eq_iff_eq, hwildcard]
  rfl

namespace Key

variable {a b c : Key} {keys : List Key}

theorem compare_eq_lt_iff : compare a b = .lt ↔ a.Precedes b := by
  show (compare a.resource b.resource).then (compare a.selector b.selector) = .lt ↔ _
  rw [Ordering.then_eq_lt, Selector.compare_eq_lt_iff, LawfulEqCmp.compare_eq_iff_eq,
    ResourceId.compare_eq, compare_text_eq_lt_iff]
  rfl

theorem compare_eq_gt_iff : compare a b = .gt ↔ b.Precedes a := by
  rw [OrientedCmp.gt_iff_lt, compare_eq_lt_iff]

theorem Precedes.trans (hab : a.Precedes b) (hbc : b.Precedes c) : a.Precedes c := by
  rw [← compare_eq_lt_iff] at hab hbc ⊢
  exact TransCmp.lt_trans hab hbc

theorem Precedes.asymm (h : a.Precedes b) : ¬b.Precedes a := by
  rw [← compare_eq_lt_iff] at h
  rw [← compare_eq_gt_iff, h]
  exact Ordering.noConfusion

instance : Irrefl Precedes where
  irrefl _ h := h.asymm h

instance : Antisymm Precedes where
  antisymm _ _ hab hba := absurd hba hab.asymm

/-! ## Ascending lists -/

theorem mem_insertSorted : c ∈ insertSorted a keys ↔ c = a ∨ c ∈ keys := by
  induction keys with
  | nil => simp [insertSorted]
  | cons b rest ih =>
    unfold insertSorted
    split
    case h_1 => exact List.mem_cons
    case h_2 heq =>
      rw [LawfulEqCmp.eq_of_compare heq]
      simp
    case h_3 =>
      rw [List.mem_cons, ih, List.mem_cons]
      tauto

theorem ascending_insertSorted (a : Key) (h : keys.Pairwise Precedes) :
    (insertSorted a keys).Pairwise Precedes := by
  induction keys with
  | nil => exact List.pairwise_singleton Precedes a
  | cons b rest ih =>
    obtain ⟨hb, hrest⟩ := List.pairwise_cons.mp h
    unfold insertSorted
    split
    case h_1 hlt =>
      have hab : a.Precedes b := compare_eq_lt_iff.mp hlt
      refine List.pairwise_cons.mpr ⟨fun c hc => ?_, h⟩
      rcases List.mem_cons.mp hc with rfl | hc
      · exact hab
      · exact hab.trans (hb c hc)
    case h_2 => exact h
    case h_3 hgt =>
      refine List.pairwise_cons.mpr ⟨fun c hc => ?_, ih hrest⟩
      rcases mem_insertSorted.mp hc with rfl | hc
      · exact compare_eq_gt_iff.mp hgt
      · exact hb c hc

theorem mem_sorted : a ∈ sorted keys ↔ a ∈ keys := by
  induction keys with
  | nil => rfl
  | cons b rest ih =>
    show a ∈ insertSorted b (sorted rest) ↔ _
    rw [mem_insertSorted, ih, List.mem_cons]

theorem ascending_sorted (keys : List Key) : (sorted keys).Pairwise Precedes := by
  induction keys with
  | nil => exact .nil
  | cons a rest ih => exact ascending_insertSorted a ih

/-- Only the keys themselves show, and not how they were listed. -/
theorem sorted_eq_of_mem_iff {other : List Key} (h : ∀ key, key ∈ keys ↔ key ∈ other) :
    sorted keys = sorted other := by
  refine (ascending_sorted keys).eq_of_mem_iff (ascending_sorted other) fun key => ?_
  rw [mem_sorted, mem_sorted, h]

/-- Nothing is dropped of keys that occur once. -/
theorem perm_sorted (h : keys.Nodup) : (sorted keys).Perm keys :=
  (List.perm_ext_iff_of_nodup (ascending_sorted keys).nodup h).mpr fun _ => mem_sorted

end Key

end VariantStore
