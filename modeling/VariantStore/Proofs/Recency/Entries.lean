import Mathlib.Data.Finset.Card
import VariantStore.Recency.BoundedMap

/-!
# Entries in the order of their last writes

A bounded map keeps its entries in a list, the most recently written one first. A write does one
thing to that list: it takes out the entry of its key, puts a new one in front (`renew`) and cuts
the list to the capacity. Everything about the order of eviction follows from this.

* `pairwise_renew`: entries stay in the order of their last writes.
* `Behind`: an entry stands behind entries of exactly the given keys. A write of another key adds
  that key (`behind_take_renew`) and drops the entry when there are too many (`not_mem_take_renew`).
-/

namespace VariantStore.Recency

variable {κ ν : Type}

/-! ## Keys occur once -/

/-- No key occurs twice. -/
abbrev Distinct (entries : List (κ × ν)) : Prop := (entries.map Prod.fst).Nodup

theorem Distinct.eq_of_mem {entries : List (κ × ν)} (h : Distinct entries) {key : κ} {a b : ν}
    (ha : (key, a) ∈ entries) (hb : (key, b) ∈ entries) : a = b := by
  have hinj := List.inj_on_of_nodup_map h ha hb rfl
  exact (Prod.mk.inj hinj).2

theorem Distinct.sublist {entries part : List (κ × ν)} (h : Distinct entries)
    (hsub : part.Sublist entries) : Distinct part :=
  List.Nodup.sublist (hsub.map _) h

variable [DecidableEq κ]

/-- The value under a key. -/
def value? (key : κ) (entries : List (κ × ν)) : Option ν :=
  (entries.find? fun e => e.1 == key).map Prod.snd

theorem value?_eq_some_iff {entries : List (κ × ν)} (h : Distinct entries) {key : κ} {value : ν} :
    value? key entries = some value ↔ (key, value) ∈ entries := by
  unfold value?
  constructor
  · intro hv
    obtain ⟨e, he, rfl⟩ := Option.map_eq_some_iff.mp hv
    have hk : e.1 = key := by simpa using List.find?_some he
    rw [← hk]
    exact List.mem_of_find?_eq_some he
  · intro hm
    cases hf : entries.find? fun e => e.1 == key with
    | none => simpa using List.find?_eq_none.mp hf _ hm
    | some e =>
      have hk : e.1 = key := by simpa using List.find?_some hf
      have he : (key, e.2) ∈ entries := hk ▸ List.mem_of_find?_eq_some hf
      simp [h.eq_of_mem he hm]

theorem value?_eq_none_iff {entries : List (κ × ν)} {key : κ} :
    value? key entries = none ↔ key ∉ entries.map Prod.fst := by
  simp only [value?, Option.map_eq_none_iff, List.find?_eq_none, beq_iff_eq, List.mem_map]
  constructor
  · rintro h ⟨e, he, rfl⟩
    exact h e he rfl
  · intro h e he hk
    exact h ⟨e, he, hk⟩

theorem value?_map {μ : Type} (f : ν → μ) (key : κ) (entries : List (κ × ν)) :
    value? key (entries.map fun e => (e.1, f e.2)) = (value? key entries).map f := by
  simp [value?, List.find?_map, Function.comp_def]

/-! ## Taking out -/

/-- The entries of other keys. -/
def others (key : κ) (entries : List (κ × ν)) : List (κ × ν) :=
  entries.filter fun e => e.1 != key

@[simp] theorem mem_others {key : κ} {entries : List (κ × ν)} {e : κ × ν} :
    e ∈ others key entries ↔ e ∈ entries ∧ e.1 ≠ key := by
  simp [others]

theorem others_sublist (key : κ) (entries : List (κ × ν)) : (others key entries).Sublist entries :=
  List.filter_sublist

/-- A key that does not occur is not missed. -/
theorem others_eq_self {entries : List (κ × ν)} {key : κ} (h : key ∉ entries.map Prod.fst) :
    others key entries = entries := by
  unfold others
  rw [List.filter_eq_self]
  intro e he
  have hne : e.1 ≠ key := fun hk => h (hk ▸ List.mem_map_of_mem he)
  simpa using hne

/-- A key that occurs is taken out. -/
theorem length_others_lt {entries : List (κ × ν)} {key : κ} (h : key ∈ entries.map Prod.fst) :
    (others key entries).length < entries.length := by
  obtain ⟨e, he, rfl⟩ := List.mem_map.mp h
  rw [others, List.length_filter_lt_length_iff_exists]
  exact ⟨e, he, by simp⟩

@[simp] theorem others_others (key : κ) (entries : List (κ × ν)) :
    others key (others key entries) = others key entries := by
  simp [others, List.filter_filter]

theorem others_cons_of_eq {key : κ} {e : κ × ν} (heq : e.1 = key) (entries : List (κ × ν)) :
    others key (e :: entries) = others key entries :=
  List.filter_cons_of_neg (by simpa using heq)

theorem others_cons_of_ne {key : κ} {e : κ × ν} (hne : e.1 ≠ key) (entries : List (κ × ν)) :
    others key (e :: entries) = e :: others key entries :=
  List.filter_cons_of_pos (by simpa using hne)

theorem others_map {μ : Type} (f : ν → μ) (key : κ) (entries : List (κ × ν)) :
    others key (entries.map fun e => (e.1, f e.2))
      = (others key entries).map fun e => (e.1, f e.2) := by
  simp [others, List.filter_map, Function.comp_def]

/-! ## Writing -/

/-- Writes an entry in front of those of other keys. -/
def renew (key : κ) (value : ν) (entries : List (κ × ν)) : List (κ × ν) :=
  (key, value) :: others key entries

theorem distinct_renew {entries : List (κ × ν)} (h : Distinct entries) (key : κ) (value : ν) :
    Distinct (renew key value entries) := by
  refine List.nodup_cons.mpr ⟨?_, h.sublist (others_sublist key entries)⟩
  simp

theorem mem_of_mem_renew {entries : List (κ × ν)} {key : κ} {value : ν} {e : κ × ν}
    (h : e ∈ renew key value entries) : e = (key, value) ∨ (e ∈ entries ∧ e.1 ≠ key) := by
  rcases List.mem_cons.mp h with rfl | h
  · exact Or.inl rfl
  · exact Or.inr (mem_others.mp h)

theorem renew_map {μ : Type} (f : ν → μ) (key : κ) (value : ν) (entries : List (κ × ν)) :
    renew key (f value) (entries.map fun e => (e.1, f e.2))
      = (renew key value entries).map fun e => (e.1, f e.2) := by
  unfold renew
  rw [others_map, List.map_cons]

@[simp] theorem others_renew (key : κ) (value : ν) (entries : List (κ × ν)) :
    others key (renew key value entries) = others key entries :=
  (others_cons_of_eq rfl _).trans (others_others key entries)

/-- Of two writes under one key the second leaves what it alone leaves. -/
theorem renew_renew (key : κ) (old new : ν) (entries : List (κ × ν)) :
    renew key new (renew key old entries) = renew key new entries :=
  congrArg ((key, new) :: ·) (others_renew key old entries)

theorem take_others_take {entries : List (κ × ν)} (h : Distinct entries) (key : κ) (n : Nat) :
    (others key (entries.take (n + 1))).take n = (others key entries).take n := by
  induction entries generalizing n with
  | nil => rfl
  | cons e rest ih =>
    obtain ⟨hnot, hrest⟩ := List.nodup_cons.mp h
    rw [List.take_succ_cons]
    by_cases heq : e.1 = key
    · -- the key does not occur again, so nothing else is taken out
      rw [heq] at hnot
      have hnot' : key ∉ (rest.take n).map Prod.fst := fun hmem =>
        hnot (((List.take_sublist n rest).map Prod.fst).subset hmem)
      rw [others_cons_of_eq heq, others_cons_of_eq heq, others_eq_self hnot, others_eq_self hnot',
        List.take_take, Nat.min_self]
    · rw [others_cons_of_ne heq, others_cons_of_ne heq]
      cases n with
      | zero => rfl
      | succ n => rw [List.take_succ_cons, List.take_succ_cons, ih hrest n]

/-- What is cut off before a write would have been cut off after it. -/
theorem take_renew_take {entries : List (κ × ν)} (h : Distinct entries) (key : κ) (value : ν)
    (n : Nat) : (renew key value (entries.take n)).take n = (renew key value entries).take n := by
  cases n with
  | zero => rfl
  | succ n =>
    rw [renew, renew, List.take_succ_cons, List.take_succ_cons, take_others_take h]

/-- A write keeps the order of the last writes: the written key is the youngest, and the others age
alike. -/
theorem pairwise_renew {age age' : κ → Nat} {entries : List (κ × ν)} {key : κ} {value : ν}
    (hkey : age' key = 0) (hothers : ∀ other, other ≠ key → age' other = age other + 1)
    (h : (entries.map Prod.fst).Pairwise fun a b => age a < age b) :
    ((renew key value entries).map Prod.fst).Pairwise fun a b => age' a < age' b := by
  rw [List.pairwise_map] at h ⊢
  refine List.pairwise_cons.mpr ⟨?_, ?_⟩
  · intro e he
    have hage := hothers e.1 (mem_others.mp he).2
    show age' key < age' e.1
    omega
  · refine (h.sublist (others_sublist key entries)).imp_of_mem ?_
    intro a b ha hb hab
    have hage := hothers a.1 (mem_others.mp ha).2
    have hage' := hothers b.1 (mem_others.mp hb).2
    omega

omit [DecidableEq κ] in
/-- Where entries stand by age, the first one that passes a test is the youngest that does. -/
theorem find?_eq_some_iff_youngest {age : κ → Nat} {entries : List (κ × ν)}
    (h : (entries.map Prod.fst).Pairwise fun a b => age a < age b) {test : κ × ν → Bool}
    {e : κ × ν} :
    entries.find? test = some e ↔ e ∈ entries ∧ test e = true ∧
      ∀ other ∈ entries, test other = true → age e.1 ≤ age other.1 := by
  induction entries with
  | nil => simp
  | cons head rest ih =>
    obtain ⟨hhead, hrest⟩ := List.pairwise_cons.mp h
    have hyounger : ∀ f ∈ rest, age head.1 < age f.1 := fun f hf =>
      hhead f.1 (List.mem_map_of_mem hf)
    by_cases hpass : test head = true
    · rw [List.find?_cons_of_pos hpass, Option.some.injEq]
      constructor
      · rintro rfl
        refine ⟨List.mem_cons_self, hpass, fun other hother _ => ?_⟩
        rcases List.mem_cons.mp hother with rfl | hother
        · exact Nat.le_refl _
        · exact Nat.le_of_lt (hyounger other hother)
      · rintro ⟨he, -, hmin⟩
        rcases List.mem_cons.mp he with rfl | he
        · rfl
        · have hlt := hyounger e he
          have hle := hmin head List.mem_cons_self hpass
          omega
    · rw [List.find?_cons_of_neg hpass, ih hrest]
      constructor
      · rintro ⟨he, htest, hmin⟩
        refine ⟨List.mem_cons_of_mem head he, htest, fun other hother hpasses => ?_⟩
        rcases List.mem_cons.mp hother with rfl | hother
        · exact absurd hpasses hpass
        · exact hmin other hother hpasses
      · rintro ⟨he, htest, hmin⟩
        rcases List.mem_cons.mp he with rfl | he
        · exact absurd htest hpass
        · exact ⟨he, htest, fun other hother => hmin other (List.mem_cons_of_mem head hother)⟩

/-! ## What stands in front of an entry -/

/-- The entry stands in the list, behind entries of exactly the given keys. -/
def Behind (ahead : Finset κ) (key : κ) (value : ν) (entries : List (κ × ν)) : Prop :=
  ∃ front back, entries = front ++ (key, value) :: back ∧ (front.map Prod.fst).toFinset = ahead

theorem Behind.mem {ahead : Finset κ} {key : κ} {value : ν} {entries : List (κ × ν)}
    (h : Behind ahead key value entries) : (key, value) ∈ entries := by
  obtain ⟨front, back, rfl, -⟩ := h
  simp

/-- A list cut behind an entry still holds it. -/
theorem take_append_cons {α : Type} {front back : List α} {e : α} {n : Nat}
    (h : front.length < n) :
    (front ++ e :: back).take n = front ++ e :: back.take (n - front.length - 1) := by
  obtain ⟨m, hm⟩ : ∃ m, n - front.length = m + 1 := ⟨n - front.length - 1, by omega⟩
  rw [List.take_append, List.take_of_length_le (by omega), hm, List.take_succ_cons,
    Nat.add_sub_cancel]

theorem behind_take_renew_self {n : Nat} (hn : 0 < n) (key : κ) (value : ν)
    (entries : List (κ × ν)) : Behind ∅ key value ((renew key value entries).take n) := by
  obtain ⟨m, rfl⟩ : ∃ m, n = m + 1 := ⟨n - 1, by omega⟩
  exact ⟨[], _, rfl, rfl⟩

section Other

variable {entries : List (κ × ν)} {ahead : Finset κ} {key other : κ} {value : ν}

theorem others_append_cons (hne : key ≠ other) (front back : List (κ × ν)) :
    others other (front ++ (key, value) :: back)
      = others other front ++ (key, value) :: others other back := by
  simp [others, hne]

theorem renew_append_cons (hne : key ≠ other) (new : ν) (front back : List (κ × ν)) :
    renew other new (front ++ (key, value) :: back)
      = renew other new front ++ (key, value) :: others other back := by
  unfold renew
  rw [others_append_cons hne, List.cons_append]

theorem toFinset_renew (other : κ) (new : ν) (front : List (κ × ν)) :
    ((renew other new front).map Prod.fst).toFinset
      = insert other (front.map Prod.fst).toFinset := by
  ext k
  by_cases hk : k = other
  · simp [renew, hk]
  · simp [renew, hk]

/-- The front of an entry is as long as there are keys in it. -/
theorem length_front {front back : List (κ × ν)} (hd : Distinct (front ++ back)) :
    front.length = (front.map Prod.fst).toFinset.card := by
  rw [List.toFinset_card_of_nodup (hd.sublist (List.sublist_append_left _ _)), List.length_map]

theorem length_front_renew {front back : List (κ × ν)}
    (hd : Distinct (front ++ (key, value) :: back)) (hne : key ≠ other) (new : ν) :
    (renew other new front).length = (insert other (front.map Prod.fst).toFinset).card := by
  have hr := distinct_renew hd other new
  rw [renew_append_cons hne] at hr
  rw [← toFinset_renew other new, length_front hr]

/-- A write of another key puts that key in front, as long as there is room. -/
theorem behind_take_renew {n : Nat} (hd : Distinct entries) (h : Behind ahead key value entries)
    (hne : key ≠ other) (new : ν) (hn : (insert other ahead).card < n) :
    Behind (insert other ahead) key value ((renew other new entries).take n) := by
  obtain ⟨front, back, rfl, rfl⟩ := h
  have hlen := length_front_renew hd hne new
  rw [renew_append_cons hne, take_append_cons (by omega)]
  exact ⟨_, _, rfl, toFinset_renew other new front⟩

/-- Without room the entry is dropped. -/
theorem not_mem_take_renew {n : Nat} (hd : Distinct entries) (h : Behind ahead key value entries)
    (hne : key ≠ other) (new : ν) (hn : n ≤ (insert other ahead).card) :
    key ∉ ((renew other new entries).take n).map Prod.fst := by
  obtain ⟨front, back, rfl, rfl⟩ := h
  have hlen := length_front_renew hd hne new
  have hr := distinct_renew hd other new
  rw [renew_append_cons hne] at hr ⊢
  -- the cut falls into the front, where the key does not occur
  rw [List.take_append_of_le_length (by omega)]
  rw [Distinct, List.map_append, List.nodup_append] at hr
  intro hmem
  refine hr.2.2 key ?_ key (by simp) rfl
  exact ((List.take_sublist _ _).map _).subset hmem

/-- Taking another key out leaves the entry where it stands. -/
theorem behind_others (h : Behind ahead key value entries) (hne : key ≠ other) :
    Behind (ahead.erase other) key value (others other entries) := by
  obtain ⟨front, back, rfl, rfl⟩ := h
  refine ⟨others other front, others other back, others_append_cons hne front back, ?_⟩
  ext k
  by_cases hk : k = other
  · simp [hk]
  · simp [hk]

end Other

end VariantStore.Recency
