import VariantStore.Proofs.Recency.Entries

/-!
# Bounded maps as lists of entries

A bounded map that keeps to its capacity, with distinct keys, stays so under every operation. On
such a map both ways to write come down to one: `renew`, cut to the capacity (`entries_put`,
`entries_entry`). They differ in the value alone: `entry` keeps the value that it finds.
-/

namespace VariantStore.BoundedMap

open Recency

variable {κ ν : Type} [DecidableEq κ] {m : BoundedMap κ ν} {key : κ}

/-- There is room for an entry, keys occur once, and the entries keep to the capacity. -/
structure Valid (m : BoundedMap κ ν) : Prop where
  positive : 0 < m.capacity
  distinct : Distinct m.entries
  bounded : m.size ≤ m.capacity

theorem Valid.get?_eq_some_iff (h : m.Valid) {value : ν} :
    m.get? key = some value ↔ (key, value) ∈ m.entries :=
  value?_eq_some_iff h.distinct

theorem get?_eq_none_iff_not_mem : m.get? key = none ↔ key ∉ m.keys :=
  value?_eq_none_iff

omit [DecidableEq κ] in
theorem valid_empty {capacity : Nat} (h : 0 < capacity) :
    (empty capacity : BoundedMap κ ν).Valid :=
  ⟨h, List.nodup_nil, Nat.zero_le _⟩

omit [DecidableEq κ] in
/-- A map whose entries are part of those of a valid one, in the same order, is valid. -/
theorem Valid.sublist (h : m.Valid) {n : BoundedMap κ ν} (hcap : n.capacity = m.capacity)
    (hsub : n.entries.Sublist m.entries) : n.Valid where
  positive := by rw [hcap]; exact h.positive
  distinct := h.distinct.sublist hsub
  bounded := by rw [hcap]; exact Nat.le_trans hsub.length_le h.bounded

theorem Valid.erase (h : m.Valid) (key : κ) : (m.erase key).Valid :=
  h.sublist rfl (others_sublist key m.entries)

theorem Valid.modify (h : m.Valid) (key : κ) (change : ν → ν) : (m.modify key change).Valid where
  positive := h.positive
  distinct := by
    show (m.modify key change).keys.Nodup
    rw [keys_modify]
    exact h.distinct
  bounded := by
    show (m.entries.map _).length ≤ m.capacity
    rw [List.length_map]
    exact h.bounded

/-- A map whose entries are those of a valid one after a write is valid. -/
theorem Valid.renew (h : m.Valid) {n : BoundedMap κ ν} {value : ν}
    (hcap : n.capacity = m.capacity)
    (hentries : n.entries = (Recency.renew key value m.entries).take m.capacity) : n.Valid where
  positive := by rw [hcap]; exact h.positive
  distinct := by
    rw [hentries]
    exact (distinct_renew h.distinct key value).sublist (List.take_sublist _ _)
  bounded := by
    show n.entries.length ≤ n.capacity
    rw [hentries, hcap]
    exact List.length_take_le _ _

/-! ## Taking out -/

theorem erase_of_not_mem (h : key ∉ m.keys) : m.erase key = m :=
  congrArg (BoundedMap.mk m.capacity) (others_eq_self h)

theorem erase_erase (m : BoundedMap κ ν) (key : κ) : (m.erase key).erase key = m.erase key :=
  congrArg (BoundedMap.mk m.capacity) (others_others key m.entries)

/-- What keys leave that are taken out one after the other. -/
theorem foldl_erase (gone : List κ) (m : BoundedMap κ ν) :
    gone.foldl erase m = { m with entries := m.entries.filter fun e => e.1 ∉ gone } := by
  induction gone generalizing m with
  | nil => simp
  | cons key rest ih =>
    rw [List.foldl_cons, ih, erase, List.filter_filter]
    congr 1
    refine List.filter_congr fun e _ => ?_
    simp [Bool.and_comm, bne, beq_eq_decide]

/-- Neither the order nor a repetition shows. -/
theorem foldl_erase_congr {gone other : List κ} (h : ∀ key, key ∈ gone ↔ key ∈ other)
    (m : BoundedMap κ ν) : gone.foldl erase m = other.foldl erase m := by
  simp only [foldl_erase, h]

/-- Without all of its keys a map is empty. -/
theorem foldl_erase_eq_empty {gone : List κ} (h : ∀ key ∈ m.keys, key ∈ gone) :
    gone.foldl erase m = empty m.capacity := by
  have hentries : (m.entries.filter fun e => e.1 ∉ gone) = [] := by
    rw [List.filter_eq_nil_iff]
    intro e he
    simpa using h e.1 (List.mem_map_of_mem he)
  rw [foldl_erase, hentries]
  rfl

/-! ## Writes -/

/-- A key that is present makes room for itself. -/
theorem Valid.take_renew_of_mem (h : m.Valid) (hmem : key ∈ m.keys) (value : ν) :
    (Recency.renew key value m.entries).take m.capacity = Recency.renew key value m.entries := by
  have hlt := length_others_lt hmem
  refine List.take_of_length_le ?_
  have hbound : m.entries.length ≤ m.capacity := h.bounded
  simp only [Recency.renew, List.length_cons]
  omega

/-- A new key makes the last entry of a full map go. -/
theorem Valid.take_renew_of_not_mem (h : m.Valid) (hmem : key ∉ m.keys) (value : ν) :
    (Recency.renew key value m.entries).take m.capacity
      = (key, value) :: if m.size < m.capacity then m.entries else m.entries.dropLast := by
  have hbound : m.entries.length ≤ m.capacity := h.bounded
  obtain ⟨n, hn⟩ : ∃ n, m.capacity = n + 1 := ⟨m.capacity - 1, by have := h.positive; omega⟩
  -- nothing is taken out for a new key, so it is the capacity that cuts
  rw [Recency.renew, others_eq_self hmem, hn, List.take_succ_cons]
  congr 1
  split
  case isTrue hlt =>
    refine List.take_of_length_le ?_
    simp only [size] at hlt
    omega
  case isFalse hfull =>
    rw [List.dropLast_eq_take]
    congr 1
    simp only [size] at hfull
    omega

theorem entries_put (h : m.Valid) (key : κ) (value : ν) :
    (m.put key value).map.entries = (Recency.renew key value m.entries).take m.capacity := by
  unfold put
  by_cases hmem : key ∈ m.keys
  · rw [if_pos (contains_iff_mem_keys.mpr hmem), h.take_renew_of_mem hmem]
    rfl
  · rw [if_neg (fun hc => hmem (contains_iff_mem_keys.mp hc)), h.take_renew_of_not_mem hmem]
    split <;> rfl

theorem valid_put (h : m.Valid) (key : κ) (value : ν) : (m.put key value).map.Valid :=
  h.renew (capacity_put m key value) (entries_put h key value)

theorem makeRoom_of_mem (hmem : key ∈ m.keys) : m.makeRoom key = ⟨none, m⟩ := by
  unfold makeRoom
  rw [if_neg]
  rintro ⟨-, hc⟩
  rw [contains_iff_mem_keys.mpr hmem] at hc
  exact Bool.noConfusion hc

theorem makeRoom_of_lt (h : m.size < m.capacity) (key : κ) : m.makeRoom key = ⟨none, m⟩ := by
  unfold makeRoom
  rw [if_neg fun hfull => Nat.ne_of_lt h hfull.1]

theorem makeRoom_of_full (h : m.size = m.capacity) (hnew : key ∉ m.keys) :
    m.makeRoom key = ⟨m.entries.getLast?, { m with entries := m.entries.dropLast }⟩ := by
  have hc : m.contains key = false := by
    rw [Bool.eq_false_iff]
    exact fun hc => hnew (contains_iff_mem_keys.mp hc)
  unfold makeRoom
  rw [if_pos ⟨h, hc⟩]

/-- Making room for a new key leaves what a write of it keeps of the others. -/
theorem Valid.makeRoom_of_not_mem (h : m.Valid) (hmem : key ∉ m.keys) :
    (m.makeRoom key).map
      = { m with entries := if m.size < m.capacity then m.entries else m.entries.dropLast } := by
  by_cases hroom : m.size < m.capacity
  · rw [makeRoom_of_lt hroom, if_pos hroom]
  · have hbound := h.bounded
    rw [makeRoom_of_full (by omega) hmem, if_neg hroom]

theorem get?_makeRoom (h : m.Valid) (key : κ) : (m.makeRoom key).map.get? key = m.get? key := by
  by_cases hmem : key ∈ m.keys
  · rw [makeRoom_of_mem hmem]
  · rw [h.makeRoom_of_not_mem hmem, get?_eq_none_iff_not_mem.mpr hmem, get?_eq_none_iff_not_mem]
    intro hroom
    split at hroom
    · exact hmem hroom
    · exact hmem (((List.dropLast_sublist _).map _).subset hroom)

theorem value_entry (h : m.Valid) (key : κ) (make : Unit → ν) :
    (m.entry key make).value = (m.get? key).getD (make ()) := by
  simp only [entry]
  rw [get?_makeRoom h]
  cases m.get? key <;> rfl

theorem capacity_makeRoom (m : BoundedMap κ ν) (key : κ) :
    (m.makeRoom key).map.capacity = m.capacity := by
  unfold makeRoom
  split <;> rfl

theorem capacity_entry (m : BoundedMap κ ν) (key : κ) (make : Unit → ν) :
    (m.entry key make).map.capacity = m.capacity := by
  rw [← capacity_makeRoom m key]
  simp only [entry]
  split <;> rfl

theorem entries_entry (h : m.Valid) (key : κ) (make : Unit → ν) :
    (m.entry key make).map.entries
      = (Recency.renew key ((m.get? key).getD (make ())) m.entries).take m.capacity := by
  simp only [entry]
  rw [get?_makeRoom h]
  by_cases hmem : key ∈ m.keys
  · rw [h.take_renew_of_mem hmem, makeRoom_of_mem hmem]
    cases hv : m.get? key with
    | none => exact absurd hmem (get?_eq_none_iff_not_mem.mp hv)
    | some value => rfl
  · rw [h.take_renew_of_not_mem hmem, h.makeRoom_of_not_mem hmem,
      get?_eq_none_iff_not_mem.mpr hmem]
    rfl

/-- A key that was brought to the front is found with its value. -/
theorem get?_entry_self (m : BoundedMap κ ν) (key : κ) (make : Unit → ν) :
    (m.entry key make).map.get? key = some (m.entry key make).value := by
  simp only [entry]
  cases (m.makeRoom key).map.get? key with
  | none => simp [get?]
  | some value => simp [get?]

theorem get?_modify_self (m : BoundedMap κ ν) (key : κ) (change : ν → ν) :
    (m.modify key change).get? key = (m.get? key).map change := by
  have hkey : ∀ e : κ × ν,
      ((if e.1 == key then (e.1, change e.2) else e).1 == key) = (e.1 == key) := by
    intro e
    split <;> rfl
  simp only [get?, modify, List.find?_map, Function.comp_def, hkey]
  cases hf : m.entries.find? fun e => e.1 == key with
  | none => rfl
  | some e =>
    have heq : (e.1 == key) = true := by simpa using List.find?_some hf
    simp only [Option.map_some, heq, if_true]

/-- A change of the value in front is a write of the changed value. -/
theorem map_take_renew (key : κ) (value : ν) (change : ν → ν) (entries : List (κ × ν)) (n : Nat) :
    ((Recency.renew key value entries).take n).map
        (fun e => if e.1 == key then (e.1, change e.2) else e)
      = (Recency.renew key (change value) entries).take n := by
  have hothers : (others key entries).map
      (fun e => if e.1 == key then (e.1, change e.2) else e) = others key entries := by
    refine (List.map_congr_left fun e he => ?_).trans (List.map_id _)
    rw [if_neg (by simpa using (mem_others.mp he).2)]
    rfl
  rw [List.map_take, Recency.renew, List.map_cons, hothers]
  simp [Recency.renew]

end VariantStore.BoundedMap
