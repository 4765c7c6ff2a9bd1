import Mathlib.Algebra.Order.Ring.Nat
import VariantStore.Proofs.Recency.BoundedMap

/-!
# What a write evicts

Either a write fits, since its key is present or there is room, or the last entry goes (`Wrote`).
Both ways to write are of this kind (`wrote_put`, `wrote_entry`), so the entry that they report is
all that is lost: every other one keeps its value and its place (`Wrote.entries_eq`), and what is
written takes the place of what is replaced and evicted (`Wrote.perm`), also in any sum over the
entries (`Wrote.sum_eq`).
-/

namespace VariantStore

variable {κ ν : Type} [DecidableEq κ]

namespace Recency

theorem value?_cons_self (key : κ) (value : ν) (entries : List (κ × ν)) :
    value? key ((key, value) :: entries) = some value := by
  simp [value?]

theorem value?_cons_of_ne {key : κ} {e : κ × ν} (hne : e.1 ≠ key) (entries : List (κ × ν)) :
    value? key (e :: entries) = value? key entries := by
  unfold value?
  rw [List.find?_cons_of_neg (by simpa using hne)]

/-- Entries are taken out by their keys, so a key is found as before or not at all. -/
theorem value?_filter (stays : κ → Bool) (key : κ) (entries : List (κ × ν)) :
    value? key (entries.filter fun e => stays e.1)
      = if stays key then value? key entries else none := by
  by_cases hstays : stays key = true
  · rw [if_pos hstays]
    unfold value?
    rw [List.find?_filter]
    congr 2
    funext e
    by_cases heq : e.1 = key
    · simp [heq, hstays]
    · simp [heq]
  · rw [if_neg hstays, value?_eq_none_iff]
    intro hmem
    obtain ⟨e, he, rfl⟩ := List.mem_map.mp hmem
    exact hstays (List.mem_filter.mp he).2

theorem value?_others_of_ne {key other : κ} (hne : other ≠ key) (entries : List (κ × ν)) :
    value? other (others key entries) = value? other entries := by
  have hstays : (other != key) = true := by simpa using hne
  exact (value?_filter (fun k => k != key) other entries).trans (if_pos hstays)

/-- The entries are the one of a key, if there is one, and the others. -/
theorem perm_value?_others {entries : List (κ × ν)} (h : Distinct entries) (key : κ) :
    ((value? key entries).toList.map (key, ·) ++ others key entries).Perm entries := by
  induction entries with
  | nil => exact List.Perm.refl _
  | cons e rest ih =>
    obtain ⟨hnot, hrest⟩ := List.nodup_cons.mp h
    by_cases heq : e.1 = key
    · obtain ⟨k, value⟩ := e
      cases heq
      rw [value?_cons_self, others_cons_of_eq rfl, others_eq_self hnot]
      exact List.Perm.refl _
    · rw [value?_cons_of_ne heq, others_cons_of_ne heq]
      exact List.perm_middle.trans ((ih hrest).cons e)

theorem sum_eq_value?_add_others {entries : List (κ × ν)} (h : Distinct entries) (key : κ)
    (f : κ × ν → Nat) :
    (entries.map f).sum = ((value? key entries).toList.map fun value => f (key, value)).sum
      + ((others key entries).map f).sum := by
  rw [← ((perm_value?_others h key).map f).sum_nat, List.map_append, List.sum_append, List.map_map]
  rfl

omit [DecidableEq κ] in
/-- Where entries stand by age, the last one is the oldest. -/
theorem oldest_of_getLast? {age : κ → Nat} {entries : List (κ × ν)}
    (h : (entries.map Prod.fst).Pairwise fun a b => age a < age b) {last : κ × ν}
    (hlast : entries.getLast? = some last) :
    last ∈ entries ∧ ∀ e ∈ entries, age e.1 ≤ age last.1 := by
  obtain ⟨front, rfl⟩ := List.getLast?_eq_some_iff.mp hlast
  refine ⟨by simp, fun e he => ?_⟩
  rw [List.map_append, List.pairwise_append] at h
  rcases List.mem_append.mp he with he | he
  · exact Nat.le_of_lt (h.2.2 e.1 (List.mem_map_of_mem he) last.1 (by simp))
  · rw [List.mem_singleton.mp he]

end Recency

namespace BoundedMap

open Recency

variable {m : BoundedMap κ ν} {key : κ} {value : ν}

/-- What a write makes of the entries, with the entry that it evicts. -/
inductive Wrote (m : BoundedMap κ ν) (key : κ) (value : ν) :
    Option (κ × ν) → List (κ × ν) → Prop
  | fits (h : key ∈ m.keys ∨ m.size < m.capacity) :
      Wrote m key value none (renew key value m.entries)
  | evicts {front : List (κ × ν)} {victim : κ × ν} (hnew : key ∉ m.keys)
      (hfull : m.size = m.capacity) (hlast : m.entries = front ++ [victim]) :
      Wrote m key value (some victim) (renew key value front)

omit [DecidableEq κ] in
theorem notMem_front {front : List (κ × ν)} {victim : κ × ν} (hnew : key ∉ m.keys)
    (hlast : m.entries = front ++ [victim]) : key ∉ front.map Prod.fst := by
  intro hmem
  refine hnew ?_
  rw [keys, hlast, List.map_append]
  exact List.mem_append_left _ hmem

/-! ## Both writes are of this kind -/

/-- An entry goes if and only if a new key meets a full map. -/
theorem exists_evicted_makeRoom_iff (h : m.Valid) :
    (∃ victim, (m.makeRoom key).evicted = some victim) ↔ key ∉ m.keys ∧ m.size = m.capacity := by
  constructor
  · rintro ⟨victim, hvictim⟩
    constructor
    · intro hmem
      rw [makeRoom_of_mem hmem] at hvictim
      cases hvictim
    · by_contra hroom
      rw [makeRoom_of_lt (Nat.lt_of_le_of_ne h.bounded hroom)] at hvictim
      cases hvictim
  · rintro ⟨hnew, hfull⟩
    have hnonempty : m.entries ≠ [] := by
      have hpos := h.positive
      rw [← hfull] at hpos
      exact List.length_pos_iff.mp hpos
    rw [makeRoom_of_full hfull hnew]
    exact ⟨_, List.getLast?_eq_some_getLast hnonempty⟩

theorem getLast?_of_evicted_makeRoom {victim : κ × ν}
    (h : (m.makeRoom key).evicted = some victim) : m.entries.getLast? = some victim := by
  unfold makeRoom at h
  split at h
  · exact h
  · cases h

theorem evicted_entry (m : BoundedMap κ ν) (key : κ) (make : Unit → ν) :
    (m.entry key make).evicted = (m.makeRoom key).evicted := by
  simp only [entry]
  split <;> rfl

theorem evicted_put (h : m.Valid) (key : κ) (value : ν) :
    (m.put key value).evicted = (m.makeRoom key).evicted := by
  have hbound := h.bounded
  unfold put
  by_cases hmem : key ∈ m.keys
  · rw [if_pos (contains_iff_mem_keys.mpr hmem), makeRoom_of_mem hmem]
  · rw [if_neg fun hc => hmem (contains_iff_mem_keys.mp hc)]
    split
    case isTrue hroom => rw [makeRoom_of_lt hroom]
    case isFalse hfull => rw [makeRoom_of_full (by omega) hmem]

/-- A renewed entry, cut to the capacity, comes with what makes room for it. -/
theorem Valid.wrote (h : m.Valid) (key : κ) (value : ν) :
    Wrote m key value (m.makeRoom key).evicted
      ((Recency.renew key value m.entries).take m.capacity) := by
  have hbound := h.bounded
  by_cases hmem : key ∈ m.keys
  · rw [makeRoom_of_mem hmem, h.take_renew_of_mem hmem]
    exact .fits (Or.inl hmem)
  · rw [h.take_renew_of_not_mem hmem]
    by_cases hroom : m.size < m.capacity
    · rw [makeRoom_of_lt hroom, if_pos hroom, ← others_eq_self hmem]
      exact .fits (Or.inr hroom)
    · have hfull : m.size = m.capacity := by omega
      obtain ⟨victim, hvictim⟩ := (exists_evicted_makeRoom_iff h).mpr ⟨hmem, hfull⟩
      obtain ⟨front, hlast⟩ := List.getLast?_eq_some_iff.mp (getLast?_of_evicted_makeRoom hvictim)
      rw [hvictim, if_neg hroom, hlast, List.dropLast_concat,
        ← others_eq_self (notMem_front hmem hlast)]
      exact .evicts hmem hfull hlast

theorem wrote_put (h : m.Valid) (key : κ) (value : ν) :
    Wrote m key value (m.put key value).evicted (m.put key value).map.entries := by
  rw [evicted_put h, entries_put h]
  exact h.wrote key value

theorem wrote_entry (h : m.Valid) (key : κ) (make : Unit → ν) (value : ν) :
    Wrote m key value (m.entry key make).evicted
      ((m.entry key make).map.modify key fun _ => value).entries := by
  have hentries : ((m.entry key make).map.modify key fun _ => value).entries
      = (Recency.renew key value m.entries).take m.capacity := by
    simp only [modify]
    rw [entries_entry h]
    exact map_take_renew key _ (fun _ => value) m.entries m.capacity
  rw [evicted_entry, hentries]
  exact h.wrote key value

/-- Taking the key out first evicts nothing that a write would not. -/
theorem evicted_makeRoom_erase (h : m.Valid) (key : κ) :
    ((m.erase key).makeRoom key).evicted = (m.makeRoom key).evicted := by
  by_cases hmem : key ∈ m.keys
  · have hbound := h.bounded
    have hlt : (m.erase key).size < (m.erase key).capacity :=
      Nat.lt_of_lt_of_le (length_others_lt hmem) hbound
    rw [makeRoom_of_lt hlt, makeRoom_of_mem hmem]
  · rw [erase_of_not_mem hmem]

/-! ## What follows -/

namespace Wrote

variable {dropped : Option (κ × ν)} {entries : List (κ × ν)}

/-- Beside the written entry stand the others as they stood, but for the evicted one. -/
theorem entries_eq (h : Wrote m key value dropped entries) (hm : m.Valid) :
    entries = (key, value) ::
      (others key m.entries).filter fun e => dropped.map Prod.fst ≠ some e.1 := by
  cases h with
  | fits hroom => simp [renew]
  | @evicts front victim hnew hfull hlast =>
    have hfront := notMem_front hnew hlast
    rw [keys, hlast] at hnew
    have hdistinct := hm.distinct
    rw [hlast, Distinct, List.map_append, List.nodup_append] at hdistinct
    -- keys occur once, so the evicted key is that of the last entry alone
    have hstays : front.filter (fun e => (some victim).map Prod.fst ≠ some e.1) = front := by
      rw [List.filter_eq_self]
      intro e he
      have hne := hdistinct.2.2 e.1 (List.mem_map_of_mem he) victim.1 (by simp)
      simpa using Ne.symm hne
    rw [renew, hlast, others_eq_self hnew, others_eq_self hfront, List.filter_append, hstays]
    simp

theorem others_eq (h : Wrote m key value dropped entries) (hm : m.Valid) :
    others key entries
      = (others key m.entries).filter fun e => dropped.map Prod.fst ≠ some e.1 := by
  rw [h.entries_eq hm]
  refine (others_cons_of_eq rfl _).trans (others_eq_self fun hmem => ?_)
  obtain ⟨e, he, heq⟩ := List.mem_map.mp hmem
  exact (mem_others.mp (List.mem_filter.mp he).1).2 heq

theorem value?_eq (h : Wrote m key value dropped entries) (hm : m.Valid) (other : κ) :
    value? other entries = if other = key then some value
      else if dropped.map Prod.fst = some other then none else m.get? other := by
  rw [h.entries_eq hm]
  by_cases heq : other = key
  · rw [if_pos heq, heq, value?_cons_self]
  · have hfilter := value?_filter (fun k => dropped.map Prod.fst ≠ some k) other
      (others key m.entries)
    rw [if_neg heq, value?_cons_of_ne (Ne.symm heq), hfilter, value?_others_of_ne heq]
    by_cases hdropped : dropped.map Prod.fst = some other
    · rw [if_pos hdropped, if_neg (by simpa using hdropped)]
    · rw [if_neg hdropped, if_pos (by simpa using hdropped)]
      rfl

/-- What is written takes the place of what was under the key and of what was evicted. -/
theorem perm (h : Wrote m key value dropped entries) (hm : m.Valid) :
    (entries ++ dropped.toList ++ (m.get? key).toList.map (key, ·)).Perm
      ((key, value) :: m.entries) := by
  cases h with
  | fits hroom =>
    rw [Option.toList_none, List.append_nil, renew, List.cons_append]
    exact (List.perm_append_comm.trans (perm_value?_others hm.distinct key)).cons _
  | @evicts front victim hnew hfull hlast =>
    have hnone : m.get? key = none := get?_eq_none_iff_not_mem.mpr hnew
    rw [hnone, hlast, renew, others_eq_self (notMem_front hnew hlast), Option.toList_none,
      List.map_nil, List.append_nil]
    exact List.Perm.refl _

theorem sum_eq (h : Wrote m key value dropped entries) (hm : m.Valid) (f : κ × ν → Nat) :
    (entries.map f).sum + (dropped.toList.map f).sum
        + ((m.get? key).toList.map fun old => f (key, old)).sum
      = (m.entries.map f).sum + f (key, value) := by
  have hsum := ((h.perm hm).map f).sum_nat
  rw [List.map_append, List.map_append, List.sum_append, List.sum_append, List.map_map,
    List.map_cons, List.sum_cons] at hsum
  rw [Nat.add_comm _ (f (key, value))]
  exact hsum

end Wrote

end BoundedMap

end VariantStore
