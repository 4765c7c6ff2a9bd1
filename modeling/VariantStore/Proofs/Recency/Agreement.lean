import VariantStore.Proofs.Recency.Fates

/-!
# The two ways to write agree

A bounded map is written by `put`, which looks at the key first, and by `entry`, which makes room
first. They do the same: `entry` is a `put` of the value that it finds, or of the one that it makes
if it finds none (`entry_eq`). What a write puts behind its entry does not depend on the value
(`exists_rest_of_put`), so a change of the value that `entry` has found or made leaves everything
else as it is (`agreement_of_run`).
-/

namespace VariantStore.BoundedMap

open Recency

variable {κ ν : Type} [DecidableEq κ] {m : BoundedMap κ ν} {key : κ}

theorem map_entry (h : m.Valid) (key : κ) (make : Unit → ν) :
    (m.entry key make).map = (m.put key ((m.get? key).getD (make ()))).map := by
  have hcapacity : (m.entry key make).map.capacity
      = (m.put key ((m.get? key).getD (make ()))).map.capacity := by
    rw [capacity_entry, capacity_put]
  have hentries : (m.entry key make).map.entries
      = (m.put key ((m.get? key).getD (make ()))).map.entries := by
    rw [entries_entry h, entries_put h]
  exact congrArg₂ BoundedMap.mk hcapacity hentries

/-- Bringing a key to the front writes the value that is found, or one that is made. -/
theorem entry_eq (h : m.Valid) (key : κ) (make : Unit → ν) :
    let value := (m.get? key).getD (make ())
    m.entry key make
      = ⟨value, (m.get? key).isNone, (m.put key value).evicted, (m.put key value).map⟩ := by
  intro value
  have hevicted : (m.entry key make).evicted = (m.put key value).evicted := by
    rw [evicted_entry, evicted_put h]
  calc m.entry key make
    _ = ⟨(m.entry key make).value, (m.entry key make).made, (m.entry key make).evicted,
          (m.entry key make).map⟩ := rfl
    _ = ⟨value, (m.get? key).isNone, (m.put key value).evicted, (m.put key value).map⟩ := by
      rw [value_entry h, made_entry h, hevicted, map_entry h]

/-- What stands behind a written entry depends on its key alone. -/
theorem exists_rest_of_put (h : m.Valid) (key : κ) :
    ∃ rest, key ∉ rest.map Prod.fst ∧
      ∀ value, (m.put key value).map = ⟨m.capacity, (key, value) :: rest⟩ := by
  obtain ⟨n, hn⟩ : ∃ n, m.capacity = n + 1 := ⟨m.capacity - 1, by have := h.positive; omega⟩
  refine ⟨(others key m.entries).take n, fun hmem => ?_, fun value => ?_⟩
  · obtain ⟨e, he, heq⟩ := List.mem_map.mp hmem
    exact (mem_others.mp (List.mem_of_mem_take he)).2 heq
  · refine congrArg₂ BoundedMap.mk (capacity_put m key value) ?_
    rw [entries_put h, hn, renew, List.take_succ_cons]

/-- A change of the value in front leaves the others alone. -/
theorem modify_front {capacity : Nat} {value : ν} {rest : List (κ × ν)}
    (hrest : key ∉ rest.map Prod.fst) (change : ν → ν) :
    modify ⟨capacity, (key, value) :: rest⟩ key change
      = ⟨capacity, (key, change value) :: rest⟩ := by
  have hothers : rest.map (fun e => if e.1 == key then (e.1, change e.2) else e) = rest := by
    refine (List.map_congr_left fun e he => if_neg ?_).trans (List.map_id _)
    have hne : e.1 ≠ key := fun heq => hrest (heq ▸ List.mem_map_of_mem he)
    simpa using hne
  rw [modify, List.map_cons, hothers, beq_self_eq_true, if_pos rfl]

/-- After any run from nothing, both ways to write leave the same map and evict the same entry. A
key that is absent is written with the value that is made; one that is present keeps its value, no
value is made and nothing is evicted. The value found or made stands in front, and a later change of
it leaves the other entries as they are. -/
theorem agreement_of_run {capacity : Nat} (hc : 0 < capacity) (ops : List (Action κ ν)) (key : κ)
    (make : Unit → ν) :
    let m : BoundedMap κ ν := (empty capacity).run ops
    let e := m.entry key make
    (m.get? key = none →
      e.map = (m.put key (make ())).map ∧ e.evicted = (m.put key (make ())).evicted ∧
        e.made = true ∧ e.value = make ()) ∧
    (∀ value, m.get? key = some value →
      e.map = (m.put key value).map ∧ e.evicted = none ∧ (m.put key value).evicted = none ∧
        e.made = false ∧ e.value = value ∧ ∀ other, m.entry key other = e) ∧
    ∃ rest, key ∉ rest.map Prod.fst ∧
      e.map = ⟨capacity, (key, e.value) :: rest⟩ ∧
      ∀ change, e.map.modify key change = ⟨capacity, (key, change e.value) :: rest⟩ := by
  intro m e
  have hvalid : m.Valid := valid_run (valid_empty hc) ops
  have hcapacity : m.capacity = capacity := capacity_run _ ops
  refine ⟨fun habsent => ?_, fun value hvalue => ?_, ?_⟩
  · have he := entry_eq hvalid key make
    rw [habsent, Option.getD_none] at he
    simp only [e, he, Option.isNone_none, and_self]
  · have hfound (other : Unit → ν) := entry_eq hvalid key other
    simp only [hvalue, Option.getD_some] at hfound
    -- a key that is present makes room for itself
    have hmem : key ∈ m.keys := List.mem_map_of_mem (hvalid.get?_eq_some_iff.mp hvalue)
    have hnone : (m.put key value).evicted = none := by
      rw [evicted_put hvalid, makeRoom_of_mem hmem]
    simp only [e, hfound, hnone, Option.isNone_some, and_self, implies_true]
  · obtain ⟨rest, hrest, hput⟩ := exists_rest_of_put hvalid key
    have hmap : e.map = ⟨capacity, (key, e.value) :: rest⟩ := by
      rw [map_entry hvalid, hput, ← value_entry hvalid, hcapacity]
    refine ⟨rest, hrest, hmap, fun change => ?_⟩
    rw [hmap]
    exact modify_front hrest change

/-- Two keys where there is room for two: a third is written either way, and the first, which was
changed in place, goes. -/
theorem agreement_of_full :
    let m : BoundedMap Nat Nat := (empty 2).run [.put 1 10, .put 2 20, .modify 1 (· + 1)]
    m.get? 3 = none ∧ m.get? 2 = some 20 ∧
      (m.entry 3 fun _ => 30).evicted = (m.put 3 30).evicted ∧
      (m.entry 2 fun _ => 30).map = (m.put 2 20).map := by
  intro m
  have habsent : m.get? 3 = none := rfl
  have hpresent : m.get? 2 = some 20 := rfl
  obtain ⟨hnew, -⟩ := agreement_of_run (by decide : 0 < 2) _ 3 fun _ => 30
  obtain ⟨-, hold, -⟩ := agreement_of_run (by decide : 0 < 2) _ 2 fun _ => 30
  exact ⟨habsent, hpresent, (hnew habsent).2.1, (hold 20 hpresent).1⟩

end VariantStore.BoundedMap
