import VariantStore.Proofs.Recency.Fates

/-!
# Runs with numbered entries

Two entries may look the same, and a value may be changed in place. To tell entries apart, each value
is given the number of the action that made it (`numbered`). No number is given twice
(`nodup_creations`), and changes leave the numbers alone (`keeps_number`), so every entry that was
made is present or has ended in one way (`existsUnique_fate`).

A map never looks at its values. So the numbers change nothing else, and without them everything is
as it was (`run_mapValues`, `creations_mapValues`, `fates_mapValues`).
-/

namespace VariantStore.BoundedMap

open Recency

variable {κ ν μ : Type}

/-! ## Numbers -/

/-- The action with a number at every value that it makes. -/
def Action.number (n : Nat) : Action κ ν → Action κ (Nat × ν)
  | .put key value => .put key (n, value)
  | .entry key make => .entry key fun u => (n, make u)
  | .get key => .get key
  | .modify key change => .modify key fun value => (value.1, change value.2)
  | .contains key => .contains key
  | .erase key => .erase key
  | .clear => .clear

/-- The actions, each with its own number. -/
def numbered (n : Nat) : List (Action κ ν) → List (Action κ (Nat × ν))
  | [] => []
  | op :: ops => op.number n :: numbered (n + 1) ops

theorem keeps_number (n : Nat) (op : Action κ ν) : (op.number n).Keeps Prod.fst := by
  cases op with
  | modify key change => exact fun value => rfl
  | put _ _ | entry _ _ | get _ | contains _ | erase _ | clear => trivial

theorem keeps_of_mem_numbered {n : Nat} {ops : List (Action κ ν)} {op : Action κ (Nat × ν)}
    (h : op ∈ numbered n ops) : op.Keeps Prod.fst := by
  induction ops generalizing n with
  | nil => cases h
  | cons first ops ih =>
    rcases List.mem_cons.mp h with rfl | h
    · exact keeps_number n first
    · exact ih h

variable [DecidableEq κ]

/-- An action makes one entry at most, with its own number. -/
theorem created_number (m : BoundedMap κ (Nat × ν)) (n : Nat) (op : Action κ ν) :
    m.created (op.number n) = [] ∨
      ∃ key value, m.created (op.number n) = [(key, n, value)] := by
  cases op with
  | put key value => exact Or.inr ⟨key, value, rfl⟩
  | entry key make =>
    rw [Action.number, created]
    split
    case isTrue hmade =>
      rw [value_of_made hmade]
      exact Or.inr ⟨key, make (), rfl⟩
    case isFalse => exact Or.inl rfl
  | get _ | modify _ _ | contains _ | erase _ | clear => exact Or.inl rfl

theorem le_of_mem_creations {m : BoundedMap κ (Nat × ν)} {n : Nat} {ops : List (Action κ ν)}
    {e : κ × Nat × ν} (h : e ∈ m.creations (numbered n ops)) : n ≤ e.2.1 := by
  induction ops generalizing m n with
  | nil => cases h
  | cons op ops ih =>
    rcases List.mem_append.mp h with h | h
    · rcases m.created_number n op with hnone | ⟨key, value, hone⟩
      · rw [hnone] at h
        cases h
      · rw [hone, List.mem_singleton] at h
        rw [h]
    · have hle := ih h
      omega

/-- No number is given twice. -/
theorem nodup_creations (m : BoundedMap κ (Nat × ν)) (n : Nat) (ops : List (Action κ ν)) :
    ((m.creations (numbered n ops)).map fun e => e.2.1).Nodup := by
  induction ops generalizing m n with
  | nil => exact List.nodup_nil
  | cons op ops ih =>
    have hrest := ih (m.perform (op.number n)) (n + 1)
    rw [numbered, creations]
    rcases m.created_number n op with hnone | ⟨key, value, hone⟩
    · rw [hnone]
      exact hrest
    · rw [hone]
      refine List.nodup_cons.mpr ⟨fun hmem => ?_, hrest⟩
      obtain ⟨e, he, heq⟩ := List.mem_map.mp hmem
      have hle : n + 1 ≤ e.2.1 := le_of_mem_creations he
      rw [heq] at hle
      exact Nat.not_succ_le_self n hle

/-! ## The numbers change nothing else -/

/-- The map with a function of each value in the place of the value. -/
def mapValues (f : ν → μ) (m : BoundedMap κ ν) : BoundedMap κ μ :=
  ⟨m.capacity, m.entries.map (onValue f)⟩

omit [DecidableEq κ] in
@[simp] theorem size_mapValues (f : ν → μ) (m : BoundedMap κ ν) : (m.mapValues f).size = m.size :=
  List.length_map _

omit [DecidableEq κ] in
@[simp] theorem keys_mapValues (f : ν → μ) (m : BoundedMap κ ν) : (m.mapValues f).keys = m.keys :=
  List.map_map ..

theorem get?_mapValues (f : ν → μ) (m : BoundedMap κ ν) (key : κ) :
    (m.mapValues f).get? key = (m.get? key).map f :=
  value?_map f key m.entries

omit [DecidableEq κ] in
theorem Valid.mapValues {m : BoundedMap κ ν} (h : m.Valid) (f : ν → μ) : (m.mapValues f).Valid where
  positive := h.positive
  distinct := by
    show (m.mapValues f).keys.Nodup
    rw [keys_mapValues]
    exact h.distinct
  bounded := by
    rw [size_mapValues]
    exact h.bounded

theorem evicted_makeRoom_mapValues (f : ν → μ) (m : BoundedMap κ ν) (key : κ) :
    ((m.mapValues f).makeRoom key).evicted = (m.makeRoom key).evicted.map (onValue f) := by
  have hcontains : (m.mapValues f).contains key = m.contains key := by
    rw [Bool.eq_iff_iff, contains_iff_mem_keys, contains_iff_mem_keys, keys_mapValues]
  simp only [makeRoom, size_mapValues, hcontains]
  show (if m.size = m.capacity ∧ m.contains key = false then _ else _ : Put κ μ).evicted = _
  split
  · exact List.getLast?_map
  · rfl

section Forget

variable {m : BoundedMap κ (Nat × ν)}

theorem act_number (capacity n : Nat) (op : Action κ ν) (entries : List (κ × Nat × ν)) :
    op.act capacity (entries.map (onValue Prod.snd))
      = ((op.number n).act capacity entries).map (onValue Prod.snd) := by
  cases op with
  | put key value =>
    rw [Action.number, Action.act, Action.act, List.map_take, ← renew_map]
  | entry key make =>
    rw [Action.number, Action.act, Action.act, List.map_take, ← renew_map, value?_map]
    cases value? key entries <;> rfl
  | modify key change =>
    rw [Action.number, Action.act, Action.act, List.map_map, List.map_map]
    refine List.map_congr_left fun e _ => ?_
    simp only [Function.comp_apply]
    split <;> rfl
  | erase key => exact others_map Prod.snd key entries
  | get _ | contains _ | clear => rfl

theorem perform_mapValues (h : m.Valid) (n : Nat) (op : Action κ ν) :
    (m.mapValues Prod.snd).perform op = (m.perform (op.number n)).mapValues Prod.snd := by
  have hcap : ((m.mapValues Prod.snd).perform op).capacity = (m.perform (op.number n)).capacity := by
    rw [capacity_perform, capacity_perform]
    rfl
  have hentries : ((m.mapValues Prod.snd).perform op).entries
      = (m.perform (op.number n)).entries.map (onValue Prod.snd) := by
    rw [entries_perform (h.mapValues Prod.snd), entries_perform h]
    exact act_number m.capacity n op m.entries
  exact congrArg₂ BoundedMap.mk hcap hentries

theorem created_mapValues (h : m.Valid) (n : Nat) (op : Action κ ν) :
    (m.mapValues Prod.snd).created op
      = (m.created (op.number n)).map (onValue Prod.snd) := by
  cases op with
  | entry key make =>
    have hget := get?_mapValues Prod.snd m key
    cases hnumbered : m.get? key with
    | none =>
      rw [hnumbered] at hget
      rw [Action.number, created_entry_of_none (h.mapValues Prod.snd) hget,
        created_entry_of_none h hnumbered]
      rfl
    | some value =>
      rw [hnumbered] at hget
      rw [Action.number, created_entry_of_some (h.mapValues Prod.snd) hget,
        created_entry_of_some h hnumbered]
      rfl
  | put _ _ | get _ | modify _ _ | contains _ | erase _ | clear => rfl

theorem ended_mapValues (h : m.Valid) (n : Nat) (op : Action κ ν) :
    (m.mapValues Prod.snd).ended op
      = (m.ended (op.number n)).map fun f => (f.1, onValue Prod.snd f.2) := by
  cases op with
  | put key value =>
    simp only [Action.number, ended, evicted_put h, evicted_put (h.mapValues Prod.snd),
      evicted_makeRoom_mapValues, get?_mapValues, Option.toList_map, List.map_append, List.map_map]
    rfl
  | entry key make =>
    simp only [Action.number, ended, evicted_entry, evicted_makeRoom_mapValues, Option.toList_map,
      List.map_map]
    rfl
  | erase key =>
    simp only [Action.number, ended, get?_mapValues, Option.toList_map, List.map_map]
    rfl
  | clear =>
    simp only [Action.number, ended, mapValues, List.map_map]
    rfl
  | get _ | modify _ _ | contains _ => rfl

theorem run_mapValues (h : m.Valid) (n : Nat) (ops : List (Action κ ν)) :
    (m.mapValues Prod.snd).run ops = (m.run (numbered n ops)).mapValues Prod.snd := by
  induction ops generalizing m n with
  | nil => rfl
  | cons op ops ih =>
    show ((m.mapValues Prod.snd).perform op).run ops = _
    rw [perform_mapValues h n op]
    exact ih (valid_perform h _) (n + 1)

theorem creations_mapValues (h : m.Valid) (n : Nat) (ops : List (Action κ ν)) :
    (m.mapValues Prod.snd).creations ops
      = (m.creations (numbered n ops)).map (onValue Prod.snd) := by
  induction ops generalizing m n with
  | nil => rfl
  | cons op ops ih =>
    rw [creations, created_mapValues h n op, perform_mapValues h n op,
      ih (valid_perform h _) (n + 1), ← List.map_append]
    rfl

theorem endings_mapValues (h : m.Valid) (n : Nat) (ops : List (Action κ ν)) :
    (m.mapValues Prod.snd).endings ops
      = (m.endings (numbered n ops)).map fun f => (f.1, onValue Prod.snd f.2) := by
  induction ops generalizing m n with
  | nil => rfl
  | cons op ops ih =>
    rw [endings, ended_mapValues h n op, perform_mapValues h n op,
      ih (valid_perform h _) (n + 1), ← List.map_append]
    rfl

theorem fates_mapValues (h : m.Valid) (n : Nat) (ops : List (Action κ ν)) :
    (m.mapValues Prod.snd).fates ops
      = (m.fates (numbered n ops)).map fun f => (f.1, onValue Prod.snd f.2) := by
  rw [fates, fates, run_mapValues h n, endings_mapValues h n, List.map_append, List.map_map]
  simp only [mapValues, List.map_map]
  rfl

end Forget

/-! ## Every entry has one fate -/

section Numbered

variable {capacity : Nat}

/-- Number by number, the fates of a run are what it made. -/
theorem perm_fates_numbered (hc : 0 < capacity) (n : Nat) (ops : List (Action κ ν)) :
    (((empty capacity).fates (numbered n ops)).map fun f => onValue Prod.fst f.2).Perm
      (((empty capacity).creations (numbered n ops)).map (onValue Prod.fst)) := by
  have hvalid : (empty capacity : BoundedMap κ (Nat × ν)).Valid := valid_empty hc
  have hperm := perm_run hvalid fun op (hop : op ∈ numbered n ops) => keeps_of_mem_numbered hop
  have hnothing : (empty capacity : BoundedMap κ (Nat × ν)).entries = [] := rfl
  rw [hnothing, List.append_nil, List.map_map] at hperm
  exact hperm

theorem nodup_fates (hc : 0 < capacity) (n : Nat) (ops : List (Action κ ν)) :
    (((empty capacity).fates (numbered n ops)).map fun f => f.2.2.1).Nodup := by
  have hperm := (perm_fates_numbered hc n ops).map Prod.snd
  rw [List.map_map, List.map_map] at hperm
  exact hperm.nodup_iff.mpr (nodup_creations _ n ops)

theorem existsUnique_fate (hc : 0 < capacity) (n : Nat) {ops : List (Action κ ν)}
    {e : κ × Nat × ν} (he : e ∈ (empty capacity).creations (numbered n ops)) :
    ∃! fate, ∃ value, (fate, e.1, e.2.1, value) ∈ (empty capacity).fates (numbered n ops) := by
  have hmem := (perm_fates_numbered hc n ops).mem_iff.mpr (List.mem_map_of_mem he)
  obtain ⟨⟨fate, key, number, value⟩, hf, heq⟩ := List.mem_map.mp hmem
  cases heq
  refine ⟨fate, ⟨value, hf⟩, ?_⟩
  rintro other ⟨value', hf'⟩
  -- the number stands for one entry of the list
  have hsame := List.inj_on_of_nodup_map (nodup_fates hc n ops) hf' hf rfl
  exact congrArg Prod.fst hsame

end Numbered

/-! ## Every run -/

/-- After any run from nothing, a map holds what the ideal actions leave, cut to the capacity. Keys
occur once and stand in the order of their last writes, which are the only actions that move an
entry. What a write reports is the last entry, for a new key in a full map and never else. Every
entry that was made, told apart by its number, is present or has ended in one way. If there were
`put`s only, the keys are the first different ones backwards, each with its last value. -/
theorem recency_of_run {capacity : Nat} (hc : 0 < capacity) (ops : List (Action κ ν)) :
    let m : BoundedMap κ ν := (empty capacity).run ops
    let made := (empty capacity).creations (numbered 0 ops)
    let fates := (empty capacity).fates (numbered 0 ops)
    m.entries = ops.foldl (Action.act capacity) [] ∧
      m.keys.Nodup ∧ m.size ≤ capacity ∧
      (∀ key ∈ m.keys, sinceWrite ops key < ops.length) ∧
      (m.keys.Pairwise fun a b => sinceWrite ops a < sinceWrite ops b) ∧
      (∀ op : Action κ ν, op.written? = none → (m.perform op).keys.Sublist m.keys) ∧
      (∀ key change, (m.modify key change).keys = m.keys) ∧
      (∀ (op : Action κ ν) victim, m.evictedBy op = some victim ↔
        (∃ key, op.written? = some key ∧ key ∉ m.keys) ∧ m.size = capacity ∧
          m.entries.getLast? = some victim) ∧
      (empty capacity).creations ops = made.map (onValue Prod.snd) ∧
      (empty capacity).fates ops = fates.map (fun f => (f.1, onValue Prod.snd f.2)) ∧
      (made.map fun e => e.2.1).Nodup ∧
      (fates.map fun f => f.2.2.1).Nodup ∧
      (∀ e ∈ made, ∃! fate, ∃ value, (fate, e.1, e.2.1, value) ∈ fates) ∧
      (∀ entries, ops = puts entries →
        m.keys = (entries.map Prod.fst).reverse.eraseDups.take capacity ∧
        ∀ e ∈ m.entries, entries.reverse.find? (fun f => f.1 == e.1) = some e) := by
  intro m made fates
  have horigin : (empty capacity : BoundedMap κ (Nat × ν)).Valid := valid_empty hc
  have hvalid : m.Valid := valid_run (valid_empty hc) ops
  have hcap : m.capacity = capacity := capacity_run _ ops
  refine ⟨entries_run (valid_empty hc) ops, hvalid.distinct, hcap ▸ hvalid.bounded,
    fun key hkey => sinceWrite_lt_length (exists_write_of_mem_keys hc hkey), pairwise_run hc ops,
    fun op => keys_perform_sublist, fun key change => keys_modify m key change,
    fun op victim => ?_, creations_mapValues horigin 0 ops, fates_mapValues horigin 0 ops,
    nodup_creations _ 0 ops, nodup_fates hc 0 ops, fun e => existsUnique_fate hc 0, ?_⟩
  · rw [evictedBy_eq_some_iff hvalid, hcap]
  · rintro entries rfl
    exact ⟨keys_run_puts hc entries, fun e => find?_run_puts hc entries⟩

/-- Two keys where there is room for two. The first is changed and read, which does not make it any
younger, so it goes for the third. -/
def changed : List (Action Nat Nat) := [.put 1 10, .put 2 20, .modify 1 (· + 1), .get 1]

theorem recency_of_changed :
    ((empty 2).run changed).evictedBy (.entry 3 fun _ => 30) = some (1, 11) ∧
      ∃! fate, ∃ value, (fate, 1, 0, value) ∈
        (empty 2).fates (numbered 0 (changed ++ [.entry 3 fun _ => 30])) := by
  obtain ⟨-, -, -, -, -, -, -, hevicted, -⟩ := recency_of_run (by decide : 0 < 2) changed
  obtain ⟨-, -, -, -, -, -, -, -, -, -, -, -, hfates, -⟩ :=
    recency_of_run (by decide : 0 < 2) (changed ++ [.entry 3 fun _ => 30])
  exact ⟨(hevicted (.entry 3 fun _ => 30) (1, 11)).mpr ⟨⟨3, rfl, by decide⟩, rfl, rfl⟩,
    hfates (1, 0, 10) List.mem_cons_self⟩

end VariantStore.BoundedMap
