import VariantStore.Proofs.Recency.Eviction

/-!
# Runs of a bounded map

A run performs actions one after the other. Each action does to the entries what its ideal does to a
list of entries that is cut to the capacity (`entries_perform`), so a run from nothing leaves what
the ideal actions leave of the empty list (`entries_run`). Read off that list:

* `pairwise_run`: the keys stand in the order of their last writes, the latest first. Only writes
  move an entry; whatever else is done leaves the keys in their order, or takes some out.
* `evictedBy_eq_some_iff`: a write of a new key to a full map reports the last entry, and nothing
  else is ever reported.
* `keys_run_puts`, `find?_run_puts`: if there are `put`s only, the keys are the first different ones
  backwards from the last `put`, each with its last value.
-/

namespace VariantStore.Recency

variable {κ ν : Type} [DecidableEq κ]

/-! ## Writes without a bound -/

theorem eraseDups_filter (p : κ → Bool) : ∀ keys : List κ,
    (keys.filter p).eraseDups = keys.eraseDups.filter p
  | [] => rfl
  | key :: rest => by
    have hrest := eraseDups_filter p (rest.filter fun other => !other == key)
    rw [List.eraseDups_cons]
    by_cases hp : p key = true
    · rw [List.filter_cons_of_pos hp, List.filter_cons_of_pos hp, List.eraseDups_cons,
        List.filter_comm, hrest]
    · -- a key that fails the test is not missed among those that pass it
      have hother : ∀ other ∈ rest.filter p, (!other == key) = true := by
        intro other hother
        have hne : other ≠ key := by
          rintro rfl
          exact hp (List.mem_filter.mp hother).2
        simpa using hne
      rw [List.filter_cons_of_neg hp, List.filter_cons_of_neg hp, ← hrest, List.filter_comm,
        List.filter_eq_self.mpr hother]
  termination_by keys => keys.length
  decreasing_by
    have hlen := List.length_filter_le (fun other => !other == key) rest
    simp only [List.length_cons]
    omega

/-- What is written by some entries, one after the other, if nothing is cut off. -/
def written (puts : List (κ × ν)) : List (κ × ν) :=
  puts.foldl (fun entries e => renew e.1 e.2 entries) []

theorem written_concat (puts : List (κ × ν)) (e : κ × ν) :
    written (puts ++ [e]) = renew e.1 e.2 (written puts) := by
  rw [written, List.foldl_append]
  rfl

theorem distinct_written (puts : List (κ × ν)) : Distinct (written puts) := by
  induction puts using List.reverseRecOn with
  | nil => exact List.nodup_nil
  | append_singleton puts e ih =>
    rw [written_concat]
    exact distinct_renew ih e.1 e.2

theorem keys_others (key : κ) (entries : List (κ × ν)) :
    (others key entries).map Prod.fst = (entries.map Prod.fst).filter (· != key) := by
  rw [List.filter_map]
  rfl

/-- The different keys, backwards from the last one. -/
theorem keys_written (puts : List (κ × ν)) :
    (written puts).map Prod.fst = (puts.map Prod.fst).reverse.eraseDups := by
  induction puts using List.reverseRecOn with
  | nil => rfl
  | append_singleton puts e ih =>
    rw [written_concat, renew, List.map_cons, keys_others, ih, ← eraseDups_filter, List.map_append,
      List.reverse_append, List.map_singleton, List.reverse_singleton, List.singleton_append,
      List.eraseDups_cons]
    rfl

/-- What is written under a key is the last entry of that key. -/
theorem find?_of_mem_written {puts : List (κ × ν)} {e : κ × ν} (h : e ∈ written puts) :
    puts.reverse.find? (fun f => f.1 == e.1) = some e := by
  induction puts using List.reverseRecOn with
  | nil => cases h
  | append_singleton puts last ih =>
    rw [List.reverse_append, List.reverse_singleton, List.singleton_append]
    rw [written_concat] at h
    rcases mem_of_mem_renew h with rfl | ⟨he, hne⟩
    · exact List.find?_cons_of_pos (by simp)
    · rw [List.find?_cons_of_neg (by simpa using hne.symm)]
      exact ih he

end VariantStore.Recency

namespace VariantStore.BoundedMap

open Recency

variable {κ ν : Type}

/-- What can be done to a bounded map, with all that is given for it. -/
inductive Action (κ ν : Type)
  | put (key : κ) (value : ν)
  | entry (key : κ) (make : Unit → ν)
  | get (key : κ)
  | modify (key : κ) (change : ν → ν)
  | contains (key : κ)
  | erase (key : κ)
  | clear

/-- The key that an action writes. -/
def Action.written? : Action κ ν → Option κ
  | .put key _ | .entry key _ => some key
  | .get _ | .modify _ _ | .contains _ | .erase _ | .clear => none

variable [DecidableEq κ]

/-- What an action makes of a list of entries that is cut to a length. -/
def Action.act (capacity : Nat) (entries : List (κ × ν)) : Action κ ν → List (κ × ν)
  | .put key value => (renew key value entries).take capacity
  | .entry key make => (renew key ((value? key entries).getD (make ())) entries).take capacity
  | .modify key change => entries.map fun e => if e.1 == key then (e.1, change e.2) else e
  | .erase key => others key entries
  | .clear => []
  | .get _ | .contains _ => entries

/-- What an action leaves. -/
def perform (m : BoundedMap κ ν) : Action κ ν → BoundedMap κ ν
  | .put key value => (m.put key value).map
  | .entry key make => (m.entry key make).map
  | .modify key change => m.modify key change
  | .erase key => m.erase key
  | .clear => m.clear
  | .get _ | .contains _ => m

/-- The entry that an action reports as evicted. -/
def evictedBy (m : BoundedMap κ ν) : Action κ ν → Option (κ × ν)
  | .put key value => (m.put key value).evicted
  | .entry key make => (m.entry key make).evicted
  | .get _ | .modify _ _ | .contains _ | .erase _ | .clear => none

/-- What actions leave, one after the other. -/
def run (m : BoundedMap κ ν) (ops : List (Action κ ν)) : BoundedMap κ ν := ops.foldl perform m

theorem run_concat (m : BoundedMap κ ν) (ops : List (Action κ ν)) (op : Action κ ν) :
    m.run (ops ++ [op]) = (m.run ops).perform op := by
  rw [run, List.foldl_append]
  rfl

variable {m : BoundedMap κ ν} {op : Action κ ν} {key : κ}

/-! ## One action -/

theorem capacity_perform (m : BoundedMap κ ν) (op : Action κ ν) :
    (m.perform op).capacity = m.capacity := by
  cases op with
  | put key value => exact capacity_put m key value
  | entry key make => exact capacity_entry m key make
  | get _ | modify _ _ | contains _ | erase _ | clear => rfl

/-- An action does to the entries what its ideal does. -/
theorem entries_perform (h : m.Valid) (op : Action κ ν) :
    (m.perform op).entries = op.act m.capacity m.entries := by
  cases op with
  | put key value => exact entries_put h key value
  | entry key make => exact entries_entry h key make
  | get _ | modify _ _ | contains _ | erase _ | clear => rfl

theorem valid_perform (h : m.Valid) (op : Action κ ν) : (m.perform op).Valid := by
  cases op with
  | put key value => exact valid_put h key value
  | entry key make => exact h.renew (capacity_entry m key make) (entries_entry h key make)
  | get _ | contains _ => exact h
  | modify key change => exact h.modify key change
  | erase key => exact h.erase key
  | clear => exact valid_empty h.positive

/-- A write puts an entry of its key in front. -/
theorem exists_act_of_written (h : op.written? = some key) (capacity : Nat)
    (entries : List (κ × ν)) :
    ∃ value, op.act capacity entries = (renew key value entries).take capacity := by
  cases op with
  | put _ value =>
    cases h
    exact ⟨value, rfl⟩
  | entry _ make =>
    cases h
    exact ⟨_, rfl⟩
  | get _ | modify _ _ | contains _ | erase _ | clear => cases h

/-- Whatever is not a write keeps the order of the keys. -/
theorem keys_perform_sublist (h : op.written? = none) : (m.perform op).keys.Sublist m.keys := by
  cases op with
  | put _ _ | entry _ _ => cases h
  | get _ | contains _ => exact List.Sublist.refl _
  | modify key change =>
    rw [perform, keys_modify]
  | erase key => exact (others_sublist key m.entries).map _
  | clear => exact List.nil_sublist _

/-! ## What is reported -/

/-- An evicted entry is the last one, and goes if and only if a new key meets a full map. -/
theorem evicted_makeRoom_eq_some_iff (h : m.Valid) {victim : κ × ν} :
    (m.makeRoom key).evicted = some victim ↔
      key ∉ m.keys ∧ m.size = m.capacity ∧ m.entries.getLast? = some victim := by
  constructor
  · intro hvictim
    obtain ⟨hnew, hfull⟩ := (exists_evicted_makeRoom_iff h).mp ⟨victim, hvictim⟩
    exact ⟨hnew, hfull, getLast?_of_evicted_makeRoom hvictim⟩
  · rintro ⟨hnew, hfull, hlast⟩
    rw [makeRoom_of_full hfull hnew, hlast]

/-- Both writes report what makes room for their key. -/
theorem evictedBy_of_written (h : m.Valid) (hw : op.written? = some key) :
    m.evictedBy op = (m.makeRoom key).evicted := by
  cases op with
  | put _ value =>
    cases hw
    exact evicted_put h key value
  | entry _ make =>
    cases hw
    exact evicted_entry m key make
  | get _ | modify _ _ | contains _ | erase _ | clear => cases hw

theorem evictedBy_of_not_written (hw : op.written? = none) : m.evictedBy op = none := by
  cases op with
  | put _ _ | entry _ _ => cases hw
  | get _ | modify _ _ | contains _ | erase _ | clear => rfl

theorem evictedBy_eq_some_iff (h : m.Valid) {victim : κ × ν} :
    m.evictedBy op = some victim ↔
      (∃ key, op.written? = some key ∧ key ∉ m.keys) ∧ m.size = m.capacity ∧
        m.entries.getLast? = some victim := by
  cases hw : op.written? with
  | none => simp [evictedBy_of_not_written hw]
  | some key => simp [evictedBy_of_written h hw, evicted_makeRoom_eq_some_iff h]

/-! ## Runs -/

theorem valid_run (h : m.Valid) (ops : List (Action κ ν)) : (m.run ops).Valid := by
  induction ops using List.reverseRecOn with
  | nil => exact h
  | append_singleton ops op ih =>
    rw [run_concat]
    exact valid_perform ih op

theorem capacity_run (m : BoundedMap κ ν) (ops : List (Action κ ν)) :
    (m.run ops).capacity = m.capacity := by
  induction ops using List.reverseRecOn with
  | nil => rfl
  | append_singleton ops op ih => rw [run_concat, capacity_perform, ih]

/-- A run does to the entries what the ideal actions do, one after the other. -/
theorem entries_run (h : m.Valid) (ops : List (Action κ ν)) :
    (m.run ops).entries = ops.foldl (Action.act m.capacity) m.entries := by
  induction ops using List.reverseRecOn with
  | nil => rfl
  | append_singleton ops op ih =>
    rw [run_concat, entries_perform (valid_run h ops), capacity_run, ih, List.foldl_append]
    rfl

/-- The number of actions since the last write of a key. -/
def sinceWrite (ops : List (Action κ ν)) (key : κ) : Nat :=
  ops.reverse.findIdx fun op => op.written? = some key

theorem sinceWrite_concat_of_written (h : op.written? = some key) (ops : List (Action κ ν)) :
    sinceWrite (ops ++ [op]) key = 0 := by
  simp [sinceWrite, List.findIdx_cons, h]

theorem sinceWrite_concat_of_ne (h : op.written? ≠ some key) (ops : List (Action κ ν)) :
    sinceWrite (ops ++ [op]) key = sinceWrite ops key + 1 := by
  simp [sinceWrite, List.findIdx_cons, h]

/-- What is there was written at some time. -/
theorem exists_write_of_mem_keys {capacity : Nat} (hc : 0 < capacity) {ops : List (Action κ ν)}
    (h : key ∈ ((empty capacity).run ops).keys) : ∃ op ∈ ops, op.written? = some key := by
  induction ops using List.reverseRecOn with
  | nil => cases h
  | append_singleton ops op ih =>
    rw [run_concat] at h
    have hearlier : key ∈ ((empty capacity).run ops).keys →
        ∃ op' ∈ ops ++ [op], op'.written? = some key := fun hmem => by
      obtain ⟨op', hop', hw'⟩ := ih hmem
      exact ⟨op', List.mem_append_left _ hop', hw'⟩
    cases hw : op.written? with
    | none => exact hearlier ((keys_perform_sublist hw).subset h)
    | some other =>
      obtain ⟨value, hact⟩ := exists_act_of_written hw ((empty capacity).run ops).capacity
        ((empty capacity).run ops).entries
      rw [keys, entries_perform (valid_run (valid_empty hc) ops), hact] at h
      obtain ⟨e, he, rfl⟩ := List.mem_map.mp h
      rcases mem_of_mem_renew (List.mem_of_mem_take he) with rfl | ⟨he, -⟩
      · exact ⟨op, by simp, hw⟩
      · exact hearlier (List.mem_map_of_mem he)

theorem sinceWrite_lt_length {ops : List (Action κ ν)} (h : ∃ op ∈ ops, op.written? = some key) :
    sinceWrite ops key < ops.length := by
  obtain ⟨op, hop, hw⟩ := h
  rw [sinceWrite, ← List.length_reverse]
  exact List.findIdx_lt_length_of_exists ⟨op, List.mem_reverse.mpr hop, by simpa using hw⟩

/-- After a run, keys stand in the order of their last writes, the latest first. -/
theorem pairwise_run {capacity : Nat} (hc : 0 < capacity) (ops : List (Action κ ν)) :
    ((empty capacity).run ops).keys.Pairwise fun a b => sinceWrite ops a < sinceWrite ops b := by
  induction ops using List.reverseRecOn with
  | nil => exact List.Pairwise.nil
  | append_singleton ops op ih =>
    rw [run_concat]
    cases hw : op.written? with
    | none =>
      refine (ih.sublist (keys_perform_sublist hw)).imp fun {a b} hab => ?_
      rw [sinceWrite_concat_of_ne (by simp [hw]), sinceWrite_concat_of_ne (by simp [hw])]
      omega
    | some key =>
      obtain ⟨value, hact⟩ := exists_act_of_written hw ((empty capacity).run ops).capacity
        ((empty capacity).run ops).entries
      rw [keys, entries_perform (valid_run (valid_empty hc) ops), hact]
      refine (pairwise_renew (sinceWrite_concat_of_written hw ops) ?_ ih).sublist
        ((List.take_sublist _ _).map _)
      intro other hne
      exact sinceWrite_concat_of_ne (by simpa [hw] using Ne.symm hne) ops

/-! ## Puts alone -/

/-- The actions that put some entries, one after the other. -/
def puts (entries : List (κ × ν)) : List (Action κ ν) := entries.map fun e => .put e.1 e.2

/-- What is cut off on the way is not missed at the end. -/
theorem entries_run_puts {capacity : Nat} (hc : 0 < capacity) (entries : List (κ × ν)) :
    ((empty capacity).run (puts entries)).entries = (written entries).take capacity := by
  induction entries using List.reverseRecOn with
  | nil => exact List.take_nil.symm
  | append_singleton entries e ih =>
    have hvalid : ((empty capacity).run (puts entries)).Valid := valid_run (valid_empty hc) _
    have hcap : ((empty capacity).run (puts entries)).capacity = capacity := capacity_run _ _
    rw [puts, List.map_append, List.map_singleton, run_concat]
    show (((empty capacity).run (puts entries)).put e.1 e.2).map.entries = _
    rw [entries_put hvalid, hcap, ih, take_renew_take (distinct_written entries), written_concat]

theorem keys_run_puts {capacity : Nat} (hc : 0 < capacity) (entries : List (κ × ν)) :
    ((empty capacity).run (puts entries)).keys
      = (entries.map Prod.fst).reverse.eraseDups.take capacity := by
  rw [keys, entries_run_puts hc, List.map_take, keys_written]

theorem find?_run_puts {capacity : Nat} (hc : 0 < capacity) (entries : List (κ × ν)) {e : κ × ν}
    (he : e ∈ ((empty capacity).run (puts entries)).entries) :
    entries.reverse.find? (fun f => f.1 == e.1) = some e := by
  rw [entries_run_puts hc] at he
  exact find?_of_mem_written (List.mem_of_mem_take he)

end VariantStore.BoundedMap
