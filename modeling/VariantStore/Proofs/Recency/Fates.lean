import VariantStore.Proofs.Recency.Actions

/-!
# What becomes of the entries

A write makes an entry, unless it finds one to keep. An entry ends when a `put` takes its place, or
when it is evicted, removed or cleared away. What is there after a run and what has ended on the way
is what was made, neither more nor less (`perm_run`). Values may be changed in place, so this is said
of whatever the changes leave alone (`Action.Keeps`).
-/

namespace VariantStore.BoundedMap

open Recency

variable {κ ν μ τ : Type}

/-- What has become of an entry. -/
inductive Fate
  | present
  | overwritten
  | evicted
  | removed
  | cleared
deriving DecidableEq

/-- Puts a function of its value in the place of the value. -/
abbrev onValue (f : ν → μ) (e : κ × ν) : κ × μ := (e.1, f e.2)

/-- Changes leave alone what a function tells of a value. -/
def Action.Keeps (tag : ν → τ) : Action κ ν → Prop
  | .modify _ change => ∀ value, tag (change value) = tag value
  | .put _ _ | .entry _ _ | .get _ | .contains _ | .erase _ | .clear => True

variable [DecidableEq κ]

/-- The entry that an action makes. -/
def created (m : BoundedMap κ ν) : Action κ ν → List (κ × ν)
  | .put key value => [(key, value)]
  | .entry key make =>
    if (m.entry key make).made then [(key, (m.entry key make).value)] else []
  | .get _ | .modify _ _ | .contains _ | .erase _ | .clear => []

/-- The entries that an action ends, and how. -/
def ended (m : BoundedMap κ ν) : Action κ ν → List (Fate × κ × ν)
  | .put key value =>
    (m.put key value).evicted.toList.map (.evicted, ·)
      ++ (m.get? key).toList.map (.overwritten, key, ·)
  | .entry key make => (m.entry key make).evicted.toList.map (.evicted, ·)
  | .erase key => (m.get? key).toList.map (.removed, key, ·)
  | .clear => m.entries.map (.cleared, ·)
  | .get _ | .modify _ _ | .contains _ => []

/-- The entries that a run makes, in order. -/
def creations (m : BoundedMap κ ν) : List (Action κ ν) → List (κ × ν)
  | [] => []
  | op :: ops => m.created op ++ (m.perform op).creations ops

/-- The entries that a run ends, in order. -/
def endings (m : BoundedMap κ ν) : List (Action κ ν) → List (Fate × κ × ν)
  | [] => []
  | op :: ops => m.ended op ++ (m.perform op).endings ops

/-- The entries that are there after a run, and those that it has ended. -/
def fates (m : BoundedMap κ ν) (ops : List (Action κ ν)) : List (Fate × κ × ν) :=
  (m.run ops).entries.map (.present, ·) ++ m.endings ops

variable {m : BoundedMap κ ν} {op : Action κ ν} {tag : ν → τ}

/-! ## Nothing is lost and nothing is made up -/

theorem made_entry (h : m.Valid) (key : κ) (make : Unit → ν) :
    (m.entry key make).made = (m.get? key).isNone := by
  simp only [entry]
  rw [get?_makeRoom h]
  cases m.get? key <;> rfl

theorem value_of_made {key : κ} {make : Unit → ν} (hmade : (m.entry key make).made = true) :
    (m.entry key make).value = make () := by
  simp only [entry] at hmade ⊢
  split at hmade
  case h_1 value hget => cases hmade
  case h_2 hget => rfl

theorem created_entry_of_some (h : m.Valid) {key : κ} {value : ν} (hget : m.get? key = some value)
    (make : Unit → ν) : m.created (.entry key make) = [] := by
  simp [created, made_entry h, hget]

theorem created_entry_of_none (h : m.Valid) {key : κ} (hget : m.get? key = none)
    (make : Unit → ν) : m.created (.entry key make) = [(key, make ())] := by
  simp [created, made_entry h, value_entry h, hget]

omit [DecidableEq κ] in
theorem map_snd_of_fate (fate : Fate) (entries : List (κ × ν)) :
    (entries.map (fate, ·)).map Prod.snd = entries :=
  (List.map_map ..).trans (List.map_id entries)

/-- What is there after an action and what it ends is what it makes and what was there. -/
theorem perm_perform (h : m.Valid) (hkeeps : op.Keeps tag) :
    (((m.perform op).entries ++ (m.ended op).map Prod.snd).map (onValue tag)).Perm
      ((m.created op ++ m.entries).map (onValue tag)) := by
  cases op with
  | put key value =>
    refine List.Perm.map _ ?_
    have hperm := (wrote_put h key value).perm h
    rw [List.append_assoc] at hperm
    rw [ended, List.map_append, map_snd_of_fate, List.map_map]
    exact hperm
  | entry key make =>
    refine List.Perm.map _ ?_
    have hperm := (h.wrote key ((m.get? key).getD (make ()))).perm h
    rw [← entries_entry h key make, ← evicted_entry m key make] at hperm
    rw [ended, map_snd_of_fate]
    cases hget : m.get? key with
    | none =>
      rw [created_entry_of_none h hget]
      rw [hget, Option.toList_none, List.map_nil, List.append_nil] at hperm
      exact hperm
    | some value =>
      -- the entry that is found is the one that is put in front
      rw [created_entry_of_some h hget]
      rw [hget] at hperm
      exact ((List.perm_append_singleton _ _).symm.trans hperm).cons_inv
  | get _ | contains _ =>
    refine List.Perm.map _ ?_
    rw [ended, List.map_nil, List.append_nil]
    exact List.Perm.refl _
  | modify key change =>
    refine List.Perm.of_eq ?_
    rw [ended, List.map_nil, List.append_nil, perform, modify, List.map_map]
    refine List.map_congr_left fun e _ => ?_
    rw [Function.comp_apply]
    split
    · exact congrArg (e.1, ·) (hkeeps e.2)
    · rfl
  | erase key =>
    refine List.Perm.map _ ?_
    rw [ended, List.map_map]
    exact List.perm_append_comm.trans (perm_value?_others h.distinct key)
  | clear =>
    refine List.Perm.map _ ?_
    rw [ended, map_snd_of_fate]
    exact List.Perm.refl _

open scoped List in
/-- What an action ends and makes, and a run after it, taken together. -/
theorem perm_of_step_of_run {α : Type} {made made' stays stays' stays'' gone gone' : List α}
    (hstep : stays' ++ gone ~ made ++ stays) (hrun : stays'' ++ gone' ~ made' ++ stays') :
    stays'' ++ (gone ++ gone') ~ made ++ made' ++ stays := by
  calc stays'' ++ (gone ++ gone')
    _ ~ stays'' ++ gone' ++ gone := by
      rw [List.append_assoc]
      exact List.perm_append_comm.append_left stays''
    _ ~ made' ++ stays' ++ gone := hrun.append_right gone
    _ ~ made' ++ (made ++ stays) := by
      rw [List.append_assoc]
      exact hstep.append_left made'
    _ ~ made ++ made' ++ stays := by
      rw [← List.append_assoc]
      exact List.perm_append_comm.append_right stays

/-- What there is and what has ended after a run is what was made and what was there. -/
theorem perm_run (h : m.Valid) {ops : List (Action κ ν)} (hkeeps : ∀ op ∈ ops, op.Keeps tag) :
    (((m.fates ops).map Prod.snd).map (onValue tag)).Perm
      ((m.creations ops ++ m.entries).map (onValue tag)) := by
  rw [fates, List.map_append, map_snd_of_fate]
  induction ops generalizing m with
  | nil =>
    rw [endings, List.map_nil, List.append_nil]
    exact List.Perm.refl _
  | cons op ops ih =>
    have hstep := perm_perform h (hkeeps op List.mem_cons_self)
    have hrun := ih (valid_perform h op) fun later hlater =>
      hkeeps later (List.mem_cons_of_mem op hlater)
    simp only [endings, creations, List.map_append] at hstep hrun ⊢
    exact perm_of_step_of_run hstep hrun

end VariantStore.BoundedMap
