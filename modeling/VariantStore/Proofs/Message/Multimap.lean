import Mathlib.Data.List.Basic
import VariantStore.Message.Headers

/-!
# Headers as an ordered multimap

Headers are one list, and each operation goes through it by itself. Seen from a name they are the
list of its values, and an action on a name does one simple thing to that list and nothing to the
list of any other name (`getAll_perform`). So what a run leaves of a name is told by the actions on
that name alone (`getAll_run`). The fields of the names that are not acted on stay as they were
spelled and in their order (`filter_fields_perform`), and the queries are functions of the list of
values (`multimap_of_run`).
-/

namespace VariantStore.Headers

open Text

/-- A change of headers, with all that is given for it. -/
inductive Action
  | append (name value : String)
  | set (name value : String)
  | remove (name : String)

namespace Action

/-- The name that is acted on. -/
def name : Action → String
  | .append name _ | .set name _ | .remove name => name

/-- What becomes of the values of the name. -/
def leave : Action → List String → List String
  | .append _ value, values => values ++ [value]
  | .set _ value, _ => [value]
  | .remove _, _ => []

end Action

/-- What an action leaves. -/
def perform (h : Headers) : Action → Headers
  | .append name value => h.append name value
  | .set name value => h.set name value
  | .remove name => (h.remove name).2

/-- What actions leave, one after the other. -/
def run (h : Headers) (ops : List Action) : Headers := ops.foldl perform h

variable {h : Headers} {m n : String}

/-! ## Names -/

theorem getAll_congr (same : lower m = lower n) : h.getAll m = h.getAll n := by
  simp only [getAll, sameName, same]

theorem erase_congr (same : lower m = lower n) : h.erase m = h.erase n := by
  simp only [erase, sameName, same]

theorem sameName_eq_false_iff : sameName m n = false ↔ lower m ≠ lower n := by
  rw [← Bool.not_eq_true, sameName_iff]

/-! ## Adding and taking out -/

theorem getAll_append_of_eq (h : Headers) (same : lower m = lower n) (value : String) :
    (h.append m value).getAll n = h.getAll n ++ [value] := by
  rw [getAll_append, if_pos (sameName_iff.mpr same)]

theorem getAll_append_of_ne (h : Headers) (differ : lower m ≠ lower n) (value : String) :
    (h.append m value).getAll n = h.getAll n := by
  rw [getAll_append, if_neg (fun same => differ (sameName_iff.mp same)), List.append_nil]

theorem getAll_erase_of_eq (h : Headers) (same : lower m = lower n) :
    (h.erase m).getAll n = [] := by
  rw [getAll_congr same.symm, getAll_erase_self]

/-- Fields are taken out by their names, so those that are not of the name stay. -/
theorem filter_fields_erase {stays : Field → Bool} {name : String}
    (hstays : ∀ f, stays f = true → lower f.name ≠ lower name) :
    (h.erase name).fields.filter stays = h.fields.filter stays := by
  rw [erase, List.filter_filter]
  refine List.filter_congr fun f _ => ?_
  by_cases hs : stays f = true
  · have hname : sameName f.name name = false := sameName_eq_false_iff.mpr (hstays f hs)
    simp [hs, hname]
  · simp [hs]

theorem getAll_erase_of_ne (h : Headers) (differ : lower m ≠ lower n) :
    (h.erase m).getAll n = h.getAll n := by
  refine congrArg (List.map Field.value) (filter_fields_erase fun f hf heq => differ ?_)
  rw [← heq, sameName_iff.mp hf]

theorem filter_fields_append {stays : Field → Bool} {name value : String}
    (hadded : stays ⟨name, value⟩ = false) :
    (h.append name value).fields.filter stays = h.fields.filter stays := by
  simp [append, hadded]

/-- As many fields go as there are values of the name. -/
theorem size_erase_add (h : Headers) (name : String) :
    (h.erase name).size + (h.getAll name).length = h.size := by
  have hlength := List.length_eq_length_filter_add (l := h.fields) fun f => sameName f.name name
  rw [getAll, List.length_map, Nat.add_comm]
  exact hlength.symm

theorem size_append (h : Headers) (name value : String) :
    (h.append name value).size = h.size + 1 :=
  List.length_append

/-- A removal tells whether there was a value. -/
theorem fst_remove_eq_true_iff (h : Headers) (name : String) :
    (h.remove name).1 = true ↔ h.getAll name ≠ [] := by
  have hsize := size_erase_add h name
  rw [remove, decide_eq_true_iff, ← List.length_pos_iff]
  omega

/-- What a single field replaces is taken out wherever it stands. -/
theorem fields_set (h : Headers) (name value : String) :
    (h.set name value).fields
      = (h.fields.filter fun f => lower f.name ≠ lower name) ++ [⟨name, value⟩] := by
  simp only [set, append, erase, sameName]
  congr 2
  funext f
  simp [beq_eq_decide]

theorem size_set_add (h : Headers) (name value : String) :
    (h.set name value).size + (h.getAll name).length = h.size + 1 := by
  have hsize := size_erase_add h name
  rw [set, size_append]
  omega

/-! ## One action -/

/-- An action does one thing to the values of its name, and nothing to those of another one. -/
theorem getAll_perform (h : Headers) (op : Action) (name : String) :
    (h.perform op).getAll name
      = if lower op.name = lower name then op.leave (h.getAll name) else h.getAll name := by
  split
  case isTrue same =>
    cases op with
    | append name' value => exact getAll_append_of_eq h same value
    | set name' value =>
      -- the field that is added finds no other of the name
      exact (getAll_append_of_eq _ same value).trans
        (congrArg (· ++ [value]) (getAll_erase_of_eq h same))
    | remove name' => exact getAll_erase_of_eq h same
  case isFalse differ =>
    cases op with
    | append name' value => exact getAll_append_of_ne h differ value
    | set name' value =>
      exact (getAll_append_of_ne _ differ value).trans (getAll_erase_of_ne h differ)
    | remove name' => exact getAll_erase_of_ne h differ

/-- The fields of the names that are not acted on stay as they are. -/
theorem filter_fields_perform (op : Action) {stays : Field → Bool}
    (hstays : ∀ f, stays f = true → lower f.name ≠ lower op.name) :
    (h.perform op).fields.filter stays = h.fields.filter stays := by
  have hadded (value : String) : stays ⟨op.name, value⟩ = false := by
    rw [Bool.eq_false_iff]
    exact fun hs => hstays _ hs rfl
  cases op with
  | append name value => exact filter_fields_append (hadded value)
  | set name value =>
    exact (filter_fields_append (hadded value)).trans (filter_fields_erase hstays)
  | remove name => exact filter_fields_erase hstays

/-! ## Runs -/

/-- What a run leaves of a name is told by the actions on that name. -/
theorem getAll_run (h : Headers) (ops : List Action) (name : String) :
    (h.run ops).getAll name
      = (ops.filter fun op => lower op.name = lower name).foldl (fun values op => op.leave values)
          (h.getAll name) := by
  induction ops generalizing h with
  | nil => rfl
  | cons op ops ih =>
    rw [run, List.foldl_cons]
    refine (ih (h.perform op)).trans ?_
    rw [getAll_perform]
    split
    case isTrue same => rw [List.filter_cons_of_pos (by simpa using same), List.foldl_cons]
    case isFalse differ => rw [List.filter_cons_of_neg (by simpa using differ)]

theorem filter_fields_run {ops : List Action} {stays : Field → Bool}
    (hstays : ∀ f, stays f = true → ∀ op ∈ ops, lower f.name ≠ lower op.name) :
    (h.run ops).fields.filter stays = h.fields.filter stays := by
  induction ops generalizing h with
  | nil => rfl
  | cons op ops ih =>
    rw [run, List.foldl_cons]
    refine (ih fun f hf op' hop' => hstays f hf op' (List.mem_cons_of_mem op hop')).trans ?_
    exact filter_fields_perform op fun f hf => hstays f hf op List.mem_cons_self

theorem combined?_of_ne_nil (hvalues : h.getAll n ≠ []) :
    h.combined? n = some (", ".intercalate (h.getAll n)) := by
  unfold combined?
  split
  case h_1 hnil => exact absurd hnil hvalues
  case h_2 => rfl

/-- After any run from any fields, headers are an ordered multimap with names in any case. The
values of a name are those that the actions on it leave, and the fields of names that were not acted
on are as they were. One more action does to the values of its name what it should, changes the
number of fields by as many as it adds and takes out, and leaves the other names alone, with the
spelling and the order of their fields. The queries answer from the list of values, and names that
are equal up to case are not told apart. -/
theorem multimap_of_run (fields : List Field) (ops : List Action) :
    let h := run ⟨fields⟩ ops
    (∀ name, h.getAll name
      = (ops.filter fun op => lower op.name = lower name).foldl (fun values op => op.leave values)
          (getAll ⟨fields⟩ name)) ∧
    (∀ stays : Field → Bool, (∀ f, stays f = true → ∀ op ∈ ops, lower f.name ≠ lower op.name) →
      h.fields.filter stays = fields.filter stays) ∧
    (∀ name value, (h.append name value).getAll name = h.getAll name ++ [value] ∧
      (h.append name value).fields = h.fields ++ [⟨name, value⟩] ∧
      (h.append name value).size = h.size + 1) ∧
    (∀ name value, (h.set name value).getAll name = [value] ∧
      (h.set name value).fields
        = (h.fields.filter fun f => lower f.name ≠ lower name) ++ [⟨name, value⟩] ∧
      (h.set name value).size + (h.getAll name).length = h.size + 1) ∧
    (∀ name, (h.remove name).2.getAll name = [] ∧
      ((h.remove name).1 = true ↔ h.getAll name ≠ []) ∧
      (h.remove name).2.size + (h.getAll name).length = h.size) ∧
    (∀ op : Action,
      (∀ name, lower name ≠ lower op.name → (h.perform op).getAll name = h.getAll name) ∧
      ((h.perform op).fields.filter fun f => lower f.name ≠ lower op.name)
        = h.fields.filter fun f => lower f.name ≠ lower op.name) ∧
    (∀ name, h.get? name = (h.getAll name).head? ∧
      (h.contains name = true ↔ h.getAll name ≠ []) ∧
      (h.combined? name = none ↔ h.getAll name = []) ∧
      (h.getAll name ≠ [] → h.combined? name = some (", ".intercalate (h.getAll name)))) ∧
    ∀ m n, lower m = lower n →
      h.getAll m = h.getAll n ∧ h.get? m = h.get? n ∧ h.contains m = h.contains n ∧
        h.combined? m = h.combined? n ∧ h.remove m = h.remove n := by
  intro h
  refine ⟨getAll_run ⟨fields⟩ ops, fun stays hstays => filter_fields_run hstays,
    fun name value => ⟨getAll_append_of_eq h rfl value, rfl, size_append h name value⟩,
    fun name value => ⟨?_, fields_set h name value, size_set_add h name value⟩,
    fun name => ⟨getAll_erase_self h name, fst_remove_eq_true_iff h name, size_erase_add h name⟩,
    fun op => ⟨fun name hne => ?_, ?_⟩,
    fun name => ⟨get?_eq_head? h name, contains_eq_true_iff, combined?_eq_none_iff,
      combined?_of_ne_nil⟩,
    fun m n same => ⟨getAll_congr same, ?_, ?_, combined?_congr same, ?_⟩⟩
  · exact (getAll_perform h (.set name value) name).trans (if_pos rfl)
  · rw [getAll_perform, if_neg hne.symm]
  · exact filter_fields_perform op fun f hf => of_decide_eq_true hf
  · rw [get?_eq_head?, get?_eq_head?, getAll_congr same]
  · rw [Bool.eq_iff_iff, contains_eq_true_iff, contains_eq_true_iff, getAll_congr same]
  · rw [remove, remove, erase_congr same]

/-- Two values of a name, in two spellings, around another name that is set and added to. -/
theorem multimap_of_run_mixed :
    let h := run ⟨[⟨"Vary", "Accept"⟩, ⟨"Host", "a"⟩, ⟨"vary", "Cookie"⟩]⟩ [.set "HOST" "b"]
    lower "Vary" ≠ lower "HOST" ∧ lower "VARY" = lower "Vary" ∧
      (h.append "HOST" "c").getAll "Vary" = ["Accept", "Cookie"] ∧
      h.combined? "VARY" = some "Accept, Cookie" := by
  intro h
  have hlower : lower "Vary" = "vary" ∧ lower "VARY" = "vary" ∧ lower "HOST" = "host" := by
    decide +kernel
  have hdiffer : lower "Vary" ≠ lower "HOST" := by simp [hlower]
  have hsame : lower "VARY" = lower "Vary" := by simp [hlower]
  have hvary : getAll ⟨[⟨"Vary", "Accept"⟩, ⟨"Host", "a"⟩, ⟨"vary", "Cookie"⟩]⟩ "Vary"
      = ["Accept", "Cookie"] := by
    simp only [getAll, sameName_eq_decide]
    decide +kernel
  obtain ⟨hvalues, -, -, -, -, hothers, hqueries, hnames⟩ :=
    multimap_of_run [⟨"Vary", "Accept"⟩, ⟨"Host", "a"⟩, ⟨"vary", "Cookie"⟩] [.set "HOST" "b"]
  -- the only action is on another name
  have hnone : ([.set "HOST" "b"] : List Action).filter (fun op => lower op.name = lower "Vary")
      = [] := by
    simp [Action.name, hlower]
  have hgiven : h.getAll "Vary" = ["Accept", "Cookie"] := by
    rw [hvalues, hnone, List.foldl_nil, hvary]
  obtain ⟨-, -, -, hcombined⟩ := hqueries "Vary"
  refine ⟨hdiffer, hsame, ?_, ?_⟩
  · rw [← hgiven]
    exact (hothers (.append "HOST" "c")).1 "Vary" hdiffer
  · obtain ⟨-, -, -, hfolded, -⟩ := hnames "VARY" "Vary" hsame
    rw [hfolded, hcombined (by rw [hgiven]; exact List.cons_ne_nil _ _), hgiven]
    rfl

end VariantStore.Headers
