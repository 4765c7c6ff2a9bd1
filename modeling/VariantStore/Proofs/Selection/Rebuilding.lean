import Mathlib.Data.List.Induction
import VariantStore.Proofs.Selection.Canonical

/-!
# Selectors made of fields

A selector can be made of explicit fields as well as of an exchange. The fields may name a header
more than once, in any case; the last value counts (`lastGiven?`), and this tells which fields the
selector has (`mem_fields_ofFields_iff`) and which requests it accepts (`accepts_ofFields_iff`).

However a selector was made (`Made`), its names are in lower case. So its fields give it back,
unless it is a wildcard, which no fields make (`Made.ofFields_fields`).
-/

namespace VariantStore.Selector

open Text

variable {s : Selector} {fields : List Field} {f g : Field} {name value : String}

/-- The last value that fields give for a name in lower case. -/
def lastGiven? (fields : List Field) (name : String) : Option String :=
  (fields.reverse.find? fun f => lower f.name = name).map Field.value

theorem lastGiven?_concat (fields : List Field) (f : Field) (name : String) :
    lastGiven? (fields ++ [f]) name
      = if lower f.name = name then some f.value else lastGiven? fields name := by
  unfold lastGiven?
  rw [List.reverse_append, List.reverse_singleton, List.singleton_append]
  split
  case isTrue same =>
    rw [List.find?_cons_of_pos (by simpa using same)]
    rfl
  case isFalse differ => rw [List.find?_cons_of_neg (by simpa using differ)]

/-- Names are looked up in lower case only. -/
theorem lower_eq_of_lastGiven? (h : lastGiven? fields name = some value) : lower name = name := by
  obtain ⟨f, hfind, -⟩ := Option.map_eq_some_iff.mp h
  have hname : lower f.name = name := by simpa using List.find?_some hfind
  rw [← hname, lower_lower]

/-- Where names occur once, in lower case, the last value of a name is the only one. -/
theorem lastGiven?_eq_some_iff (hlower : ∀ f ∈ fields, lower f.name = f.name)
    (hnodup : (fields.map Field.name).Nodup) :
    lastGiven? fields name = some value ↔ ⟨name, value⟩ ∈ fields := by
  unfold lastGiven?
  rw [Option.map_eq_some_iff]
  constructor
  · rintro ⟨f, hfind, rfl⟩
    have hmem : f ∈ fields := List.mem_reverse.mp (List.mem_of_find?_eq_some hfind)
    have hname : lower f.name = name := by simpa using List.find?_some hfind
    rw [← hname, hlower f hmem]
    exact hmem
  · intro hmem
    cases hfind : fields.reverse.find? fun f => lower f.name = name with
    | none =>
      have hnone := List.find?_eq_none.mp hfind _ (List.mem_reverse.mpr hmem)
      exact absurd (hlower _ hmem) (by simpa using hnone)
    | some f =>
      have hf : f ∈ fields := List.mem_reverse.mp (List.mem_of_find?_eq_some hfind)
      have hname : f.name = name := by
        rw [← hlower f hf]
        simpa using List.find?_some hfind
      have heq : f = ⟨name, value⟩ := List.inj_on_of_nodup_map hnodup hf hmem hname
      exact ⟨f, rfl, congrArg Field.value heq⟩

/-! ## Recording -/

theorem mem_fields_record_iff :
    f ∈ (s.record name value).fields ↔
      f = ⟨lower name, value⟩ ∨ f ∈ s.fields ∧ f.name ≠ lower name := by
  have hself : (⟨lower name, value⟩ : Field) ∈ (s.record name value).fields := mem_place_self _ _
  constructor
  · intro hf
    by_cases hname : f.name = lower name
    · exact Or.inl (eq_of_name_eq hf hself hname)
    · rcases mem_place hf with rfl | hmem
      · exact absurd rfl hname
      · exact Or.inr ⟨hmem, hname⟩
  · rintro (rfl | ⟨hmem, hname⟩)
    · exact hself
    · exact mem_place_of_ne hmem (Ne.symm hname)

theorem ofFields_concat (fields : List Field) (f : Field) :
    ofFields (fields ++ [f]) = (ofFields fields).record f.name f.value := by
  rw [ofFields, List.foldl_append]
  rfl

/-! ## Made of fields -/

theorem wildcard_ofFields (fields : List Field) : (ofFields fields).wildcard = false := by
  induction fields using List.reverseRecOn with
  | nil => rfl
  | append_singleton fields f ih =>
    rw [ofFields_concat]
    exact ih

/-- A selector records the last value of every name. -/
theorem mem_fields_ofFields_iff :
    f ∈ (ofFields fields).fields ↔ lastGiven? fields f.name = some f.value := by
  induction fields using List.reverseRecOn with
  | nil => simp [ofFields, empty, lastGiven?]
  | append_singleton fields g ih =>
    rw [ofFields_concat, mem_fields_record_iff, ih, lastGiven?_concat]
    obtain ⟨name, value⟩ := f
    split
    case isTrue same =>
      -- what was recorded before under the name has made room
      obtain rfl : lower g.name = name := same
      simp [eq_comm]
    case isFalse differ => simp [Ne.symm differ]

theorem get?_ofFields (fields : List Field) (name : String) :
    (ofFields fields).get? name = lastGiven? fields (lower name) := by
  refine Option.ext fun value => ?_
  rw [get?_eq_some_iff, mem_fields_ofFields_iff]

/-- A request is accepted if it gives the last value of every name. -/
theorem accepts_ofFields_iff {request : Headers} :
    (ofFields fields).accepts request = true ↔
      ∀ name value, lastGiven? fields (lower name) = some value → given request name = value := by
  unfold accepts
  rw [wildcard_ofFields, Bool.not_false, Bool.true_and, List.all_eq_true]
  constructor
  · intro h name value hvalue
    have hgiven := h ⟨lower name, value⟩ (mem_fields_ofFields_iff.mpr hvalue)
    rw [← given_lower]
    exact beq_iff_eq.mp hgiven
  · intro h f hf
    have hlast := mem_fields_ofFields_iff.mp hf
    rw [beq_iff_eq]
    refine h f.name f.value ?_
    rw [lower_eq_of_lastGiven? hlast, hlast]

/-! ## Made in any way -/

/-- The ways to make a selector. -/
inductive Made : Selector → Prop
  | empty : Made empty
  | ofFields (fields : List Field) : Made (ofFields fields)
  | ofExchange (request answer : Headers) : Made (ofExchange request answer)

theorem Made.lower_name (h : s.Made) (hf : f ∈ s.fields) : lower f.name = f.name := by
  cases h with
  | empty => cases hf
  | ofFields fields => exact lower_eq_of_lastGiven? (mem_fields_ofFields_iff.mp hf)
  | ofExchange request answer =>
    obtain ⟨name, -, -, rfl⟩ := mem_fields_ofExchange.mp hf
    exact lower_lower name

/-- Its fields give a selector back, unless it is a wildcard. -/
theorem Made.ofFields_fields (h : s.Made) (hwildcard : s.wildcard = false) :
    Selector.ofFields s.fields = s := by
  refine eq_of_mem_fields_iff (fun f => ?_) ((wildcard_ofFields s.fields).trans hwildcard.symm)
  rw [mem_fields_ofFields_iff, lastGiven?_eq_some_iff (fun f => h.lower_name) s.nodup_names]

end VariantStore.Selector
