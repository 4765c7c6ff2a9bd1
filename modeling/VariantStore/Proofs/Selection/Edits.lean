import Mathlib.Logic.Relation
import VariantStore.Proofs.Selection.Negotiation

/-!
# Changes of header fields that do not show

What a request gives for a name is the values of that name, joined (`given_eq_intercalate`). So
there are changes that do not show in what it gives for some names: fields of other names come and
go, fields of different names change places, a name is spelled in another case, two fields of a name
are folded into one, and a name that is missing is added with an empty value (`Headers.Edit`). Any
number of them leaves what is given as it was (`given_eq_of_edits`).
-/

namespace VariantStore

open Text

/-! ## Joining -/

/-- Two values next to each other are joined as their joined text is. -/
theorem intercalate_join (before after : List String) (a b : String) :
    ", ".intercalate (before ++ (a ++ ", " ++ b) :: after)
      = ", ".intercalate (before ++ a :: b :: after) := by
  induction before with
  | nil =>
    rw [List.nil_append, List.nil_append, String.intercalate_cons_append,
      String.intercalate_cons_cons]
  | cons value before ih =>
    rw [List.cons_append, List.cons_append, String.intercalate_cons_of_ne_nil (by simp),
      String.intercalate_cons_of_ne_nil (by simp), ih]

/-- Nothing is joined to the empty text, as one empty value is. -/
theorem Selector.given_eq_intercalate (h : Headers) (name : String) :
    given h name = ", ".intercalate (h.getAll name) := by
  unfold given Headers.combined?
  split
  case h_1 hnil => rw [hnil, String.intercalate_nil, Option.getD_none]
  case h_2 => rw [Option.getD_some]

namespace Headers

/-! ## Values of a name -/

theorem getAll_mk_append (front back : List Field) (name : String) :
    getAll ⟨front ++ back⟩ name = getAll ⟨front⟩ name ++ getAll ⟨back⟩ name := by
  simp [getAll]

theorem getAll_mk_cons (f : Field) (back : List Field) (name : String) :
    getAll ⟨f :: back⟩ name
      = (if sameName f.name name then [f.value] else []) ++ getAll ⟨back⟩ name := by
  by_cases h : sameName f.name name = true
  · simp [getAll, h]
  · simp [getAll, h]

theorem getAll_eq_nil {h : Headers} {name : String}
    (hnone : ∀ f ∈ h.fields, sameName f.name name = false) : h.getAll name = [] := by
  simpa [getAll] using hnone

/-! ## Changes -/

/-- A change that does not show in what is given for the names. -/
inductive Edit (names : List String) : Headers → Headers → Prop
  /-- A field of another name is added. -/
  | add (front back : List Field) {f : Field}
      (unlisted : ∀ name ∈ names, sameName f.name name = false) :
      Edit names ⟨front ++ back⟩ ⟨front ++ f :: back⟩
  /-- Fields of different names change places. -/
  | swap (front back : List Field) {f g : Field} (differ : sameName f.name g.name = false) :
      Edit names ⟨front ++ f :: g :: back⟩ ⟨front ++ g :: f :: back⟩
  /-- A name is spelled in another case. -/
  | respell (front back : List Field) (f : Field) {name : String}
      (same : sameName f.name name = true) :
      Edit names ⟨front ++ f :: back⟩ ⟨front ++ ⟨name, f.value⟩ :: back⟩
  /-- Two fields of a name are folded into one. -/
  | fold (front back : List Field) {f g : Field} (same : sameName f.name g.name = true) :
      Edit names ⟨front ++ f :: g :: back⟩
        ⟨front ++ ⟨f.name, f.value ++ ", " ++ g.value⟩ :: back⟩
  /-- A name that is missing is added with an empty value. -/
  | blank (front back : List Field) {name : String}
      (missing : ∀ f ∈ front ++ back, sameName f.name name = false) :
      Edit names ⟨front ++ back⟩ ⟨front ++ ⟨name, ""⟩ :: back⟩

end Headers

open Headers Selector

/-- Names that are the same name are the same as other names are. -/
theorem sameName_congr {a b : String} (h : sameName a b = true) (name : String) :
    sameName a name = sameName b name := by
  rw [sameName_iff] at h
  simp [sameName, h]

variable {names : List String} {h h' : Headers}

theorem given_eq_of_edit (hedit : Edit names h h') {name : String} (hname : name ∈ names) :
    given h name = given h' name := by
  rw [given_eq_intercalate, given_eq_intercalate]
  cases hedit with
  | @add front back f unlisted =>
    rw [getAll_mk_append, getAll_mk_append, getAll_mk_cons, unlisted name hname]
    rfl
  | @swap front back f g differ =>
    rw [getAll_mk_append, getAll_mk_append, getAll_mk_cons, getAll_mk_cons, getAll_mk_cons,
      getAll_mk_cons]
    by_cases hf : sameName f.name name = true
    · -- the other field is of another name, wherever it stands
      have hg : sameName g.name name = false := by
        rw [sameName_comm, ← sameName_congr hf]
        exact differ
      rw [hg]
      rfl
    · rw [Bool.not_eq_true] at hf
      rw [hf]
      rfl
  | @respell front back f name' same =>
    rw [getAll_mk_append, getAll_mk_append, getAll_mk_cons, getAll_mk_cons, sameName_congr same]
  | @fold front back f g same =>
    rw [getAll_mk_append, getAll_mk_append, getAll_mk_cons, getAll_mk_cons, getAll_mk_cons,
      ← sameName_congr same]
    by_cases hf : sameName f.name name = true
    · rw [hf]
      exact (intercalate_join _ _ _ _).symm
    · rw [Bool.not_eq_true] at hf
      rw [hf]
      rfl
  | @blank front back name' missing =>
    by_cases hname' : sameName name' name = true
    · -- the name was missing, so its empty value is the only one
      have hnone : ∀ f ∈ front ++ back, sameName f.name name = false := by
        intro f hf
        rw [sameName_comm, ← sameName_congr hname', sameName_comm]
        exact missing f hf
      rw [getAll_eq_nil hnone, getAll_mk_append, getAll_mk_cons, hname',
        getAll_eq_nil fun f hf => hnone f (List.mem_append_left back hf),
        getAll_eq_nil fun f hf => hnone f (List.mem_append_right front hf)]
      rfl
    · rw [Bool.not_eq_true] at hname'
      rw [getAll_mk_append, getAll_mk_append, getAll_mk_cons, hname']
      rfl

/-- Any number of changes, made or undone, leave what is given for the names. -/
theorem given_eq_of_edits (hedits : Relation.EqvGen (Edit names) h h') {name : String}
    (hname : name ∈ names) : given h name = given h' name := by
  induction hedits with
  | rel _ _ hedit => exact given_eq_of_edit hedit hname
  | refl _ => rfl
  | symm _ _ _ ih => exact ih.symm
  | trans _ _ _ _ _ ih ih' => exact ih.trans ih'

end VariantStore
