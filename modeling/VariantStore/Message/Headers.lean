import VariantStore.Text.Ascii

/-!
# Header fields

Fields keep the order in which they were added, and a name may occur more than once. Names are
compared up to the case of ASCII letters; a field keeps the spelling that it was added under.
-/

namespace VariantStore

open Text

/-- One header field. -/
structure Field where
  name : String
  value : String
deriving DecidableEq

/-- A list of header fields, in the order in which they were added. -/
structure Headers where
  fields : List Field := []
deriving DecidableEq

namespace Headers

def empty : Headers := {}

def size (h : Headers) : Nat := h.fields.length

def isEmpty (h : Headers) : Bool := h.fields.isEmpty

/-- Adds a field at the end; fields of the same name stay. -/
def append (h : Headers) (name value : String) : Headers := ⟨h.fields ++ [⟨name, value⟩]⟩

/-- Adds several fields at the end, in order. -/
def appendAll (h : Headers) (fields : List Field) : Headers := ⟨h.fields ++ fields⟩

/-- Takes out every field of the name. -/
def erase (h : Headers) (name : String) : Headers :=
  ⟨h.fields.filter fun f => !sameName f.name name⟩

/-- Takes out every field of the name and tells whether there was one. -/
def remove (h : Headers) (name : String) : Bool × Headers :=
  let rest := h.erase name
  (decide (rest.size < h.size), rest)

/-- Leaves a single field of the name, at the end. -/
def set (h : Headers) (name value : String) : Headers := (h.erase name).append name value

/-- The values of a name, in order. -/
def getAll (h : Headers) (name : String) : List String :=
  (h.fields.filter fun f => sameName f.name name).map Field.value

/-- The first value of a name. -/
def get? (h : Headers) (name : String) : Option String :=
  (h.fields.find? fun f => sameName f.name name).map Field.value

def contains (h : Headers) (name : String) : Bool :=
  h.fields.any fun f => sameName f.name name

/-- The values of a name joined by a comma and a space. -/
def combined? (h : Headers) (name : String) : Option String :=
  match h.getAll name with
  | [] => none
  | values => some (", ".intercalate values)

/-! ## Queries agree -/

theorem get?_eq_head? (h : Headers) (name : String) : h.get? name = (h.getAll name).head? := by
  simp [get?, getAll, List.head?_filter]

theorem contains_eq_true_iff {h : Headers} {name : String} :
    h.contains name = true ↔ h.getAll name ≠ [] := by
  simp [contains, getAll]

theorem combined?_eq_none_iff {h : Headers} {name : String} :
    h.combined? name = none ↔ h.getAll name = [] := by
  unfold combined?
  split <;> simp_all

theorem combined?_congr {h : Headers} {m n : String} (same : lower m = lower n) :
    h.combined? m = h.combined? n := by
  simp [combined?, getAll, sameName, same]

/-! ## What each change does to the values of a name -/

theorem getAll_append (h : Headers) (name value other : String) :
    (h.append name value).getAll other
      = h.getAll other ++ if sameName name other then [value] else [] := by
  by_cases same : sameName name other = true <;> simp [append, getAll, same]

@[simp] theorem getAll_erase_self (h : Headers) (name : String) :
    (h.erase name).getAll name = [] := by
  simp [erase, getAll]

end Headers

end VariantStore
