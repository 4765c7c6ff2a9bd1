import VariantStore.Message.Headers
import VariantStore.Text.Blank

/-!
# Selectors

An answer names in its `Vary` fields the request headers that it was chosen by. A selector records,
for each of these names, the value that the request gave; a name that the request lacks counts as
empty. A later request is served the same answer only if it gives the same values.

Names are in lower case and in ascending order, each once, so two selectors are equal exactly when
they record the same. The name `*` makes a selector a wildcard, which no request satisfies.
-/

namespace VariantStore

open Text

/-- The names ascend strictly. -/
abbrev Ascending (fields : List Field) : Prop := fields.Pairwise fun f g => f.name < g.name

/-- Negotiated headers with their values, in ascending order of the names. -/
structure Selector where
  fields : List Field
  wildcard : Bool
  ascending : Ascending fields
deriving DecidableEq

namespace Selector

/-! ## Recording -/

/-- Puts a field in its place; a field of the same name is replaced. -/
def place (f : Field) : List Field → List Field
  | [] => [f]
  | g :: rest =>
    if f.name < g.name then f :: g :: rest
    else if f.name = g.name then f :: rest
    else g :: place f rest

theorem mem_place {f g : Field} {fields : List Field} (h : g ∈ place f fields) :
    g = f ∨ g ∈ fields := by
  induction fields with
  | nil => simpa [place] using h
  | cons e rest ih =>
    unfold place at h
    split at h
    · simpa using h
    · split at h
      · rcases List.mem_cons.mp h with h | h
        · exact .inl h
        · exact .inr (List.mem_cons_of_mem _ h)
      · rcases List.mem_cons.mp h with h | h
        · exact .inr (h ▸ List.mem_cons_self)
        · exact (ih h).imp_right (List.mem_cons_of_mem _)

theorem ascending_place (f : Field) {fields : List Field} (h : Ascending fields) :
    Ascending (place f fields) := by
  induction fields with
  | nil => simp [place]
  | cons e rest ih =>
    have ⟨before, after⟩ := List.pairwise_cons.mp h
    unfold place
    split
    case isTrue lt =>
      refine List.pairwise_cons.mpr ⟨fun g hg => ?_, h⟩
      rcases List.mem_cons.mp hg with rfl | hg
      · exact lt
      · exact String.lt_trans lt (before g hg)
    case isFalse notLt =>
      split
      case isTrue same => exact List.pairwise_cons.mpr ⟨fun g hg => same ▸ before g hg, after⟩
      case isFalse differ =>
        refine List.pairwise_cons.mpr ⟨fun g hg => ?_, ih after⟩
        rcases mem_place hg with rfl | hg
        · exact Std.lt_of_le_of_ne (String.not_lt.mp notLt) (Ne.symm differ)
        · exact before g hg

/-- Records nothing, so every request satisfies it. -/
def empty : Selector := ⟨[], false, List.Pairwise.nil⟩

/-- Records a value under a name; a value recorded before is replaced. -/
def record (s : Selector) (name value : String) : Selector :=
  { s with
    fields := place ⟨lower name, value⟩ s.fields
    ascending := ascending_place _ s.ascending }

/-- Gives up on ever being satisfied. -/
def withWildcard (s : Selector) : Selector := { s with wildcard := true }

/-- Records fields one after the other, so the last one of a name stays. -/
def ofFields (fields : List Field) : Selector :=
  fields.foldl (fun s f => s.record f.name f.value) empty

/-! ## Negotiation -/

/-- The names that an answer says it was chosen by. -/
def listedNames (answer : Headers) : List String := (answer.getAll "vary").flatMap listItems

/-- What a request gives for a name: its values joined, or the empty text. -/
def given (request : Headers) (name : String) : String := (request.combined? name).getD ""

/-- Records one listed name. -/
def negotiate (request : Headers) (s : Selector) (name : String) : Selector :=
  if name = "*" then s.withWildcard else s.record name (given request name)

/-- The selector under which an answer to a request is kept. -/
def ofExchange (request answer : Headers) : Selector :=
  (listedNames answer).foldl (negotiate request) empty

/-- The request gives exactly the values recorded. -/
def accepts (s : Selector) (request : Headers) : Bool :=
  !s.wildcard && s.fields.all fun f => given request f.name == f.value

/-! ## Queries -/

def isEmpty (s : Selector) : Bool := s.fields.isEmpty && !s.wildcard

/-- The value recorded for a name in any case. -/
def get? (s : Selector) (name : String) : Option String :=
  (s.fields.find? fun f => f.name == lower name).map Field.value

def renderField (f : Field) : String := f.name ++ "=" ++ f.value

/-- A star for a wildcard and each field as `name=value`, set apart by semicolons. -/
def render (s : Selector) : String :=
  "; ".intercalate ((if s.wildcard then ["*"] else []) ++ s.fields.map renderField)

/-! ## Order

Selectors are ordered by their fields, as sequences of names and values, and then with the wildcard
last. -/

def compareFields (f g : Field) : Ordering := (compare f.name g.name).then (compare f.value g.value)

instance : Ord Selector where
  compare s t :=
    (List.compareLex compareFields s.fields t.fields).then (compare s.wildcard t.wildcard)

/-- No request satisfies a wildcard. -/
theorem accepts_of_wildcard {s : Selector} (h : s.wildcard = true) (request : Headers) :
    s.accepts request = false := by
  simp [accepts, h]

end Selector

end VariantStore
