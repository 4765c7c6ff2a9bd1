import VariantStore.Message.Request
import VariantStore.Selection.Selector

/-!
# What a selector accepts

The selector of an exchange is made by going through the names that the answer lists. What it
records does not depend on the order in which it does: for each name but `*`, what the request gave
for it (`mem_fields_ofExchange`); a name that is listed again, in any case, is given the same value.

A later request is accepted if and only if no listed name is `*` and it gives for each of them what
the first request gave (`accepts_ofExchange_iff`).
-/

namespace VariantStore

namespace Text

theorem toLower_toLower (c : Char) : c.toLower.toLower = c.toLower := by
  unfold Char.toLower
  split
  case isTrue upper =>
    -- the letter has moved beyond `Z`
    refine dif_neg fun again => ?_
    obtain ⟨hA, hZ⟩ := upper
    simp only [UInt32.le_iff_toNat_le, ge_iff_le, UInt32.toNat_add] at hA hZ again
    have hletters : 'A'.val.toNat = 65 ∧ 'Z'.val.toNat = 90 ∧ ('a'.val - 'A'.val).toNat = 32 := by
      decide
    omega
  case isFalse => rfl

@[simp] theorem lower_lower (s : String) : lower (lower s) = lower s := by
  rw [← String.toList_inj, toList_lower, toList_lower, List.map_map]
  exact List.map_congr_left fun c _ => toLower_toLower c

end Text

namespace Selector

open Text

/-- A request gives the same for a name in any case. -/
theorem given_congr (request : Headers) {m n : String} (same : lower m = lower n) :
    given request m = given request n := by
  unfold given
  rw [Headers.combined?_congr same]

theorem given_lower (request : Headers) (name : String) :
    given request (lower name) = given request name :=
  given_congr request (lower_lower name)

/-! ## Placing fields -/

theorem mem_place_self (f : Field) (fields : List Field) : f ∈ place f fields := by
  induction fields with
  | nil => exact List.mem_singleton_self f
  | cons g rest ih =>
    unfold place
    split
    · exact List.mem_cons_self
    · split
      · exact List.mem_cons_self
      · exact List.mem_cons_of_mem g ih

/-- A field stays unless another of its name takes its place. -/
theorem mem_place_of_ne {f g : Field} {fields : List Field} (hg : g ∈ fields)
    (hne : f.name ≠ g.name) : g ∈ place f fields := by
  induction fields with
  | nil => cases hg
  | cons e rest ih =>
    unfold place
    split
    · exact List.mem_cons_of_mem f hg
    · split
      case isTrue same =>
        rcases List.mem_cons.mp hg with rfl | hg
        · exact absurd same hne
        · exact List.mem_cons_of_mem f hg
      case isFalse =>
        rcases List.mem_cons.mp hg with rfl | hg
        · exact List.mem_cons_self
        · exact List.mem_cons_of_mem e (ih hg)

/-! ## Going through the names -/

section Names

variable (request : Headers)

/-- What is recorded for a name. -/
def negotiated (name : String) : Field := ⟨lower name, given request name⟩

theorem negotiate_star (s : Selector) : negotiate request s "*" = s.withWildcard := if_pos rfl

theorem negotiate_of_ne {name : String} (h : name ≠ "*") (s : Selector) :
    negotiate request s name = s.record name (given request name) :=
  if_neg h

/-- Names that are equal up to case are recorded alike. -/
theorem negotiated_eq_of_name {m n : String}
    (h : (negotiated request m).name = (negotiated request n).name) :
    negotiated request m = negotiated request n := by
  have same : lower m = lower n := h
  unfold negotiated
  rw [same, given_congr request same]

theorem wildcard_foldl_negotiate (names : List String) (s : Selector) :
    (names.foldl (negotiate request) s).wildcard = true ↔ s.wildcard = true ∨ "*" ∈ names := by
  induction names generalizing s with
  | nil => simp
  | cons name rest ih =>
    rw [List.foldl_cons, ih]
    by_cases h : name = "*"
    · subst h
      rw [negotiate_star]
      simp [withWildcard]
    · rw [negotiate_of_ne request h]
      simp [record, Ne.symm h]

/-- Every field comes from before or from one of the names. -/
theorem mem_foldl_negotiate {names : List String} {s : Selector} {f : Field}
    (hf : f ∈ (names.foldl (negotiate request) s).fields) :
    f ∈ s.fields ∨ ∃ name ∈ names, name ≠ "*" ∧ f = negotiated request name := by
  induction names generalizing s with
  | nil => exact Or.inl hf
  | cons name rest ih =>
    rcases ih hf with hf | ⟨n, hn, hne, rfl⟩
    · by_cases h : name = "*"
      · subst h
        rw [negotiate_star] at hf
        exact Or.inl hf
      · rw [negotiate_of_ne request h] at hf
        rcases mem_place hf with rfl | hf
        · exact Or.inr ⟨name, List.mem_cons_self, h, rfl⟩
        · exact Or.inl hf
    · exact Or.inr ⟨n, List.mem_cons_of_mem name hn, hne, rfl⟩

/-- What was recorded stays recorded: a name that comes again is given the same value. -/
theorem negotiated_mem_foldl {names : List String} {s : Selector} {name : String}
    (h : negotiated request name ∈ s.fields) :
    negotiated request name ∈ (names.foldl (negotiate request) s).fields := by
  induction names generalizing s with
  | nil => exact h
  | cons n rest ih =>
    refine ih ?_
    by_cases hn : n = "*"
    · subst hn
      rw [negotiate_star]
      exact h
    · rw [negotiate_of_ne request hn]
      show negotiated request name ∈ place (negotiated request n) s.fields
      -- the field that takes its place is the same
      by_cases hname : (negotiated request n).name = (negotiated request name).name
      · rw [← negotiated_eq_of_name request hname]
        exact mem_place_self _ _
      · exact mem_place_of_ne h hname

theorem negotiated_mem_foldl_of_mem {names : List String} {s : Selector} {name : String}
    (hname : name ∈ names) (hne : name ≠ "*") :
    negotiated request name ∈ (names.foldl (negotiate request) s).fields := by
  induction names generalizing s with
  | nil => cases hname
  | cons n rest ih =>
    rw [List.foldl_cons]
    rcases List.mem_cons.mp hname with rfl | hname
    · have hrecorded : negotiated request name ∈ (negotiate request s name).fields := by
        rw [negotiate_of_ne request hne]
        exact mem_place_self _ _
      exact negotiated_mem_foldl request hrecorded
    · exact ih hname

end Names

/-! ## The selector of an exchange -/

variable {request answer : Headers}

theorem wildcard_ofExchange_iff :
    (ofExchange request answer).wildcard = true ↔ "*" ∈ listedNames answer := by
  unfold ofExchange
  rw [wildcard_foldl_negotiate]
  simp [empty]

/-- A selector records what the request gave for each listed name, and nothing else. -/
theorem mem_fields_ofExchange {f : Field} :
    f ∈ (ofExchange request answer).fields ↔
      ∃ name ∈ listedNames answer, name ≠ "*" ∧ f = negotiated request name := by
  constructor
  · intro hf
    rcases mem_foldl_negotiate request hf with hf | hf
    · cases hf
    · exact hf
  · rintro ⟨name, hname, hne, rfl⟩
    exact negotiated_mem_foldl_of_mem request hname hne

/-- A request is accepted if it gives for every listed name what the first request gave, and none of
the names is `*`. -/
theorem accepts_ofExchange_iff {later : Headers} :
    (ofExchange request answer).accepts later = true ↔
      "*" ∉ listedNames answer ∧
        ∀ name ∈ listedNames answer, given later name = given request name := by
  have hwildcard : (ofExchange request answer).wildcard = false ↔ "*" ∉ listedNames answer := by
    rw [← wildcard_ofExchange_iff, Bool.not_eq_true]
  unfold accepts
  rw [Bool.and_eq_true, Bool.not_eq_true', hwildcard, List.all_eq_true]
  refine and_congr_right fun hstar => ?_
  constructor
  · intro h name hname
    have hne : name ≠ "*" := fun heq => hstar (heq ▸ hname)
    have hgiven := h _ (mem_fields_ofExchange.mpr ⟨name, hname, hne, rfl⟩)
    rw [← given_lower later]
    exact beq_iff_eq.mp hgiven
  · intro h f hf
    obtain ⟨name, hname, -, rfl⟩ := mem_fields_ofExchange.mp hf
    rw [beq_iff_eq]
    exact (given_lower later name).trans (h name hname)

end Selector

/-! ## Requests for pages -/

/-- A request for a page of one site. -/
def Request.forPage (name : String) (fields : List Field) : Request where
  uri := ⟨"http", some { host := some (.domain "example.com") }, .segments [name], none, none⟩
  headers := ⟨fields⟩

end VariantStore
