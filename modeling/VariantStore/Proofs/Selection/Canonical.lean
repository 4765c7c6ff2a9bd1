import Mathlib.Data.List.Nodup
import Mathlib.Data.Set.Basic
import VariantStore.Proofs.Selection.Edits
import VariantStore.Proofs.Text.ListItems
import VariantStore.Selection.Key

/-!
# Selectors depend on the set of listed names

An answer may list its names in any order and any case, repeat them, space them out or spread them
over several fields. What counts is the set of names in lower case (`listed`), which is described
here apart from the code that goes through them. A selector has a field for each of these names but
`*`, with what the request gives for it (`mem_fields_ofExchange_iff_listed`). The names of a
selector ascend, so it is determined by the fields that it has (`eq_of_mem_fields_iff`), and answers
that list the same set make the same selector (`canonical_of_exchange`).
-/

namespace VariantStore.Selector

open Text

/-! ## The fields of a selector -/

section Fields

variable {s t : Selector} {f g : Field} {name value : String}

theorem nodup_names (s : Selector) : (s.fields.map Field.name).Nodup := by
  refine List.pairwise_map.mpr (s.ascending.imp fun {f g} hlt heq => ?_)
  rw [heq] at hlt
  exact String.lt_irrefl _ hlt

/-- A selector has one field of a name at most. -/
theorem eq_of_name_eq (hf : f ∈ s.fields) (hg : g ∈ s.fields) (h : f.name = g.name) : f = g :=
  List.inj_on_of_nodup_map s.nodup_names hf hg h

theorem get?_eq_some_iff : s.get? name = some value ↔ ⟨lower name, value⟩ ∈ s.fields := by
  unfold get?
  rw [Option.map_eq_some_iff]
  constructor
  · rintro ⟨f, hfind, rfl⟩
    have hname : f.name = lower name := by simpa using List.find?_some hfind
    rw [← hname]
    exact List.mem_of_find?_eq_some hfind
  · intro hmem
    cases hfind : s.fields.find? fun f => f.name == lower name with
    | none => exact absurd hmem (by simpa using List.find?_eq_none.mp hfind ⟨lower name, value⟩)
    | some f =>
      have hname : f.name = lower name := by simpa using List.find?_some hfind
      have hf : f = ⟨lower name, value⟩ :=
        eq_of_name_eq (List.mem_of_find?_eq_some hfind) hmem hname
      exact ⟨f, rfl, by rw [hf]⟩

/-- Selectors with the same fields are equal: there is one way to put them in order. -/
theorem eq_of_mem_fields_iff (hfields : ∀ f, f ∈ s.fields ↔ f ∈ t.fields)
    (hwildcard : s.wildcard = t.wildcard) : s = t := by
  have hperm : s.fields.Perm t.fields :=
    (List.perm_ext_iff_of_nodup (.of_map _ s.nodup_names) (.of_map _ t.nodup_names)).mpr hfields
  have heq : s.fields = t.fields :=
    hperm.eq_of_pairwise (fun _ _ _ _ hlt hgt => absurd hgt (String.lt_asymm hlt)) s.ascending
      t.ascending
  cases s
  cases t
  cases heq
  cases hwildcard
  rfl

end Fields

/-! ## The set of listed names -/

/-- The names that an answer lists, in lower case. -/
def listed (answer : Headers) : Set String :=
  {name | ∃ f ∈ answer.fields, lower f.name = "vary" ∧
    ∃ item, IsItem item f.value ∧ lower item = name}

section Listed

variable {answer request : Headers} {name : String}

theorem mem_listed_iff : name ∈ listed answer ↔ ∃ item ∈ listedNames answer, lower item = name := by
  have hvary : lower "vary" = "vary" := by decide +kernel
  simp only [listed, Set.mem_ofPred_eq, listedNames, Headers.getAll, List.mem_flatMap, List.mem_map,
    List.mem_filter, sameName_iff, hvary, mem_listItems_iff]
  constructor
  · rintro ⟨f, hf, hname, item, hitem, rfl⟩
    exact ⟨item, ⟨f.value, ⟨f, ⟨hf, hname⟩, rfl⟩, hitem⟩, rfl⟩
  · rintro ⟨item, ⟨-, ⟨f, ⟨hf, hname⟩, rfl⟩, hitem⟩, rfl⟩
    exact ⟨f, hf, hname, item, hitem, rfl⟩

theorem toLower_eq_star_iff {c : Char} : c.toLower = '*' ↔ c = '*' := by
  unfold Char.toLower
  split
  case isTrue upper =>
    -- a capital letter is not a star, and neither is the small one
    obtain ⟨hA, hZ⟩ := upper
    simp only [UInt32.le_iff_toNat_le, ge_iff_le] at hA hZ
    have hcodes : 'A'.val.toNat = 65 ∧ 'Z'.val.toNat = 90 ∧ ('a'.val - 'A'.val).toNat = 32 ∧
        '*'.val.toNat = 42 := by decide
    constructor
    · intro h
      have hval := congrArg (fun d : Char => d.val.toNat) h
      simp only [UInt32.toNat_add] at hval
      omega
    · rintro rfl
      omega
  case isFalse => exact Iff.rfl

/-- No other name becomes `*` in lower case. -/
theorem lower_eq_star_iff : lower name = "*" ↔ name = "*" := by
  rw [← String.toList_inj, ← String.toList_inj, toList_lower]
  show name.toList.map Char.toLower = ['*'] ↔ name.toList = ['*']
  rw [List.map_eq_singleton_iff]
  constructor
  · rintro ⟨c, hname, hc⟩
    rw [hname, toLower_eq_star_iff.mp hc]
  · intro hname
    exact ⟨'*', hname, rfl⟩

theorem star_mem_listed_iff : "*" ∈ listed answer ↔ "*" ∈ listedNames answer := by
  rw [mem_listed_iff]
  constructor
  · rintro ⟨item, hitem, hstar⟩
    rwa [lower_eq_star_iff.mp hstar] at hitem
  · intro hstar
    exact ⟨"*", hstar, lower_eq_star_iff.mpr rfl⟩

/-- A selector records what the request gives for each name of the set but `*`. -/
theorem mem_fields_ofExchange_iff_listed {f : Field} :
    f ∈ (ofExchange request answer).fields ↔
      f.name ∈ listed answer ∧ f.name ≠ "*" ∧ f.value = given request f.name := by
  rw [mem_fields_ofExchange, mem_listed_iff]
  constructor
  · rintro ⟨item, hitem, hne, rfl⟩
    exact ⟨⟨item, hitem, rfl⟩, fun hstar => hne (lower_eq_star_iff.mp hstar),
      (given_lower request item).symm⟩
  · rintro ⟨⟨item, hitem, hname⟩, hne, hvalue⟩
    refine ⟨item, hitem, fun hstar => hne ?_, ?_⟩
    · rw [← hname, hstar, lower_eq_star_iff]
    · obtain ⟨fname, fvalue⟩ := f
      obtain rfl : lower item = fname := hname
      obtain rfl : fvalue = given request (lower item) := hvalue
      exact congrArg (Field.mk (lower item)) (given_lower request item)

/-- Answers that list the same set make the same selector. -/
theorem ofExchange_eq_of_listed_eq (request : Headers) {other : Headers}
    (h : listed other = listed answer) : ofExchange request other = ofExchange request answer := by
  refine eq_of_mem_fields_iff (fun f => ?_) ?_
  · rw [mem_fields_ofExchange_iff_listed, mem_fields_ofExchange_iff_listed, h]
  · rw [Bool.eq_iff_iff, wildcard_ofExchange_iff, wildcard_ofExchange_iff, ← star_mem_listed_iff,
      ← star_mem_listed_iff, h]

end Listed

/-! ## The canonical form -/

/-- The selector of an exchange is the canonical form of the set of listed names. It is a wildcard
if and only if `*` is one of them; the others are its names, in ascending order, and it gives for
each of them, in any case, the values that the request has for it, joined. Answers that list the
same set are kept under the same key. -/
theorem canonical_of_exchange (request : Request) (answer : Headers) :
    let s := ofExchange request.headers answer
    (s.wildcard = true ↔ "*" ∈ listed answer) ∧
    (s.fields.map Field.name).Pairwise (· < ·) ∧
    (∀ name, name ∈ s.fields.map Field.name ↔ name ∈ listed answer ∧ name ≠ "*") ∧
    (∀ name, lower name ∈ listed answer ∧ lower name ≠ "*" →
      s.get? name = some (", ".intercalate (request.headers.getAll name))) ∧
    (∀ name, ¬(lower name ∈ listed answer ∧ lower name ≠ "*") → s.get? name = none) ∧
    ∀ other, listed other = listed answer →
      ofExchange request.headers other = s ∧
        Key.ofExchange request other = Key.ofExchange request answer := by
  intro s
  refine ⟨wildcard_ofExchange_iff.trans star_mem_listed_iff.symm,
    List.pairwise_map.mpr s.ascending, fun name => ?_, fun name hname => ?_, fun name hname => ?_,
    fun other hother => ?_⟩
  · rw [List.mem_map]
    constructor
    · rintro ⟨f, hf, rfl⟩
      obtain ⟨hlisted, hne, -⟩ := mem_fields_ofExchange_iff_listed.mp hf
      exact ⟨hlisted, hne⟩
    · rintro ⟨hlisted, hne⟩
      exact ⟨⟨name, given request.headers name⟩,
        mem_fields_ofExchange_iff_listed.mpr ⟨hlisted, hne, rfl⟩, rfl⟩
  · rw [← given_eq_intercalate, ← given_lower]
    exact get?_eq_some_iff.mpr (mem_fields_ofExchange_iff_listed.mpr ⟨hname.1, hname.2, rfl⟩)
  · cases hget : s.get? name with
    | none => rfl
    | some value =>
      obtain ⟨hlisted, hne, -⟩ := mem_fields_ofExchange_iff_listed.mp (get?_eq_some_iff.mp hget)
      exact absurd ⟨hlisted, hne⟩ hname
  · have hselector := ofExchange_eq_of_listed_eq request.headers hother
    exact ⟨hselector, congrArg (Key.mk request.resource) hselector⟩

/-- Names that are repeated, spaced out and spread over two fields, and the same names again. -/
theorem canonical_of_exchange_respelled :
    let request : Request := .forPage "a" [⟨"Accept", "text/html"⟩, ⟨"accept", "text/plain"⟩]
    let answer : Headers := ⟨[⟨"Vary", "Cookie, ,Accept"⟩, ⟨"vary", "aCCEPT"⟩]⟩
    let other : Headers := ⟨[⟨"VARY", " accept,cookie "⟩]⟩
    Key.ofExchange request other = Key.ofExchange request answer ∧
      (ofExchange request.headers other).get? "ACCEPT" = some "text/html, text/plain" ∧
      (ofExchange request.headers other).get? "Vary" = none := by
  intro request answer other
  have hanswer : listedNames answer = ["Cookie", "Accept", "aCCEPT"] := by
    simp only [answer, listedNames, Headers.getAll, sameName_eq_decide]
    decide +kernel
  have hother : listedNames other = ["accept", "cookie"] := by
    simp only [other, listedNames, Headers.getAll, sameName_eq_decide]
    decide +kernel
  have hlower : lower "Cookie" = "cookie" ∧ lower "cookie" = "cookie" ∧ lower "Accept" = "accept" ∧
      lower "aCCEPT" = "accept" ∧ lower "accept" = "accept" ∧ lower "ACCEPT" = "accept" ∧
      lower "Vary" = "vary" := by decide +kernel
  have hset : listed other = listed answer := by
    ext name
    simp only [mem_listed_iff, hanswer, hother]
    simp [hlower]
    tauto
  obtain ⟨-, -, -, -, -, hsame⟩ := canonical_of_exchange request answer
  obtain ⟨-, hkey⟩ := hsame other hset
  obtain ⟨-, -, -, hgiven, hnone, -⟩ := canonical_of_exchange request other
  have haccept : lower "ACCEPT" ∈ listed other ∧ lower "ACCEPT" ≠ "*" := by
    simp [mem_listed_iff, hother, hlower]
  have hvary : ¬(lower "Vary" ∈ listed other ∧ lower "Vary" ≠ "*") := by
    simp [mem_listed_iff, hother, hlower]
  have hvalues : request.headers.getAll "ACCEPT" = ["text/html", "text/plain"] := by
    simp only [request, Request.forPage, Headers.getAll, sameName_eq_decide]
    decide +kernel
  refine ⟨hkey, ?_, hnone "Vary" hvary⟩
  rw [hgiven "ACCEPT" haccept, hvalues]
  rfl

end VariantStore.Selector
