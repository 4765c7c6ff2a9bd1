import VariantStore.Proofs.Settings.Documents
import VariantStore.Store.Basic

/-!
# Settings survive being written

Every number that is read off a document fits into 64 bits, whatever the document is
(`lt_of_readDocument`), so settings that come from a document can be written and read again. With
what is read off the objects that give settings, this tells which documents give settings and which
bounds get through (`roundTrip_of_documents`).
-/

namespace VariantStore.Settings

open Json

/-! ## What is read fits -/

theorem fits_readBound (cs : List Char) : Meets (· < UInt64.size) (readBound cs) := by
  fun_cases readBound cs with
  | case1 | case2 | case4 | case5 | case6 => exact meets_error _
  | case3 c cs' _ _ n rest hnumber =>
    have hfits : n ≤ maxSignificand := by
      split at hnumber
      case isTrue => exact fits_readNumber true cs' _ _ hnumber
      case isFalse => exact fits_readNumber false (c :: cs') _ _ hnumber
    refine meets_ok ?_ rest
    exact Nat.lt_succ_of_le hfits

theorem fits_readColonBound (cs : List Char) : Meets (· < UInt64.size) (readColonBound cs) := by
  fun_cases readColonBound cs with
  | case1 | case3 => exact meets_error _
  | case2 => exact fits_readBound _

/-- The bounds given so far fit. -/
def Given.Fits (given : Given) : Prop := ∀ bound, ∀ n ∈ given.get? bound, n < UInt64.size

theorem Given.Fits.set {given : Given} (h : given.Fits) (bound : Bound) {n : Nat}
    (hn : n < UInt64.size) : (given.set bound n).Fits := by
  intro other m hm
  rw [Given.get?_set] at hm
  split at hm
  case isTrue =>
    obtain rfl : n = m := by simpa using hm
    exact hn
  case isFalse => exact h other m hm

theorem fits_readMembers {given : Given} (h : given.Fits) (first : Bool) (cs : List Char) :
    Meets Given.Fits (readMembers given first cs) := by
  fun_induction readMembers given first cs with
  | case1 | case3 | case4 | case5 | case6 => exact meets_error _
  | case2 => exact meets_ok h _
  | case7 _ _ _ _ _ _ _ _ bound _ _ n _ hvalue _ ih =>
    exact ih (h.set bound (fits_readColonBound _ n _ hvalue))

theorem fits_readElement (first : Bool) (cs : List Char) :
    Meets (fun element => ∀ n ∈ element, n < UInt64.size) (readElement first cs) := by
  fun_cases readElement first cs with
  | case1 => exact meets_error _
  | case2 => exact meets_ok (by simp) _
  | case3 => exact (fits_readBound _).map fun n hn => by simpa using hn

theorem fits_readElements (cs : List Char) : Meets Given.Fits (readElements cs) := by
  unfold readElements
  refine meets_bind fun ⟨capacity, rest⟩ hcapacity => ?_
  refine meets_bind fun ⟨variantCapacity, rest⟩ hvariants => ?_
  refine meets_bind fun rest _ => ?_
  have hfits : Given.Fits ⟨capacity, variantCapacity⟩ := by
    intro bound
    cases bound with
    | capacity => exact fits_readElement _ _ _ _ hcapacity
    | variantCapacity => exact fits_readElement _ _ _ _ hvariants
  exact meets_ok hfits rest

theorem fits_readGiven (cs : List Char) : Meets Given.Fits (readGiven cs) := by
  have hnothing : ({} : Given).Fits := by
    intro bound n hn
    cases bound <;> cases hn
  fun_cases readGiven cs with
  | case1 | case4 => exact meets_error _
  | case2 => exact fits_readElements _
  | case3 => exact fits_readMembers hnothing true _

theorem Given.Fits.settings {given : Given} (h : given.Fits) :
    given.settings.capacity < UInt64.size ∧ given.settings.variantCapacity < UInt64.size := by
  have hstandard : ({} : Settings).capacity < UInt64.size ∧
      ({} : Settings).variantCapacity < UInt64.size := by decide
  have hcapacity := h .capacity
  have hvariants := h .variantCapacity
  obtain ⟨capacity, variantCapacity⟩ := given
  constructor
  · cases capacity with
    | none => exact hstandard.1
    | some n => exact hcapacity n rfl
  · cases variantCapacity with
    | none => exact hstandard.2
    | some n => exact hvariants n rfl

/-- Bounds that come from a document fit into 64 bits, whatever the document is. -/
theorem lt_of_readDocument {document : String} {s : Settings} (h : readDocument document = .ok s) :
    s.capacity < UInt64.size ∧ s.variantCapacity < UInt64.size := by
  cases hgiven : readGiven document.toList with
  | error f =>
    rw [readDocument, hgiven] at h
    cases h
  | ok r =>
    have hfits : r.1.Fits := fits_readGiven _ r.1 r.2 hgiven
    rw [readDocument_of_readGiven hgiven] at h
    split at h
    case isTrue =>
      cases h
      exact hfits.settings
    case isFalse => cases h

/-! ## Checking -/

/-- What reading a document with these bounds comes to: the settings, unless a bound is zero. -/
def checked (s : Settings) : Except SettingsError Settings :=
  if s.capacity = 0 then .error (.zero ⟨.capacity⟩)
  else if s.variantCapacity = 0 then .error (.zero ⟨.variantCapacity⟩)
  else .ok s

theorem ofDocument_eq_checked {document : String} {s : Settings}
    (h : readDocument document = .ok s) : ofDocument document = s.checked := by
  unfold ofDocument checked bounds
  rw [h]
  by_cases hcapacity : s.capacity = 0
  · simp [hcapacity]
  · by_cases hvariants : s.variantCapacity = 0
    · simp [hcapacity, hvariants]
    · simp [hcapacity, hvariants]

theorem checked_eq_ok_iff {s t : Settings} :
    s.checked = .ok t ↔ 1 ≤ s.capacity ∧ 1 ≤ s.variantCapacity ∧ s = t := by
  unfold checked
  split
  case isTrue hzero => simp [hzero]
  case isFalse hcapacity =>
    split
    case isTrue hzero => simp [hzero]
    case isFalse hvariants =>
      rw [Except.ok.injEq]
      constructor
      · intro heq
        exact ⟨by omega, by omega, heq⟩
      · exact fun h => h.2.2

theorem readDocument_of_ofDocument {document : String} {s : Settings}
    (h : ofDocument document = .ok s) : readDocument document = .ok s := by
  cases hread : readDocument document with
  | error f =>
    rw [ofDocument, hread] at h
    cases h
  | ok t =>
    rw [ofDocument_eq_checked hread] at h
    rw [(checked_eq_ok_iff.mp h).2.2]

/-- What is written is read as it was. -/
theorem ofDocument_render {s : Settings} (hcapacity : s.capacity < UInt64.size)
    (hvariants : s.variantCapacity < UInt64.size) : ofDocument s.render = s.checked := by
  obtain ⟨d, htext, hsettings⟩ := exists_text_eq_render hcapacity hvariants
  have hread : readDocument s.render = .ok s := by
    rw [← htext, readDocument_text, hsettings]
  exact ofDocument_eq_checked hread

/-- Settings with bounds of 64 bits are read as they were written, and an object with any of the
bounds gives them and the defaults for the others, unless a bound is zero. Whatever a document is,
the settings that it gives have no bound of zero and none above 64 bits, they make a store with just
these bounds, and they are read again as they were. -/
theorem roundTrip_of_documents :
    (∀ s : Settings, s.capacity < UInt64.size → s.variantCapacity < UInt64.size →
      ofDocument s.render = s.checked) ∧
    (∀ d : Document, ofDocument d.text = d.settings.checked) ∧
    ∀ (document : String) (s : Settings), ofDocument document = .ok s →
      1 ≤ s.capacity ∧ 1 ≤ s.variantCapacity ∧
      s.capacity < UInt64.size ∧ s.variantCapacity < UInt64.size ∧
      s.bounds = .ok (s.capacity, s.variantCapacity) ∧
      (∃ store : Store, Store.ofSettings s = .ok store ∧
        store.capacity = s.capacity ∧ store.variantCapacity = s.variantCapacity) ∧
      ofDocument s.render = .ok s := by
  refine ⟨fun s => ofDocument_render, fun d => ofDocument_eq_checked (readDocument_text d),
    fun document s h => ?_⟩
  have hread : readDocument document = .ok s := readDocument_of_ofDocument h
  have hchecked : s.checked = .ok s := by rw [← ofDocument_eq_checked hread, h]
  obtain ⟨hcapacity, hvariants, -⟩ := checked_eq_ok_iff.mp hchecked
  have hbounds : s.bounds = .ok (s.capacity, s.variantCapacity) :=
    bounds_eq_ok_iff.mpr ⟨hcapacity, hvariants, rfl⟩
  have hstore : Store.ofSettings s = .ok (.empty s.capacity s.variantCapacity) := by
    rw [Store.ofSettings, hbounds]
    rfl
  obtain ⟨hfits, hfits'⟩ := lt_of_readDocument hread
  refine ⟨hcapacity, hvariants, hfits, hfits', hbounds, ⟨_, hstore, rfl, rfl⟩, ?_⟩
  rw [ofDocument_render hfits hfits', hchecked]

/-- An object with one bound, the first letter of whose name is spelled by its code point. -/
def spelled : Document where
  members :=
    [{ bound := .variantCapacity
       value := 3
       spelling := '\\' :: 'u' :: '0' :: '0' :: '7' :: '6' :: "ary_capacity".toList
       beforeName := noBlanks
       behindName := ⟨[' '], rfl⟩
       beforeValue := ⟨['\t'], rfl⟩
       behindValue := noBlanks
       fits := by decide
       spells := .code (by decide : Text.numeral? 16 ['0', '0', '7', '6'] = some 'v'.toNat)
         (spells_self (by decide)) }]
  before := ⟨['\n'], rfl⟩
  inside := noBlanks
  behind := ⟨[' '], rfl⟩
  distinct := (by decide : [Bound.variantCapacity].Nodup)

theorem roundTrip_of_spelled :
    spelled.text = "\n\x7b\"\\u0076ary_capacity\" :\t3\x7d " ∧
    ofDocument spelled.text = .ok ⟨1000, 3⟩ ∧
    ofDocument (render ⟨1000, 3⟩) = .ok ⟨1000, 3⟩ ∧
    ofDocument (render ⟨5, 0⟩) = .error (.zero ⟨.variantCapacity⟩) := by
  have hread : ofDocument spelled.text = .ok ⟨1000, 3⟩ := by
    rw [roundTrip_of_documents.2.1 spelled]
    rfl
  refine ⟨?_, hread, ?_, ?_⟩
  · rfl
  · exact (roundTrip_of_documents.2.2 _ _ hread).2.2.2.2.2.2
  · rw [roundTrip_of_documents.1 ⟨5, 0⟩ (by decide) (by decide)]
    rfl

end VariantStore.Settings
