import Mathlib.Data.List.Basic
import VariantStore.Proofs.Selection.Negotiation
import VariantStore.Selection.Key

/-!
# Requests that are filed alike

An exchange is filed under a selector when its answer is stored, and a later request is tried
against that selector when it is looked up. The first goes through the names as the answer spells
them, the second through the names as they were recorded. They agree: a request is accepted by a
selector without `*` if and only if it would have been filed under the same one
(`accepts_iff_filed_alike`).

What decides both is what the requests give for the listed names (`ofExchange_eq_iff`).
-/

namespace VariantStore.Selector

variable {request later answer : Headers}

/-! ## Equal selectors -/

/-- Requests that give the same for the listed names are filed under the same selector. -/
theorem ofExchange_congr
    (h : ∀ name ∈ listedNames answer, name ≠ "*" → given later name = given request name) :
    ofExchange later answer = ofExchange request answer := by
  unfold ofExchange
  refine List.foldl_ext _ _ _ fun s name hname => ?_
  by_cases hstar : name = "*"
  · rw [hstar, negotiate_star, negotiate_star]
  · rw [negotiate_of_ne later hstar, negotiate_of_ne request hstar, h name hname hstar]

/-- What is recorded under a name tells what was given for it, in whatever case it is listed. -/
theorem given_eq_of_ofExchange_eq (h : ofExchange later answer = ofExchange request answer)
    {name : String} (hname : name ∈ listedNames answer) (hne : name ≠ "*") :
    given later name = given request name := by
  have hmem : negotiated later name ∈ (ofExchange later answer).fields :=
    mem_fields_ofExchange.mpr ⟨name, hname, hne, rfl⟩
  rw [h] at hmem
  -- the other request recorded it under a name that may be spelled in another case
  obtain ⟨name', -, -, heq⟩ := mem_fields_ofExchange.mp hmem
  have same : Text.lower name = Text.lower name' := congrArg Field.name heq
  have hvalue : given later name = given request name' := congrArg Field.value heq
  rw [hvalue, given_congr request same]

theorem ofExchange_eq_iff :
    ofExchange later answer = ofExchange request answer ↔
      ∀ name ∈ listedNames answer, name ≠ "*" → given later name = given request name := by
  constructor
  · intro h name hname hne
    exact given_eq_of_ofExchange_eq h hname hne
  · exact ofExchange_congr

/-- Without `*`, being accepted and being filed alike are the same. -/
theorem accepts_ofExchange_iff_eq (hstar : "*" ∉ listedNames answer) :
    (ofExchange request answer).accepts later = true ↔
      ofExchange later answer = ofExchange request answer := by
  rw [accepts_ofExchange_iff, ofExchange_eq_iff]
  constructor
  · rintro ⟨-, hgiven⟩ name hname -
    exact hgiven name hname
  · intro hgiven
    exact ⟨hstar, fun name hname => hgiven name hname fun heq => hstar (heq ▸ hname)⟩

/-- For one resource, exchanges are kept under the same key if their selectors are the same. -/
theorem key_eq_iff {first second : Request} (hresource : second.resource = first.resource) :
    Key.ofExchange second answer = Key.ofExchange first answer ↔
      ofExchange second.headers answer = ofExchange first.headers answer := by
  simp [Key.ofExchange, hresource]

/-! ## Accepting and filing -/

/-- A request is accepted by the selector of an exchange if and only if it would have been filed
under the same selector, and so, for the same resource, under the same key; the request of the
exchange is accepted itself. An answer that lists `*` makes a wildcard, which accepts no request. -/
theorem accepts_iff_filed_alike (first : Request) (answer : Headers) :
    let s := ofExchange first.headers answer
    ("*" ∉ listedNames answer →
      (∀ later : Request,
        (s.accepts later.headers = true ↔ ofExchange later.headers answer = s) ∧
        (later.resource = first.resource →
          (s.accepts later.headers = true ↔
            Key.ofExchange later answer = Key.ofExchange first answer))) ∧
      s.accepts first.headers = true) ∧
    ("*" ∈ listedNames answer →
      s.wildcard = true ∧ ∀ later : Request, s.accepts later.headers = false) := by
  intro s
  constructor
  · intro hstar
    refine ⟨fun later => ⟨accepts_ofExchange_iff_eq hstar, fun hresource => ?_⟩, ?_⟩
    · rw [key_eq_iff hresource]
      exact accepts_ofExchange_iff_eq hstar
    · exact (accepts_ofExchange_iff_eq hstar).mpr rfl
  · intro hstar
    have hwildcard : s.wildcard = true := wildcard_ofExchange_iff.mpr hstar
    exact ⟨hwildcard, fun later => accepts_of_wildcard hwildcard later.headers⟩

/-- A name is listed twice, and its value comes in two fields or in one. -/
theorem accepts_iff_filed_alike_folded :
    let first : Request := .forPage "a" [⟨"Accept", "text/html"⟩, ⟨"accept", "text/plain"⟩]
    let later : Request := .forPage "a" [⟨"ACCEPT", "text/html, text/plain"⟩]
    let answer : Headers := ⟨[⟨"Vary", "Accept, , Cookie"⟩, ⟨"vary", "aCCEPT"⟩]⟩
    "*" ∉ listedNames answer ∧
      (ofExchange first.headers answer).accepts later.headers = true ∧
      Key.ofExchange later answer = Key.ofExchange first answer := by
  intro first later answer
  have hlisted : listedNames answer = ["Accept", "Cookie", "aCCEPT"] := by
    simp only [answer, listedNames, Headers.getAll, Text.sameName_eq_decide]
    decide +kernel
  have hgiven : ∀ name ∈ ["Accept", "Cookie", "aCCEPT"],
      given later.headers name = given first.headers name := by
    simp only [later, first, Request.forPage, given, Headers.combined?, Headers.getAll,
      Text.sameName_eq_decide]
    decide +kernel
  have hstar : "*" ∉ listedNames answer := by
    rw [hlisted]
    decide
  have haccepts : (ofExchange first.headers answer).accepts later.headers = true := by
    rw [accepts_ofExchange_iff, hlisted]
    exact ⟨by decide, hgiven⟩
  obtain ⟨hfiled, -⟩ := (accepts_iff_filed_alike first answer).1 hstar
  exact ⟨hstar, haccepts, ((hfiled later).2 rfl).mp haccepts⟩

end VariantStore.Selector
