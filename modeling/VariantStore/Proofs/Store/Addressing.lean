import VariantStore.Proofs.Selection.Rebuilding
import VariantStore.Proofs.Store.Lookup

/-!
# Addressing what is stored by fields

Keys come from exchanges when something is stored, and from a resource and fields when it is
addressed. What a run has stored under a selector that is no wildcard is found under the key made of
the fields of that selector (`Valid.rebuilt_eq`), and so is everything that answers a request
(`addressing_of_run`).
-/

namespace VariantStore

open Selector Text

/-- The key of the same resource that is made of the fields of the selector. -/
def Key.rebuilt (key : Key) : Key := ⟨key.resource, .ofFields key.selector.fields⟩

namespace Store

variable {s : Store} {history : List Write} {request : Request} {key : Key} {item : Item}

/-- What is stored was written, so its selector is that of an exchange. -/
theorem Valid.made_selector (h : s.Valid) (hr : Recorded history s.layout)
    (hget : s.get? key = some item) : key.selector.Made := by
  obtain ⟨w, -, -, hkey, -⟩ := hr.items_of (h.get?_eq_some_iff_mem_variants.mp hget)
  have hselector : w.key.selector = key.selector := congrArg Key.selector hkey
  rw [← hselector]
  exact .ofExchange w.request.headers w.response.headers

theorem Valid.rebuilt_eq (h : s.Valid) (hr : Recorded history s.layout)
    (hget : s.get? key = some item) (hwildcard : key.selector.wildcard = false) :
    key.rebuilt = key :=
  congrArg (Key.mk key.resource) ((h.made_selector hr hget).ofFields_fields hwildcard)

/-- What answers a request is stored under a selector that accepts it. -/
theorem Valid.exists_get?_of_lookup (h : s.Valid) (hlookup : (s.lookup request).1 = some item) :
    ∃ key : Key, key.resource = request.resource ∧ key.selector.accepts request.headers = true ∧
      s.get? key = some item := by
  rw [lookup_eq_find?] at hlookup
  obtain ⟨f, hfind, rfl⟩ := Option.map_eq_some_iff.mp hlookup
  have haccepts : f.1.accepts request.headers = true := by simpa using List.find?_some hfind
  refine ⟨⟨request.resource, f.1⟩, rfl, haccepts, ?_⟩
  exact h.get?_eq_some_iff_mem_variants.mpr (List.mem_of_find?_eq_some hfind)

/-- A selector made of fields has, in ascending order, the last value of every name in lower case,
and accepts the requests that give these values. However a selector was made, its fields give it
back, unless it is a wildcard. So, after any run, what is stored under no wildcard, and all that
answers a request, is found under the key made of the fields of its selector. -/
theorem addressing_of_run {capacity variantCapacity : Nat} (hc : 0 < capacity)
    (hv : 0 < variantCapacity) (ops : List Operation) (fields : List Field) :
    let s := (empty capacity variantCapacity).run ops
    let selector := Selector.ofFields fields
    selector.wildcard = false ∧
    (selector.fields.map Field.name).Pairwise (· < ·) ∧
    (∀ name value, ⟨name, value⟩ ∈ selector.fields ↔ lastGiven? fields name = some value) ∧
    (∀ name, selector.get? name = lastGiven? fields (lower name)) ∧
    (∀ request : Headers, selector.accepts request = true ↔
      ∀ name value, lastGiven? fields (lower name) = some value →
        ", ".intercalate (request.getAll name) = value) ∧
    (∀ t : Selector, t.Made → t.wildcard = false → Selector.ofFields t.fields = t) ∧
    (∀ (key : Key) item, s.get? key = some item → key.selector.wildcard = false →
      key.rebuilt = key ∧ s.get? key.rebuilt = some item) ∧
    ∀ request item, (s.lookup request).1 = some item →
      ∃ key : Key, key.resource = request.resource ∧ key.selector.wildcard = false ∧
        key.selector.accepts request.headers = true ∧
        key.rebuilt = key ∧ s.get? key.rebuilt = some item := by
  intro s selector
  have hvalid : s.Valid := valid_run (valid_empty hc hv) ops
  have hrecorded : Recorded (writes (effects ops)) s.layout := recorded_run hc hv ops
  have hrebuilt : ∀ (key : Key) item, s.get? key = some item → key.selector.wildcard = false →
      key.rebuilt = key ∧ s.get? key.rebuilt = some item := by
    intro key item hget hwildcard
    have heq := hvalid.rebuilt_eq hrecorded hget hwildcard
    exact ⟨heq, by rw [heq, hget]⟩
  refine ⟨wildcard_ofFields fields, List.pairwise_map.mpr selector.ascending,
    fun name value => mem_fields_ofFields_iff, get?_ofFields fields, fun request => ?_,
    fun t ht hwildcard => ht.ofFields_fields hwildcard, hrebuilt, fun request item hlookup => ?_⟩
  · rw [accepts_ofFields_iff]
    simp only [given_eq_intercalate]
  · obtain ⟨key, hresource, haccepts, hget⟩ := hvalid.exists_get?_of_lookup hlookup
    -- no request is accepted by a wildcard
    have hwildcard : key.selector.wildcard = false := by
      rw [← Bool.not_eq_true]
      intro hwildcard
      rw [accepts_of_wildcard hwildcard] at haccepts
      cases haccepts
    exact ⟨key, hresource, hwildcard, haccepts, hrebuilt key item hget hwildcard⟩

/-- The page in French is found by a header that is named twice, in two spellings. -/
theorem addressing_of_crowded :
    let s := (empty 3 2).run crowded
    let request := Request.forPage "a" [⟨"accept-language", "fr"⟩]
    let fields : List Field := [⟨"Accept-Language", "en"⟩, ⟨"ACCEPT-LANGUAGE", "fr"⟩]
    (∃ key : Key, key.resource = request.resource ∧ (s.get? key.rebuilt).isSome = true) ∧
      (Selector.ofFields fields).get? "accept-language" = some "fr" := by
  intro s request fields
  have hhit : (s.lookup request).1 = some ⟨.chosenBy "accept-language", 1⟩ := by decide +kernel
  obtain ⟨-, -, -, hlast, -, -, -, hanswers⟩ :=
    addressing_of_run (by decide : 0 < 3) (by decide : 0 < 2) crowded fields
  obtain ⟨key, hresource, -, -, -, hget⟩ := hanswers request _ hhit
  refine ⟨⟨key, hresource, by rw [hget]; rfl⟩, ?_⟩
  have hlower : lower "ACCEPT-LANGUAGE" = "accept-language" ∧
      lower "accept-language" = "accept-language" := by decide +kernel
  rw [hlast]
  simp [lastGiven?, fields, hlower]

end Store

end VariantStore
