import Mathlib.Data.List.Forall2
import VariantStore.Proofs.Selection.Edits
import VariantStore.Proofs.Selection.Filing
import VariantStore.Proofs.Store.Account
import VariantStore.Proofs.Store.Overwriting

/-!
# Only negotiated headers matter

What can be observed of an operation is what it gives back, what it logs and asks of its strategy,
and what it leaves (`Observation`). Of its request it looks at the resource and at the headers that
some response was chosen by, since stored selectors name no others (`Speaks`). So runs whose requests
differ in other headers alone, or in how the values are spread over fields, cannot be told apart
(`observations_of_alike`).
-/

namespace VariantStore

open Selector

/-! ## What can be observed -/

/-- What an operation gives back. -/
inductive Answer
  | inserted (result : Except Uncacheable Response)
  | updated (response : Response)
  | found (item : Option Item)
  | done

/-- What can be observed of an operation. -/
structure Observation where
  answer : Answer
  trace : Trace
  left : Store

namespace Store

def observe (s : Store) : Operation → Observation
  | .insert strategy request response streams =>
    let left := s.insert strategy request response streams
    ⟨.inserted left.result, left.trace, left.store⟩
  | .update strategy request response =>
    let left := s.update strategy request response
    ⟨.updated response, left.trace, left.store⟩
  | .lookup request => ⟨.found (s.lookup request).1, (s.lookup request).2, s⟩
  | .get key => ⟨.found (s.get? key), [], s⟩
  | .invalidate resource =>
    ⟨.done, (s.invalidate resource).trace, (s.invalidate resource).store⟩
  | .clear => ⟨.done, s.clear.trace, s.clear.store⟩

theorem left_observe (s : Store) (op : Operation) : (s.observe op).left = s.perform op := by
  cases op <;> rfl

/-- What can be observed of operations, one after the other. -/
def observations (s : Store) : List Operation → List Observation
  | [] => []
  | op :: rest => s.observe op :: (s.perform op).observations rest

end Store

/-! ## Operations that are alike -/

/-- Requests for the same resource that give the same for the names. -/
structure Request.Alike (names : List String) (request other : Request) : Prop where
  resource : other.resource = request.resource
  given : ∀ name ∈ names, name ≠ "*" → given other.headers name = given request.headers name

/-- Requests for the same resource whose headers differ in ways that do not show in the names. -/
structure Request.Edited (names : List String) (request other : Request) : Prop where
  resource : other.resource = request.resource
  headers : Relation.EqvGen (Headers.Edit names) request.headers other.headers

/-- Strategies that make the same of a response and of its payload. -/
structure Strategy.Alike (strategy other : Strategy) (key : Key) (response : Response)
    (streams : Streams) : Prop where
  payload : ∀ p source opened, response.payload = some p → p.start streams = (.ok source, opened) →
    other.createPayload key p source opened = strategy.createPayload key p source opened
  item : ∀ kept, Store.Kept strategy key response streams kept →
    other.createItem kept = strategy.createItem kept

/-- The same operation, on requests that are related. -/
inductive Operation.Alike (related : Request → Request → Prop) : Operation → Operation → Prop
  | insert {strategy strategy' : Strategy} {request request' : Request} {response : Response}
      {streams : Streams} (requests : related request request')
      (strategies : strategy.Alike strategy' (.ofExchange request response.headers) response
        streams) :
      Alike related (.insert strategy request response streams)
        (.insert strategy' request' response streams)
  | update {strategy strategy' : Strategy} {request request' : Request} {response : Response}
      (requests : related request request')
      (item : strategy'.createItem response = strategy.createItem response) :
      Alike related (.update strategy request response) (.update strategy' request' response)
  | lookup {request request' : Request} (requests : related request request') :
      Alike related (.lookup request) (.lookup request')
  | get (key : Key) : Alike related (.get key) (.get key)
  | invalidate (resource : ResourceId) : Alike related (.invalidate resource) (.invalidate resource)
  | clear : Alike related .clear .clear

/-- The names that the response of an operation lists. -/
def Operation.listed : Operation → List String
  | .insert _ _ response _ | .update _ _ response => listedNames response.headers
  | .lookup _ | .get _ | .invalidate _ | .clear => []

/-- The names that some response of the operations lists. -/
def listedIn (ops : List Operation) : List String := ops.flatMap Operation.listed

theorem Strategy.Alike.refl (strategy : Strategy) (key : Key) (response : Response)
    (streams : Streams) : strategy.Alike strategy key response streams where
  payload := fun _ _ _ _ _ => rfl
  item := fun _ _ => rfl

theorem Request.Edited.alike {names : List String} {request other : Request}
    (h : request.Edited names other) : request.Alike names other where
  resource := h.resource
  given := fun _ hname _ => (given_eq_of_edits h.headers hname).symm

theorem Operation.Alike.imp {related related' : Request → Request → Prop}
    (h : ∀ request request', related request request' → related' request request')
    {op op' : Operation} (hop : op.Alike related op') : op.Alike related' op' := by
  cases hop with
  | insert requests strategies => exact .insert (h _ _ requests) strategies
  | update requests item => exact .update (h _ _ requests) item
  | lookup requests => exact .lookup (h _ _ requests)
  | get key => exact .get key
  | invalidate resource => exact .invalidate resource
  | clear => exact .clear

/-! ## Alike requests are filed and accepted alike -/

section Requests

variable {names : List String} {request request' : Request}

theorem Request.Alike.key_eq (h : request.Alike names request') {answer : Headers}
    (hlisted : ∀ name ∈ listedNames answer, name ∈ names) :
    Key.ofExchange request' answer = Key.ofExchange request answer := by
  rw [key_eq_iff h.resource]
  exact ofExchange_congr fun name hname => h.given name (hlisted name hname)

/-- A selector that names no other headers accepts both or neither. -/
theorem Request.Alike.accepts_eq (h : request.Alike names request') {s : Selector}
    (hnames : ∀ f ∈ s.fields, ∃ name ∈ names, name ≠ "*" ∧ f.name = Text.lower name) :
    s.accepts request'.headers = s.accepts request.headers := by
  have hgiven : ∀ f ∈ s.fields,
      Selector.given request'.headers f.name = Selector.given request.headers f.name := by
    intro f hf
    obtain ⟨name, hname, hne, heq⟩ := hnames f hf
    rw [heq, given_lower, given_lower]
    exact h.given name hname hne
  unfold accepts
  congr 1
  rw [Bool.eq_iff_iff, List.all_eq_true, List.all_eq_true]
  constructor
  · intro hall f hf
    rw [← hgiven f hf]
    exact hall f hf
  · intro hall f hf
    rw [hgiven f hf]
    exact hall f hf

end Requests

namespace Store

variable {s : Store} {names : List String}

/-! ## Stored selectors name listed headers -/

/-- The stored selectors name no other headers. -/
def Speaks (names : List String) (s : Store) : Prop :=
  ∀ key item, s.get? key = some item →
    ∀ f ∈ key.selector.fields, ∃ name ∈ names, name ≠ "*" ∧ f.name = Text.lower name

theorem speaks_empty (names : List String) (capacity variantCapacity : Nat) :
    (empty capacity variantCapacity).Speaks names := by
  intro key item hget
  cases hget

/-- A store that finds nothing but a written key and what it found before speaks of the names. -/
theorem Speaks.of_get? (hs : s.Speaks names) {t : Store} (key : Key)
    (hkey : ∀ f ∈ key.selector.fields, ∃ name ∈ names, name ≠ "*" ∧ f.name = Text.lower name)
    (hget : ∀ other item, t.get? other = some item → other = key ∨ s.get? other = some item) :
    t.Speaks names := by
  intro other item hother
  rcases hget other item hother with rfl | hstored
  · exact hkey
  · exact hs other item hstored

theorem speaks_put (h : s.Valid) (hs : s.Speaks names) {request : Request} {answer : Headers}
    (hlisted : ∀ name ∈ listedNames answer, name ∈ names) (item : Item) :
    (s.put (.ofExchange request answer) item).store.Speaks names := by
  refine hs.of_get? (.ofExchange request answer) ?_ ?_
  · intro f hf
    obtain ⟨name, hname, hne, rfl⟩ := mem_fields_ofExchange.mp hf
    exact ⟨name, hlisted name hname, hne, rfl⟩
  · intro other found hfound
    rw [get?_put h] at hfound
    split at hfound
    case isTrue heq => exact Or.inl heq
    case isFalse =>
      split at hfound
      · cases hfound
      · exact Or.inr hfound

theorem speaks_perform (h : s.Valid) (hs : s.Speaks names) {op : Operation}
    (hlisted : ∀ name ∈ op.listed, name ∈ names) : (s.perform op).Speaks names := by
  cases op with
  | insert strategy request response streams =>
    show (s.insert strategy request response streams).store.Speaks names
    rcases insert_cases s strategy request response streams with
      ⟨e, -, -, hstore⟩ | ⟨kept, -, -, hstore⟩
    · rw [hstore]
      exact hs
    · rw [hstore, store_put_removeVariant h]
      exact speaks_put h hs hlisted _
  | update strategy request response => exact speaks_put h hs hlisted _
  | lookup request => exact hs
  | get key => exact hs
  | invalidate resource =>
    intro key item hget
    have hfound : (s.invalidate resource).store.get? key = some item := hget
    rw [get?_invalidate h] at hfound
    split at hfound
    · cases hfound
    · exact hs key item hfound
  | clear =>
    show s.clear.store.Speaks names
    rw [clear_store]
    exact speaks_empty names _ _

/-! ## One operation -/

section Step

variable {strategy strategy' : Strategy} {request request' : Request} {response : Response}
  {streams : Streams}

theorem buffer_congr {key : Key} (h : strategy.Alike strategy' key response streams) :
    buffer strategy' key response streams = buffer strategy key response streams := by
  unfold buffer
  cases hp : response.payload with
  | none => rfl
  | some p =>
    rcases hstart : p.start streams with ⟨e | source, opened⟩
    · simp only [hstart]
    · simp only [hstart]
      rw [h.payload p source opened hp hstart]

theorem insert_congr (s : Store)
    (hkey : Key.ofExchange request' response.headers = Key.ofExchange request response.headers)
    (h : strategy.Alike strategy' (.ofExchange request response.headers) response streams) :
    s.insert strategy' request' response streams = s.insert strategy request response streams := by
  simp only [insert, hkey, buffer_congr h]
  cases hb : (buffer strategy (.ofExchange request response.headers) response streams).result with
  | error e => rfl
  | ok kept => simp only [h.item kept (buffer_eq_ok_iff.mp hb)]

theorem update_congr (s : Store)
    (hkey : Key.ofExchange request' response.headers = Key.ofExchange request response.headers)
    (hitem : strategy'.createItem response = strategy.createItem response) :
    s.update strategy' request' response = s.update strategy request response := by
  unfold update
  rw [hkey, hitem]

theorem lookup_congr (h : s.Valid) (hs : s.Speaks names) (hreq : request.Alike names request') :
    s.lookup request' = s.lookup request := by
  unfold lookup
  rw [hreq.resource]
  cases hget : s.resources.get? request.resource with
  | none => rfl
  | some variants =>
    have hfilled := h.filled _ (h.resources.get?_eq_some_iff.mp hget)
    have hselect : select? variants request'.headers = select? variants request.headers := by
      unfold select?
      rw [← List.head?_filter, ← List.head?_filter]
      congr 2
      refine List.filter_congr fun e he => hreq.accepts_eq ?_
      refine hs ⟨request.resource, e.1⟩ e.2 ?_
      show (s.resources.get? request.resource).bind _ = _
      rw [hget]
      exact hfilled.valid.get?_eq_some_iff.mpr he
    simp only [hselect]

/-- Alike operations cannot be told apart. -/
theorem observe_congr (h : s.Valid) (hs : s.Speaks names) {op op' : Operation}
    (hop : op.Alike (Request.Alike names) op') (hlisted : ∀ name ∈ op.listed, name ∈ names) :
    s.observe op' = s.observe op := by
  cases hop with
  | insert requests strategies =>
    simp only [observe, insert_congr s (requests.key_eq hlisted) strategies]
  | update requests item =>
    simp only [observe, update_congr s (requests.key_eq hlisted) item]
  | lookup requests =>
    simp only [observe, lookup_congr h hs requests]
  | get key => rfl
  | invalidate resource => rfl
  | clear => rfl

end Step

/-! ## Runs -/

theorem observations_congr (h : s.Valid) (hs : s.Speaks names) {ops ops' : List Operation}
    (hops : List.Forall₂ (Operation.Alike (Request.Alike names)) ops ops')
    (hlisted : ∀ name ∈ listedIn ops, name ∈ names) :
    s.observations ops' = s.observations ops := by
  induction hops generalizing s with
  | nil => rfl
  | @cons op op' ops ops' hop hrest ih =>
    have hhead : ∀ name ∈ op.listed, name ∈ names := fun name hname =>
      hlisted name (List.mem_append_left _ hname)
    have hobserve := observe_congr h hs hop hhead
    -- the same is left, so the rest starts from the same store
    have hleft : s.perform op' = s.perform op := by
      rw [← left_observe, hobserve, left_observe]
    rw [observations, observations, hobserve, hleft]
    congr 1
    exact ih (valid_perform h op) (speaks_perform h hs hhead) fun name hname =>
      hlisted name (List.mem_append_right _ hname)

/-- Two runs of the same operations cannot be told apart if the requests are for the same resources
and give the same for every name that a response of the run lists: each operation gives back, logs
and leaves the same. So it is if the headers differ in other names, in the order and the spelling of
names, in how values are spread over fields, or in empty values of missing names. -/
theorem observations_of_alike {capacity variantCapacity : Nat} (hc : 0 < capacity)
    (hv : 0 < variantCapacity) (ops ops' : List Operation) :
    let s := empty capacity variantCapacity
    (List.Forall₂ (Operation.Alike (Request.Alike (listedIn ops))) ops ops' →
      s.observations ops' = s.observations ops) ∧
    (List.Forall₂ (Operation.Alike (Request.Edited (listedIn ops))) ops ops' →
      s.observations ops' = s.observations ops) := by
  intro s
  have hvalid : s.Valid := valid_empty hc hv
  have hspeaks : s.Speaks (listedIn ops) := speaks_empty _ _ _
  have halike : List.Forall₂ (Operation.Alike (Request.Alike (listedIn ops))) ops ops' →
      s.observations ops' = s.observations ops := fun hops =>
    observations_congr hvalid hspeaks hops fun name hname => hname
  refine ⟨halike, fun hops => halike ?_⟩
  exact hops.imp fun op op' hop => hop.imp fun request request' hrequests => hrequests.alike

/-- A browser folds its header into one field, spells it otherwise and tells its name. -/
theorem observations_of_alike_folded :
    let plain : Request := .forPage "a" [⟨"accept", "text/html"⟩, ⟨"accept", "text/plain"⟩]
    let folded : Request :=
      .forPage "a" [⟨"User-Agent", "browser"⟩, ⟨"Accept", "text/html, text/plain"⟩]
    let run (request : Request) : List Operation :=
      [.update (.standard 0) request (.chosenBy "accept"), .lookup request]
    (empty 2 1).observations (run folded) = (empty 2 1).observations (run plain) := by
  intro plain folded run
  have hlisted : listedIn (run plain) = ["accept"] := by
    simp only [run, listedIn, List.flatMap_cons, List.flatMap_nil, Operation.listed,
      Response.chosenBy, listedNames, Headers.getAll, Text.sameName_eq_decide]
    decide +kernel
  have hedited : plain.Edited (listedIn (run plain)) folded := by
    refine ⟨rfl, ?_⟩
    rw [hlisted]
    have hfold : Headers.Edit ["accept"] plain.headers ⟨[⟨"accept", "text/html, text/plain"⟩]⟩ :=
      .fold [] [] (Text.sameName_refl "accept")
    have hrespell : Headers.Edit ["accept"] ⟨[⟨"accept", "text/html, text/plain"⟩]⟩
        ⟨[⟨"Accept", "text/html, text/plain"⟩]⟩ := by
      refine .respell [] [] ⟨"accept", "text/html, text/plain"⟩ ?_
      rw [Text.sameName_eq_decide]
      decide +kernel
    have hadd : Headers.Edit ["accept"] ⟨[⟨"Accept", "text/html, text/plain"⟩]⟩
        folded.headers := by
      refine .add [] _ fun name hname => ?_
      rw [List.mem_singleton.mp hname, Text.sameName_eq_decide]
      decide +kernel
    exact ((Relation.EqvGen.rel _ _ hfold).trans _ _ _ (.rel _ _ hrespell)).trans _ _ _
      (.rel _ _ hadd)
  have hops : List.Forall₂ (Operation.Alike (Request.Edited (listedIn (run plain)))) (run plain)
      (run folded) :=
    .cons (.update hedited rfl) (.cons (.lookup hedited) .nil)
  exact (observations_of_alike (by decide) (by decide) (run plain) (run folded)).2 hops

end Store

end VariantStore
