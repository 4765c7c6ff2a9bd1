import VariantStore.Proofs.Store.Buffering

/-!
# What an insertion leaves

An insertion whose payload is refused leaves the store as it was and one warning, and makes no item.
One whose payload is kept gives back what is kept, makes one item of exactly that, and stores the
item under the key of the exchange (`outcome_of_insert`).
-/

namespace VariantStore.Store

variable {strategy : Strategy} {request : Request} {response : Response} {streams : Streams}

/-! ## Writing -/

/-- What was written under a key is found there, whatever the store held. -/
theorem get?_put_self (s : Store) (key : Key) (item : Item) :
    (s.put key item).store.get? key = some item := by
  simp [get?, put, BoundedMap.get?_modify_self, BoundedMap.get?_entry_self]

/-- What a write logs: the resource and the variant that it evicts. -/
def evictions (s : Store) (key : Key) (item : Item) : List Event :=
  let entry := s.resources.entry key.resource fun _ => .empty s.variantCapacity
  let written := entry.value.put key.selector item
  (entry.evicted.map fun e => .evictedResource e.1 e.2.size).toList
    ++ (written.evicted.map fun e => .evictedVariant key.resource e.1).toList

/-- A write calls nothing. -/
theorem trace_put (s : Store) (key : Key) (item : Item) :
    (s.put key item).trace = (s.evictions key item).map .event := by
  simp only [put, evictions, List.map_append, ← Option.toList_map, Option.map_map]
  rfl

theorem level_of_mem_evictions {s : Store} {key : Key} {item : Item} {e : Event}
    (he : e ∈ s.evictions key item) : e.level = .trace := by
  rcases List.mem_append.mp he with he | he
  · obtain ⟨victim, -, rfl⟩ := Option.map_eq_some_iff.mp (Option.mem_toList.mp he)
    rfl
  · obtain ⟨victim, -, rfl⟩ := Option.map_eq_some_iff.mp (Option.mem_toList.mp he)
    rfl

/-! ## Insertions by what becomes of the payload -/

theorem insert_of_refused (s : Store) {cause : Unbufferable}
    (h : Refused strategy (.ofExchange request response.headers) response streams cause) :
    let buffered := buffer strategy (.ofExchange request response.headers) response streams
    s.insert strategy request response streams
      = ⟨.error ⟨request.resource, cause⟩, s, buffered.streams, buffered.trace⟩ := by
  simp only [insert, (buffer_of_refused h).1]
  rfl

theorem insert_of_kept (s : Store) {kept : Response}
    (h : Kept strategy (.ofExchange request response.headers) response streams kept) :
    let key := Key.ofExchange request response.headers
    let buffered := buffer strategy key response streams
    let written := (s.removeVariant key).put key (strategy.createItem kept)
    s.insert strategy request response streams
      = ⟨.ok kept, written.store, buffered.streams,
        buffered.trace ++ [.call (.createItem kept), .event (.inserting key kept.status)]
          ++ written.trace⟩ := by
  simp only [insert, (buffer_of_kept h).1]

/-- An insertion that succeeds logs itself and what it evicts, and makes one item. -/
theorem trace_insert_of_kept (s : Store) {kept : Response}
    (h : Kept strategy (.ofExchange request response.headers) response streams kept) :
    let key := Key.ofExchange request response.headers
    let left := s.insert strategy request response streams
    left.trace.events = .inserting key kept.status
        :: (s.removeVariant key).evictions key (strategy.createItem kept) ∧
      left.trace.made = [kept] := by
  intro key left
  have hleft : left = _ := s.insert_of_kept h
  obtain ⟨-, hevents, hmade⟩ := buffer_of_kept h
  rw [hleft]
  constructor
  · rw [Trace.events_append, Trace.events_append, hevents, trace_put, Trace.events_map_event]
    rfl
  · rw [Trace.made_append, Trace.made_append, hmade, trace_put, Trace.made_map_event]
    rfl

theorem insert_eq_error_iff (s : Store) {e : Uncacheable} :
    (s.insert strategy request response streams).result = .error e ↔
      e.resource = request.resource ∧
        Refused strategy (.ofExchange request response.headers) response streams e.cause := by
  rw [← show (Key.ofExchange request response.headers).resource = request.resource from rfl,
    ← buffer_eq_error_iff]
  rcases insert_cases s strategy request response streams with ⟨e', hb, hr, -⟩ | ⟨kept, hb, hr, -⟩
  · rw [hb, hr]
  · rw [hb, hr]

theorem insert_eq_ok_iff (s : Store) {kept : Response} :
    (s.insert strategy request response streams).result = .ok kept ↔
      Kept strategy (.ofExchange request response.headers) response streams kept := by
  rw [← buffer_eq_ok_iff]
  rcases insert_cases s strategy request response streams with ⟨e, hb, hr, -⟩ | ⟨kept', hb, hr, -⟩
  · rw [hb, hr]
  · rw [hb, hr]

/-! ## The outcome -/

/-- An insertion fails if and only if the payload is refused, for the reason that it is refused for.
A failed one leaves the store as it was, makes no item and logs one warning. One that succeeds makes
one item, of the response that it gives back, and stores it under the key of the exchange. -/
theorem outcome_of_insert (s : Store) (strategy : Strategy) (request : Request)
    (response : Response) (streams : Streams) :
    let key := Key.ofExchange request response.headers
    let left := s.insert strategy request response streams
    (∀ e, left.result = .error e ↔
      e.resource = key.resource ∧ Refused strategy key response streams e.cause) ∧
    (∀ limit now, strategy = .buffering limit now → (∀ l ∈ limit, l < 2 ^ 64 - 1) → ∀ cause,
      Refused strategy key response streams cause ↔
        ∃ p e, response.payload = some p ∧ cause = .unreadable e ∧
          ((∃ later, p.start streams = (.error e, later)) ∨
            ∃ source later, p.start streams = (.ok source, later) ∧
              source.Uncollectable limit e)) ∧
    (∀ e, left.result = .error e → left.store = s ∧ left.trace.made = [] ∧
      left.trace.events = [e.cause.warning key] ∧ (e.cause.warning key).level = .warn) ∧
    (∀ stored, left.result = .ok stored → Kept strategy key response streams stored ∧
      left.trace.made = [stored] ∧ left.store.get? key = some (strategy.createItem stored) ∧
      ∃ evictions, left.trace.events = .inserting key stored.status :: evictions ∧
        ∀ e ∈ evictions, e.level = .trace) := by
  intro key left
  refine ⟨fun e => s.insert_eq_error_iff, ?_, fun e he => ?_, fun stored hstored => ?_⟩
  · rintro limit now rfl hlimit cause
    exact refused_buffering_iff hlimit
  · obtain ⟨-, hrefused⟩ := s.insert_eq_error_iff.mp he
    obtain ⟨-, hevents, hmade⟩ := buffer_of_refused hrefused
    have hleft : left = _ := s.insert_of_refused hrefused
    rw [hleft]
    exact ⟨rfl, hmade, hevents, e.cause.level_warning key⟩
  · have hkept := s.insert_eq_ok_iff.mp hstored
    obtain ⟨hevents, hmade⟩ := s.trace_insert_of_kept hkept
    refine ⟨hkept, hmade, ?_, _, hevents, fun e => level_of_mem_evictions⟩
    have hleft : left = _ := s.insert_of_kept hkept
    rw [hleft]
    exact get?_put_self _ key _

/-- A stream that breaks off within the limit, under a key that is stored. -/
theorem outcome_of_insert_broken :
    let s := (empty 2 1).run crowded
    let reset : IoError := ⟨.connectionReset, "upstream went away"⟩
    let streams : Streams := ⟨[some [.bytes [1, 2], .failure ⟨.interrupted, ""⟩, .bytes [3],
      .failure reset, .bytes [4]]]⟩
    let left := s.insert (.buffering (some 3) 9) (.forPage "b" [])
      { payload := some (.stream "text/plain" (some 4) 0) } streams
    left.result = .error ⟨(Request.forPage "b" []).resource, .unreadable reset⟩ ∧
      left.store = s ∧ left.trace.made = [] := by
  intro s reset streams left
  obtain ⟨herror, hbuffering, hatomic, -⟩ :=
    outcome_of_insert s (.buffering (some 3) 9) (.forPage "b" [])
      { payload := some (.stream "text/plain" (some 4) 0) } streams
  have hgives : Source.Gives [.bytes [1, 2], .failure ⟨.interrupted, ""⟩, .bytes [3],
      .failure reset, .bytes [4]] [1, 2, 3] [.failure reset, .bytes [4]] :=
    ⟨[.bytes [1, 2], .failure ⟨.interrupted, ""⟩, .bytes [3]], rfl, by simp [Piece.GoesOn], rfl⟩
  have hrefused := (hbuffering (some 3) 9 rfl (by simp) (.unreadable reset)).mpr
    ⟨_, reset, rfl, rfl, Or.inr ⟨_, _, rfl, .broken hgives (by simp [reset]) (by simp)⟩⟩
  have hresult : left.result = .error ⟨(Request.forPage "b" []).resource, .unreadable reset⟩ :=
    (herror _).mpr ⟨rfl, hrefused⟩
  obtain ⟨hstore, hmade, -, -⟩ := hatomic _ hresult
  exact ⟨hresult, hstore, hmade⟩

end VariantStore.Store
