import VariantStore.Proofs.Body.Reading
import VariantStore.Proofs.Store.Run

/-!
# When an insertion fails

A payload is refused or kept before the store is touched (`refused_or_kept`). It is refused if it
does not open, if the strategy fails on what it opened, or if what the strategy made of it cannot be
read any more (`Refused`); there is no other reason (`insert_eq_error_iff`). A refused payload
leaves the store as it was and a warning in the log. Of a kept one, one item is made and written.

A strategy that buffers within a limit refuses a payload that does not open, and bytes that cannot
be collected (`refused_buffering_iff`).
-/

namespace VariantStore

/-! ## Traces -/

namespace Trace

theorem events_append (t u : Trace) : (t ++ u : Trace).events = t.events ++ u.events :=
  List.filterMap_append

theorem calls_append (t u : Trace) : (t ++ u : Trace).calls = t.calls ++ u.calls :=
  List.filterMap_append

/-- The responses that items were made of. -/
def made (t : Trace) : List Response :=
  t.calls.filterMap fun
    | .createItem response => some response
    | .createPayload _ | .afterClear | .shutdown => none

theorem made_append (t u : Trace) : (t ++ u : Trace).made = t.made ++ u.made := by
  rw [made, calls_append, List.filterMap_append]
  rfl

theorem events_map_event (es : List Event) : events (es.map .event) = es := by
  simp [events, List.filterMap_map]

/-- No item is made where only events happen. -/
theorem made_map_event (es : List Event) : made (es.map .event) = [] := by
  simp [made, calls, List.filterMap_map]

end Trace

/-- What is logged when a payload is refused. -/
def Unbufferable.warning (key : Key) : Unbufferable → Event
  | .unreadable source => .notBuffered key source
  | .unavailable => .unavailable key

theorem Unbufferable.level_warning (cause : Unbufferable) (key : Key) :
    (cause.warning key).level = .warn := by
  cases cause with
  | unreadable source => rfl
  | unavailable => rfl

namespace Store

section Buffer

variable {strategy : Strategy} {key : Key} {response : Response} {streams : Streams}

/-! ## Refused or kept -/

/-- Why the payload of a response is refused. -/
inductive Refused (strategy : Strategy) (key : Key) (response : Response) (streams : Streams) :
    Unbufferable → Prop
  | unopened {p : Payload} {e : IoError} {later : Streams} (payload : response.payload = some p)
      (start : p.start streams = (.error e, later)) :
      Refused strategy key response streams (.unreadable e)
  | uncreated {p : Payload} {source : Source} {e : IoError} {opened later : Streams}
      (payload : response.payload = some p) (start : p.start streams = (.ok source, opened))
      (create : strategy.createPayload key p source opened = (.error e, later)) :
      Refused strategy key response streams (.unreadable e)
  | unavailable {p kept : Payload} {source : Source} {opened later : Streams}
      (payload : response.payload = some p) (start : p.start streams = (.ok source, opened))
      (create : strategy.createPayload key p source opened = (.ok kept, later))
      (spent : kept.isAvailable later = false) :
      Refused strategy key response streams .unavailable

/-- What is kept of a response: itself without a payload, and with what the strategy made of its
payload otherwise. -/
inductive Kept (strategy : Strategy) (key : Key) (response : Response) (streams : Streams) :
    Response → Prop
  | bare (payload : response.payload = none) : Kept strategy key response streams response
  | created {p kept : Payload} {source : Source} {opened later : Streams}
      (payload : response.payload = some p) (start : p.start streams = (.ok source, opened))
      (create : strategy.createPayload key p source opened = (.ok kept, later))
      (available : kept.isAvailable later = true) :
      Kept strategy key response streams (response.withPayload (some kept))

theorem refused_or_kept (strategy : Strategy) (key : Key) (response : Response)
    (streams : Streams) :
    (∃ cause, Refused strategy key response streams cause) ∨
      ∃ kept, Kept strategy key response streams kept := by
  cases payload : response.payload with
  | none => exact Or.inr ⟨response, .bare payload⟩
  | some p =>
    rcases hstart : p.start streams with ⟨e | source, opened⟩
    · exact Or.inl ⟨_, .unopened payload hstart⟩
    · rcases hcreate : strategy.createPayload key p source opened with ⟨e | kept, later⟩
      · exact Or.inl ⟨_, .uncreated payload hstart hcreate⟩
      · cases havailable : kept.isAvailable later with
        | true => exact Or.inr ⟨_, .created payload hstart hcreate havailable⟩
        | false => exact Or.inl ⟨_, .unavailable payload hstart hcreate havailable⟩

/-- A refusal comes with its warning; no item is made. -/
theorem buffer_of_refused {cause : Unbufferable}
    (h : Refused strategy key response streams cause) :
    (buffer strategy key response streams).result = .error ⟨key.resource, cause⟩ ∧
      (buffer strategy key response streams).trace.events = [cause.warning key] ∧
      (buffer strategy key response streams).trace.made = [] := by
  cases h with
  | @unopened p e later payload start =>
    have hbuffer : buffer strategy key response streams
        = ⟨.error ⟨key.resource, .unreadable e⟩, later, [.event (.notBuffered key e)]⟩ := by
      simp [buffer, payload, start]
    rw [hbuffer]
    exact ⟨rfl, rfl, rfl⟩
  | @uncreated p source e opened later payload start create =>
    have hbuffer : buffer strategy key response streams
        = ⟨.error ⟨key.resource, .unreadable e⟩, later,
          [.call (.createPayload key), .event (.notBuffered key e)]⟩ := by
      simp [buffer, payload, start, create]
    rw [hbuffer]
    exact ⟨rfl, rfl, rfl⟩
  | @unavailable p kept source opened later payload start create spent =>
    have hbuffer : buffer strategy key response streams
        = ⟨.error ⟨key.resource, .unavailable⟩, later,
          [.call (.createPayload key), .event (.unavailable key)]⟩ := by
      simp [buffer, payload, start, create, spent]
    rw [hbuffer]
    exact ⟨rfl, rfl, rfl⟩

theorem buffer_of_kept {kept : Response} (h : Kept strategy key response streams kept) :
    (buffer strategy key response streams).result = .ok kept ∧
      (buffer strategy key response streams).trace.events = [] ∧
      (buffer strategy key response streams).trace.made = [] := by
  cases h with
  | bare payload =>
    have hbuffer : buffer strategy key response streams = ⟨.ok response, streams, []⟩ := by
      simp [buffer, payload]
    rw [hbuffer]
    exact ⟨rfl, rfl, rfl⟩
  | @created p kept source opened later payload start create available =>
    have hbuffer : buffer strategy key response streams
        = ⟨.ok (response.withPayload (some kept)), later, [.call (.createPayload key)]⟩ := by
      simp [buffer, payload, start, create, available]
    rw [hbuffer]
    exact ⟨rfl, rfl, rfl⟩

theorem buffer_eq_error_iff {e : Uncacheable} :
    (buffer strategy key response streams).result = .error e ↔
      e.resource = key.resource ∧ Refused strategy key response streams e.cause := by
  constructor
  · intro h
    rcases refused_or_kept strategy key response streams with ⟨cause, hcause⟩ | ⟨kept, hkept⟩
    · rw [(buffer_of_refused hcause).1] at h
      cases h
      exact ⟨rfl, hcause⟩
    · rw [(buffer_of_kept hkept).1] at h
      cases h
  · rintro ⟨hresource, hcause⟩
    rw [(buffer_of_refused hcause).1, ← hresource]

theorem buffer_eq_ok_iff {kept : Response} :
    (buffer strategy key response streams).result = .ok kept ↔
      Kept strategy key response streams kept := by
  constructor
  · intro h
    rcases refused_or_kept strategy key response streams with ⟨cause, hcause⟩ | ⟨kept', hkept⟩
    · rw [(buffer_of_refused hcause).1] at h
      cases h
    · rw [(buffer_of_kept hkept).1] at h
      cases h
      exact hkept
  · intro h
    exact (buffer_of_kept h).1

/-- Only the payload of a response is replaced. -/
theorem Kept.head {kept : Response} (h : Kept strategy key response streams kept) :
    kept.status = response.status ∧ kept.headers = response.headers := by
  cases h with
  | bare payload => exact ⟨rfl, rfl⟩
  | created payload start create available => exact ⟨rfl, rfl⟩

/-! ## Buffering within a limit -/

section Limit

variable {limit : Option Nat} {now : Int}

/-- A payload is refused if it does not open, or if its bytes cannot be collected. -/
theorem refused_buffering_iff (hlimit : ∀ l ∈ limit, l < Source.maxQuota) {cause : Unbufferable} :
    Refused (.buffering limit now) key response streams cause ↔
      ∃ p e, response.payload = some p ∧ cause = .unreadable e ∧
        ((∃ later, p.start streams = (.error e, later)) ∨
          ∃ source later, p.start streams = (.ok source, later) ∧
            source.Uncollectable limit e) := by
  constructor
  · intro h
    cases h with
    | @unopened p e later payload start => exact ⟨p, e, payload, rfl, Or.inl ⟨later, start⟩⟩
    | @uncreated p source e opened later payload start create =>
      refine ⟨p, e, payload, rfl, Or.inr ⟨source, opened, start, ?_⟩⟩
      rw [← Source.collect_eq_error_iff hlimit]
      exact map_eq_error_iff.mp (congrArg Prod.fst create)
    | unavailable payload start create spent =>
      -- bytes in memory are always available
      obtain ⟨content, -, rfl⟩ := map_eq_ok_iff.mp (congrArg Prod.fst create)
      cases spent
  · rintro ⟨p, e, payload, rfl, ⟨later, start⟩ | ⟨source, later, start, huncollectable⟩⟩
    · exact .unopened payload start
    · refine .uncreated payload start (Prod.ext ?_ rfl)
      exact map_eq_error_iff.mpr ((Source.collect_eq_error_iff hlimit).mpr huncollectable)

/-- What is kept of a payload is its media type and its bytes. -/
theorem kept_buffering_iff {kept : Response} :
    Kept (.buffering limit now) key response streams kept ↔
      (response.payload = none ∧ kept = response) ∨
      ∃ p source later content, response.payload = some p ∧ p.start streams = (.ok source, later) ∧
        (source.collect limit).1 = .ok content ∧
        kept = response.withPayload (some (.buffered p.mime content)) := by
  constructor
  · intro h
    cases h with
    | bare payload => exact Or.inl ⟨payload, rfl⟩
    | @created p kept source opened later payload start create available =>
      obtain ⟨content, hcollect, rfl⟩ := map_eq_ok_iff.mp (congrArg Prod.fst create)
      exact Or.inr ⟨p, source, opened, content, payload, start, hcollect, rfl⟩
  · rintro (⟨payload, rfl⟩ | ⟨p, source, later, content, payload, start, hcollect, rfl⟩)
    · exact .bare payload
    · refine .created payload start (Prod.ext ?_ rfl) rfl
      exact map_eq_ok_iff.mpr ⟨content, hcollect, rfl⟩

end Limit

end Buffer

end Store

end VariantStore
