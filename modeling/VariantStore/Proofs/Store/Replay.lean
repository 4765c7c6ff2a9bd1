import VariantStore.Proofs.Message.Framing
import VariantStore.Proofs.Store.Insertion

/-!
# Stored responses on the wire

Storing a response does not show on the wire. What is kept of it has the same fields and the same
body, so it is written as the same message (`write_of_kept`), and a body that can be sent can be
kept (`kept_of_sends`). The payload of a stored response is in memory, so this holds at every later
time, whatever has become of the streams (`replay_of_insert`).
-/

namespace VariantStore

open Wire Store

variable {key : Key} {response kept : Response} {streams : Streams} {body : Bytes} {now : Int}

/-- What is kept of a response without a limit: itself without a payload, and otherwise the bytes
that reading the payload gives. -/
theorem kept_standard_iff :
    Kept (.standard now) key response streams kept ↔
      (response.payload = none ∧ kept = response) ∨
      ∃ p content, response.payload = some p ∧ (p.read streams).1 = .ok content ∧
        kept = response.withPayload (some (.buffered p.mime content)) := by
  rw [Strategy.standard, kept_buffering_iff]
  refine or_congr_right ?_
  constructor
  · rintro ⟨p, source, later, content, hp, hstart, hcollect, rfl⟩
    refine ⟨p, content, hp, ?_, rfl⟩
    rw [Payload.fst_read, hstart]
    exact hcollect
  · rintro ⟨p, content, hp, hread, rfl⟩
    rw [Payload.fst_read] at hread
    rcases hstart : p.start streams with ⟨e | source, later⟩
    · rw [hstart] at hread
      cases hread
    · rw [hstart] at hread
      exact ⟨p, source, later, content, hp, hstart, hread, rfl⟩

/-- What is kept promises nothing: its bytes are in memory. -/
theorem roomy_of_kept (hkept : Kept (.standard now) key response streams kept) : Roomy kept := by
  rcases kept_standard_iff.mp hkept with ⟨hp, rfl⟩ | ⟨p, content, -, -, rfl⟩
  · exact roomy_of_none hp
  · exact roomy_of_buffered rfl

/-- Bytes in memory are sent whenever they are the ones that were read. -/
theorem sends_of_kept (hkept : Kept (.standard now) key response streams kept)
    (hsends : Sends response streams body) (later : Streams) : Sends kept later body := by
  obtain ⟨hstatus, -⟩ := hkept.head
  by_cases hbody : response.status.permitsBody = true
  · rcases kept_standard_iff.mp hkept with ⟨hp, rfl⟩ | ⟨p, content, hp, hread, rfl⟩
    · exact (sends_of_none hp).mpr ((sends_of_none hp).mp hsends)
    · obtain ⟨hread', -⟩ := (sends_of_some hbody hp).mp hsends
      obtain rfl : content = body := Except.ok.inj (hread.symm.trans hread')
      have hagain : ((Payload.buffered p.mime content).read later).1 = .ok content := by
        rw [Payload.read_buffered]
      rw [← hstatus] at hbody
      refine (sends_of_some hbody rfl).mpr ⟨hagain, fun n hn => ?_⟩
      cases hn
      rfl
  · rw [Bool.not_eq_true] at hbody
    rw [sends_of_not_permitsBody hbody] at hsends
    rw [← hstatus] at hbody
    exact (sends_of_not_permitsBody hbody).mpr hsends

/-- What is kept has the same media type, and so the same fields. -/
theorem sentFields_of_kept (hkept : Kept (.standard now) key response streams kept)
    (body : Bytes) : sentFields kept body = sentFields response body := by
  rcases kept_standard_iff.mp hkept with ⟨-, rfl⟩ | ⟨p, content, hp, -, rfl⟩
  · rfl
  · have htype : addedType (response.withPayload (some (.buffered p.mime content)))
        = addedType response := by
      simp only [addedType, hp, Response.withPayload]
      rfl
    unfold sentFields
    rw [htype]
    rfl

theorem write_of_kept (hkept : Kept (.standard now) key response streams kept) {b : Bytes}
    (hwrite : (write response streams).1 = .ok b) (later : Streams) :
    (write kept later).1 = .ok b := by
  obtain ⟨-, body, hsends, rfl⟩ := write_eq_ok_iff.mp hwrite
  refine write_eq_ok_iff.mpr ⟨roomy_of_kept hkept, body, sends_of_kept hkept hsends later, ?_⟩
  rw [sentFields_of_kept hkept, hkept.head.1]

/-- A body that can be sent can be kept. -/
theorem exists_kept_of_sends (hbody : response.status.permitsBody = true)
    (hsends : Sends response streams body) :
    ∃ kept, Kept (.standard now) key response streams kept := by
  cases hp : response.payload with
  | none => exact ⟨_, kept_standard_iff.mpr (Or.inl ⟨hp, rfl⟩)⟩
  | some p =>
    obtain ⟨hread, -⟩ := (sends_of_some hbody hp).mp hsends
    exact ⟨_, kept_standard_iff.mpr (Or.inr ⟨p, body, hp, hread, rfl⟩)⟩

/-- If a response can be written and is stored, what is given back and what is stored are written
alike at any later time. A response with a body that can be written can be stored. -/
theorem replay_of_insert (s : Store) (now : Int) (request : Request) (response : Response)
    (streams : Streams) {b : Bytes} (hwrite : (write response streams).1 = .ok b) :
    let left := s.insert (.standard now) request response streams
    (∀ stored, left.result = .ok stored →
      (∀ later, (write stored later).1 = .ok b) ∧
      ∃ item, left.store.get? (.ofExchange request response.headers) = some item ∧
        ∀ later, (write item.response later).1 = .ok b) ∧
    (response.status.permitsBody = true → ∃ stored, left.result = .ok stored) := by
  intro left
  constructor
  · intro stored hstored
    have hkept := s.insert_eq_ok_iff.mp hstored
    have hleft : left = _ := s.insert_of_kept hkept
    refine ⟨write_of_kept hkept hwrite, ⟨stored, now⟩, ?_, write_of_kept hkept hwrite⟩
    rw [hleft]
    exact get?_put_self _ _ _
  · intro hbody
    obtain ⟨-, body, hsends, -⟩ := write_eq_ok_iff.mp hwrite
    obtain ⟨kept, hkept⟩ := exists_kept_of_sends hbody hsends
    exact ⟨kept, s.insert_eq_ok_iff.mpr hkept⟩

/-- A stream that declares its length and comes in pieces is stored, and replayed twice. -/
theorem replay_of_insert_chunked :
    let streams : Streams := ⟨[some [.bytes [72, 101], .failure ⟨.interrupted, ""⟩,
      .bytes [108, 108, 111]]]⟩
    let response : Response :=
      { headers := ⟨[⟨"Transfer-Encoding", "chunked"⟩]⟩
        payload := some (.stream "text/plain" (some 5) 0) }
    let left := ((empty 2 1).run crowded).insert (.standard 4) (.forPage "b" []) response streams
    ∃ stored b, left.result = .ok stored ∧ (write response streams).1 = .ok b ∧
      (write stored left.streams).1 = .ok b := by
  intro streams response left
  obtain ⟨b, hwrite⟩ : ∃ b, (write response streams).1 = .ok b := by
    have hroom : Roomy response := by decide
    refine ⟨_, write_eq_ok_iff.mpr ⟨hroom, [72, 101, 108, 108, 111], ?_, rfl⟩⟩
    exact (sends_of_some rfl rfl).mpr ⟨rfl, by simp [Payload.length?]⟩
  obtain ⟨hreplay, hstores⟩ :=
    replay_of_insert ((empty 2 1).run crowded) 4 (.forPage "b" []) response streams hwrite
  obtain ⟨stored, hstored⟩ := hstores rfl
  exact ⟨stored, b, hstored, hwrite, (hreplay stored hstored).1 left.streams⟩

end VariantStore
