import Mathlib.Algebra.Group.Nat.Defs
import VariantStore.Message.Wire
import VariantStore.Proofs.Body.Reading

/-!
# What a written response consists of

Every response that can be written is written in one form: the status line, some fields, the empty
line and a body (`message`). Which fields are sent depends on the response and on the length of the
body alone (`sentFields`). Writing succeeds if and only if a buffer can have room for what is
promised (`Roomy`) and there is a body to send: the payload can be read and keeps to the length that
it declares (`write_eq_ok_iff`).
-/

namespace VariantStore

open Text

/-- Reading is opening, and then reading to the end. -/
theorem Payload.fst_read (p : Payload) (streams : Streams) :
    (p.read streams).1 = (p.start streams).1 >>= fun source => source.drain.result := by
  unfold Payload.read
  cases p.start streams with
  | mk result later =>
    cases result with
    | ok source => rfl
    | error e => rfl

namespace Wire

/-- A message: the status line, the fields, the empty line and the body. -/
def message (status : Status) (fields : List Field) (body : Bytes) : Bytes :=
  utf8 (statusLine status ++ String.join (fields.map fieldLine) ++ lineEnd) ++ body

/-- The media type of the payload, unless a stored field gives one. -/
def addedType (r : Response) : List Field :=
  match r.payload with
  | none => []
  | some p =>
    if r.headers.fields.any fun f => sameName f.name "content-type" then []
    else [⟨"Content-Type", p.mime⟩]

/-- The fields that go with a body. -/
def sentFields (r : Response) (body : Bytes) : List Field :=
  r.headers.fields.filter (isRepeated r.status) ++
    if r.status.permitsBody then addedType r ++ [⟨"Content-Length", toString body.length⟩] else []

/-- The response has this body to send: that of its payload, if the length is the declared one, and
none if the status permits none. -/
def Sends (r : Response) (streams : Streams) (body : Bytes) : Prop :=
  if r.status.permitsBody then
    match r.payload with
    | none => body = []
    | some p => (p.read streams).1 = .ok body ∧ ∀ n ∈ p.length?, n = body.length
  else body = []

/-- If a body is sent and its length promised, a buffer can have room for it and the fields. -/
def Roomy (r : Response) : Prop :=
  r.status.permitsBody = true → ∀ p ∈ r.payload, ∀ n ∈ p.promised?,
    128 + 64 * r.headers.size + n < 2 ^ 63

variable {r : Response} {streams : Streams} {b : Bytes}

theorem overflows_eq_false_iff : overflows r = false ↔ Roomy r := by
  have hroom : maxRoom = 2 ^ 63 - 1 := rfl
  unfold overflows Roomy
  cases r.status.permitsBody with
  | false => simp
  | true =>
    cases r.payload with
    | none => simp
    | some p =>
      cases hpromised : p.promised? with
      | none => simp [hpromised]
      | some n =>
        simp only [Bool.true_and, Option.bind_some, hpromised, Option.any_some,
          decide_eq_false_iff_not, Option.mem_some_iff, forall_eq', forall_const]
        omega

instance (r : Response) : Decidable (Roomy r) := decidable_of_iff _ overflows_eq_false_iff

theorem roomy_of_not_permitsBody (h : r.status.permitsBody = false) : Roomy r := by
  intro hbody
  rw [h] at hbody
  cases hbody

theorem roomy_of_none (h : r.payload = none) : Roomy r := by
  intro _ p hp
  rw [h] at hp
  cases hp

/-- Bytes in memory have their room already. -/
theorem roomy_of_buffered {mime : String} {content : Bytes}
    (h : r.payload = some (.buffered mime content)) : Roomy r := by
  intro _ p hp n hn
  obtain rfl : .buffered mime content = p := Option.some.inj (h.symm.trans hp)
  cases hn

theorem sends_of_not_permitsBody (h : r.status.permitsBody = false) {body : Bytes} :
    Sends r streams body ↔ body = [] := by
  simp [Sends, h]

theorem sends_of_none (h : r.payload = none) {body : Bytes} :
    Sends r streams body ↔ body = [] := by
  simp [Sends, h]

theorem sends_of_some (h : r.status.permitsBody = true) {p : Payload} (hp : r.payload = some p)
    {body : Bytes} :
    Sends r streams body ↔ (p.read streams).1 = .ok body ∧ ∀ n ∈ p.length?, n = body.length := by
  simp [Sends, h, hp]

theorem framedBody_eq_ok_iff {declared : Option Nat} {source : Source} :
    framedBody declared source = .ok b ↔
      ∃ body, source.drain.result = .ok body ∧ (∀ n ∈ declared, n = body.length) ∧
        utf8 (lengthLine body.length ++ lineEnd) ++ body = b := by
  unfold framedBody
  cases source.drain.result with
  | error e => simp [bind, Except.bind]
  | ok body =>
    cases declared with
    | none => simp [bind, Except.bind, pure, Except.pure]
    | some n =>
      by_cases hn : body.length = n
      · subst hn
        simp [bind, Except.bind, pure, Except.pure]
      · simp [bind, Except.bind, throw, throwThe, MonadExceptOf.throw, hn, Ne.symm hn]

/-! ## The four kinds of response -/

theorem write_of_not_roomy (h : ¬Roomy r) : write r streams = (.error .overflow, streams) := by
  rw [← overflows_eq_false_iff, Bool.not_eq_false] at h
  rw [write, if_pos h]

theorem write_of_not_permitsBody (h : r.status.permitsBody = false) :
    write r streams = (.ok (message r.status (sentFields r []) []), streams) := by
  have hroom := overflows_eq_false_iff.mpr (roomy_of_not_permitsBody h)
  simp [write, hroom, h, message, sentFields, heading]

theorem write_of_none (h : r.status.permitsBody = true) (hp : r.payload = none) :
    write r streams = (.ok (message r.status (sentFields r []) []), streams) := by
  have hroom := overflows_eq_false_iff.mpr (roomy_of_none hp)
  simp [write, hroom, h, hp, message, sentFields, addedType, heading, lengthLine,
    List.append_assoc]

/-- The message of a response with a payload is written in two parts, the second one once the body
is known. -/
theorem message_of_some (h : r.status.permitsBody = true) {p : Payload} (hp : r.payload = some p)
    (body : Bytes) :
    message r.status (sentFields r body) body
      = utf8 (heading r ++ typeLine r.headers p)
        ++ (utf8 (lengthLine body.length ++ lineEnd) ++ body) := by
  have hadded : addedType r
      = if r.headers.contains "content-type" then [] else [⟨"Content-Type", p.mime⟩] := by
    rw [addedType, hp]
    rfl
  by_cases htype : r.headers.contains "content-type" = true
  · simp [message, sentFields, hadded, heading, typeLine, lengthLine, h, htype]
  · simp [message, sentFields, hadded, heading, typeLine, lengthLine, h, htype]

theorem write_of_some (hroom : Roomy r) (h : r.status.permitsBody = true) {p : Payload}
    (hp : r.payload = some p) :
    (write r streams).1 = ((p.start streams).1 >>= fun source =>
      (framedBody p.length? source).map (utf8 (heading r ++ typeLine r.headers p) ++ ·)).mapError
        Failure.payload := by
  rw [← overflows_eq_false_iff] at hroom
  simp only [write, hroom, h, hp, Bool.not_true, Bool.false_eq_true, if_false]
  rcases p.start streams with ⟨e | source, later⟩
  · rfl
  · show ((framedBody p.length? source).mapError _).map _ = ((framedBody _ _).map _).mapError _
    cases framedBody p.length? source with
    | error e => rfl
    | ok framed => rfl

/-- Writing succeeds if and only if there is room and there is a body to send, and then gives the
message of the response. -/
theorem write_eq_ok_iff :
    (write r streams).1 = .ok b ↔
      Roomy r ∧ ∃ body, Sends r streams body ∧ message r.status (sentFields r body) body = b := by
  by_cases hroom : Roomy r
  · rw [and_iff_right hroom]
    by_cases h : r.status.permitsBody = true
    · cases hp : r.payload with
      | none =>
        rw [write_of_none h hp]
        simp [sends_of_none hp]
      | some p =>
        rw [write_of_some hroom h hp, mapError_eq_ok_iff]
        simp only [sends_of_some h hp, Payload.fst_read, message_of_some h hp]
        cases (p.start streams).1 with
        | error e => simp [bind, Except.bind]
        | ok source =>
          simp only [bind, Except.bind, map_eq_ok_iff, framedBody_eq_ok_iff]
          constructor
          · rintro ⟨framed, ⟨body, hbody, hlength, rfl⟩, hb⟩
            exact ⟨body, ⟨hbody, hlength⟩, hb⟩
          · rintro ⟨body, ⟨hbody, hlength⟩, hb⟩
            exact ⟨_, ⟨body, hbody, hlength, rfl⟩, hb⟩
    · rw [Bool.not_eq_true] at h
      rw [write_of_not_permitsBody h]
      simp [sends_of_not_permitsBody h]
  · rw [write_of_not_roomy hroom]
    simp [hroom]

end Wire

end VariantStore
