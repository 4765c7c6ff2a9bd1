import VariantStore.Proofs.Body.Collecting
import VariantStore.Proofs.Message.Failure
import VariantStore.Proofs.Store.Insertion

/-!
# How much of a body is stored

A payload may declare how many bytes it has. Writing holds it to that, and storing does not: it
takes the bytes as they come (`insert_eq_ok_iff_of_yields`). So a stored body has as many bytes as
were declared if and only if as many came (`completeness_of_insert`). A stream that breaks off
without a failure, or goes on for too long, is stored with the bytes that it gave, and is written
from then on as if there had never been any others (`truncated_of_insert`).
-/

namespace VariantStore

/-- The payload of the response is in memory, with this number of bytes. -/
def Response.HoldsBytes (r : Response) (n : Nat) : Prop :=
  ∃ mime content, r.payload = some (.buffered mime content) ∧ content.length = n

theorem Response.holdsBytes_buffered_iff {r : Response} {mime : String} {content : Bytes}
    {n : Nat} :
    (r.withPayload (some (.buffered mime content))).HoldsBytes n ↔ content.length = n := by
  constructor
  · rintro ⟨mime', content', hp, hlength⟩
    cases hp
    exact hlength
  · intro hlength
    exact ⟨mime, content, rfl, hlength⟩

namespace Store

open Wire Response

/-! ## What is stored -/

section Insert

variable {limit : Option Nat} {now : Int} {request : Request} {response stored : Response}
  {streams : Streams} {p : Payload} {source : Source} {content : Bytes} {failure : Option IoError}

/-- A payload is stored if it opens and its bytes can be collected. -/
theorem insert_eq_ok_iff_of_payload (s : Store) (hp : response.payload = some p) :
    (s.insert (.buffering limit now) request response streams).result = .ok stored ↔
      ∃ source content, (p.start streams).1 = .ok source ∧ (source.collect limit).1 = .ok content ∧
        stored = response.withPayload (some (.buffered p.mime content)) := by
  rw [s.insert_eq_ok_iff, kept_buffering_iff]
  constructor
  · rintro (⟨hnone, -⟩ | ⟨p', source, later, content, hp', hstart, hcollect, rfl⟩)
    · rw [hp] at hnone
      cases hnone
    · obtain rfl : p = p' := Option.some.inj (hp.symm.trans hp')
      exact ⟨source, content, congrArg Prod.fst hstart, hcollect, rfl⟩
  · rintro ⟨source, content, hstart, hcollect, rfl⟩
    exact Or.inr ⟨p, source, _, content, hp, Prod.ext hstart rfl, hcollect, rfl⟩

/-- What is declared plays no part in whether a response is stored, and with which bytes. -/
theorem insert_eq_ok_iff_of_yields (s : Store) (hp : response.payload = some p)
    (hstart : (p.start streams).1 = .ok source) (hyields : source.Yields content failure)
    (hquota : ∀ l ∈ limit, l < Source.maxQuota ∨ content.length < Source.maxQuota) :
    (s.insert (.buffering limit now) request response streams).result = .ok stored ↔
      failure = none ∧ (∀ l ∈ limit, content.length ≤ l) ∧
        stored = response.withPayload (some (.buffered p.mime content)) := by
  rw [s.insert_eq_ok_iff_of_payload hp]
  constructor
  · rintro ⟨source', found, hstart', hcollect, rfl⟩
    rw [hstart] at hstart'
    cases hstart'
    obtain ⟨hfailure, hwithin, rfl⟩ := (Source.collect_eq_ok_iff hyields hquota).mp hcollect
    exact ⟨hfailure, hwithin, rfl⟩
  · rintro ⟨hfailure, hwithin, rfl⟩
    have hcollect := (Source.collect_eq_ok_iff hyields hquota).mpr ⟨hfailure, hwithin, rfl⟩
    exact ⟨source, content, hstart, hcollect, rfl⟩

/-- Whatever is stored has a given number of bytes if and only if as many come, or nothing is
stored: a failure comes after them, or there are too many. -/
theorem holdsBytes_insert_iff_of_yields (s : Store) (hp : response.payload = some p)
    (hstart : (p.start streams).1 = .ok source) (hyields : source.Yields content failure)
    (hquota : ∀ l ∈ limit, l < Source.maxQuota ∨ content.length < Source.maxQuota) {n : Nat} :
    (∀ stored, (s.insert (.buffering limit now) request response streams).result = .ok stored →
      stored.HoldsBytes n) ↔
      content.length = n ∨ failure ≠ none ∨ ∃ l ∈ limit, l < content.length := by
  simp only [s.insert_eq_ok_iff_of_yields hp hstart hyields hquota]
  constructor
  · intro hcomplete
    by_cases hkept : failure = none ∧ ∀ l ∈ limit, content.length ≤ l
    · exact Or.inl (holdsBytes_buffered_iff.mp (hcomplete _ ⟨hkept.1, hkept.2, rfl⟩))
    · rcases not_and_or.mp hkept with hbroken | hexceeded
      · exact Or.inr (Or.inl hbroken)
      · exact Or.inr (Or.inr (by simpa using hexceeded))
  · rintro h stored ⟨hfailure, hwithin, rfl⟩
    rcases h with hlength | hbroken | ⟨l, hl, hmore⟩
    · exact holdsBytes_buffered_iff.mpr hlength
    · exact absurd hfailure hbroken
    · exact absurd (hwithin l hl) (Nat.not_le.mpr hmore)

end Insert

/-! ## The outcome -/

/-- Let a payload declare its length. If it does not open, it is not stored. If it opens, it is
stored if and only if its bytes come without a failure and within the limit, and then they are what
is stored. So all that can be stored is complete if and only if as many bytes come as were declared,
or nothing is stored. Where the status permits a body, and there is room for the declared length,
this is whether the response could have been written at first; what is stored can be written at all
times. -/
theorem completeness_of_insert (s : Store) (limit : Option Nat) (now : Int) (request : Request)
    (response : Response) (streams : Streams) {p : Payload} {n : Nat}
    (hp : response.payload = some p) (hdeclared : p.length? = some n) :
    let left := s.insert (.buffering limit now) request response streams
    (∀ e, (p.start streams).1 = .error e → ∀ stored, left.result ≠ .ok stored) ∧
    ∀ source content failure, (p.start streams).1 = .ok source → source.Yields content failure →
      (∀ l ∈ limit, l < 2 ^ 64 - 1 ∨ content.length < 2 ^ 64 - 1) →
      (∀ stored, left.result = .ok stored ↔
        failure = none ∧ (∀ l ∈ limit, content.length ≤ l) ∧
          stored = response.withPayload (some (.buffered p.mime content))) ∧
      ((∀ stored, left.result = .ok stored → stored.HoldsBytes n) ↔
        content.length = n ∨ failure ≠ none ∨ ∃ l ∈ limit, l < content.length) ∧
      ∀ stored, left.result = .ok stored → response.status.permitsBody = true →
        (Roomy response →
          (stored.HoldsBytes n ↔ ∃ b, (write response streams).1 = .ok b) ∧
          (¬stored.HoldsBytes n → (write response streams).1 = .error (.payload
            ⟨.invalidData, s!"payload declared {n} bytes but produced {content.length}"⟩))) ∧
        ∃ b, ∀ later, write stored later = (.ok b, later) := by
  intro left
  refine ⟨fun e hunopened stored hstored => ?_, ?_⟩
  · obtain ⟨source, content, hstart, -⟩ := (s.insert_eq_ok_iff_of_payload hp).mp hstored
    rw [hunopened] at hstart
    cases hstart
  intro source content failure hstart hyields hquota
  have hok : ∀ stored, left.result = .ok stored ↔ _ := fun stored =>
    s.insert_eq_ok_iff_of_yields hp hstart hyields hquota
  refine ⟨hok, s.holdsBytes_insert_iff_of_yields hp hstart hyields hquota, ?_⟩
  intro stored hstored hbody
  obtain ⟨rfl, -, rfl⟩ := (hok stored).mp hstored
  rw [holdsBytes_buffered_iff]
  refine ⟨fun hroom => ⟨?_, fun hdiffers => ?_⟩, ?_⟩
  · exact (exists_write_iff_of_yields hroom hbody hp hdeclared hstart hyields).symm
  · exact (write_eq_error_iff hroom).mpr
      ⟨_, rfl, .misdeclared hbody hp hstart hyields hdeclared hdiffers⟩
  · exact ⟨_, write_of_buffered (r := response.withPayload (some (.buffered p.mime content)))
      hbody rfl⟩

/-- A stream that goes on for longer than it declares is stored with all of its bytes, if the limit
allows for them. -/
theorem completeness_of_insert_overlong :
    let streams : Streams := ⟨[some [.bytes [1, 2], .bytes [3]]]⟩
    let response : Response := { payload := some (.stream "text/plain" (some 2) 0) }
    let stored := response.withPayload (some (.buffered "text/plain" [1, 2, 3]))
    (((empty 2 1).run crowded).insert (.buffering (some 3) 9) (.forPage "b" []) response
        streams).result = .ok stored ∧
      ¬stored.HoldsBytes 2 ∧
      (write response streams).1
        = .error (.payload ⟨.invalidData, "payload declared 2 bytes but produced 3"⟩) := by
  intro streams response stored
  obtain ⟨-, hopened⟩ := completeness_of_insert ((empty 2 1).run crowded) (some 3) 9
    (.forPage "b" []) response streams (n := 2) rfl rfl
  have hyields : Source.Yields [.bytes [1, 2], .bytes [3]] [1, 2, 3] none :=
    Source.yields_iff.mpr ⟨rfl, rfl⟩
  obtain ⟨hok, -, hwrite⟩ := hopened _ _ _ rfl hyields (by simp)
  have hstored := (hok stored).mpr ⟨rfl, by simp, rfl⟩
  obtain ⟨hroomy, -⟩ := hwrite stored hstored rfl
  obtain ⟨-, herror⟩ := hroomy (by decide)
  have hdiffers : ¬stored.HoldsBytes 2 := holdsBytes_buffered_iff.not.mpr (by decide)
  exact ⟨hstored, hdiffers, herror hdiffers⟩

/-- A stream breaks off after five of ten bytes. Writing it fails. It is stored all the same, and
then it is a message of five bytes at all times. -/
theorem truncated_of_insert :
    let streams : Streams := ⟨[some [.bytes [115, 104, 111, 114, 116]]]⟩
    let response : Response := { payload := some (.stream "text/plain" (some 10) 0) }
    let stored := response.withPayload (some (.buffered "text/plain" [115, 104, 111, 114, 116]))
    ((empty 1000 10).insert (.standard 0) (.forPage "a" []) response streams).result = .ok stored ∧
      ¬stored.HoldsBytes 10 ∧
      (write response streams).1
        = .error (.payload ⟨.invalidData, "payload declared 10 bytes but produced 5"⟩) ∧
      ∀ later, write stored later = (.ok (Text.utf8 ("HTTP/1.1 200 OK\r\n"
        ++ "Content-Type: text/plain\r\nContent-Length: 5\r\n\r\nshort")), later) := by
  intro streams response stored
  have hyields : Source.Yields [.bytes [115, 104, 111, 114, 116]] [115, 104, 111, 114, 116] none :=
    Source.yields_iff.mpr ⟨rfl, rfl⟩
  have hstored : ((empty 1000 10).insert (.buffering none 0) (.forPage "a" []) response
      streams).result = .ok stored :=
    (insert_eq_ok_iff_of_yields _ rfl rfl hyields (by simp)).mpr ⟨rfl, by simp, rfl⟩
  have hdiffers : ¬stored.HoldsBytes 10 := holdsBytes_buffered_iff.not.mpr (by decide)
  have hunwritable : Unwritable response streams _ :=
    .misdeclared rfl rfl rfl hyields rfl (by decide)
  have hroom : Roomy response := by decide
  refine ⟨hstored, hdiffers, (write_eq_error_iff hroom).mpr ⟨_, rfl, hunwritable⟩, fun later => ?_⟩
  rw [write_of_buffered (r := stored) rfl rfl]
  have hmessage : message stored.status (sentFields stored [115, 104, 111, 114, 116])
      [115, 104, 111, 114, 116] = Text.utf8 ("HTTP/1.1 200 OK\r\n"
        ++ "Content-Type: text/plain\r\nContent-Length: 5\r\n\r\nshort") := by
    decide +kernel
  rw [hmessage]

end Store

end VariantStore
