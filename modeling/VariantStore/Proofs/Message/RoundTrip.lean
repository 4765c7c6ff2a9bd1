import VariantStore.Proofs.Message.Reader

/-!
# What a reader gets of a response

Whatever a response holds, a reader gets back its status, its body and its fields in order, but for
those that frame the message (`read_of_write`). One length goes with every body, and it is that of
the body: the reader is never left with two lengths to choose from.
-/

namespace VariantStore

open Text

namespace Wire

/-! ## The fields that are sent -/

/-- The fields that have none of these names. -/
def without (names : List String) (fields : List Field) : List Field :=
  fields.filter fun f => !names.any fun name => sameName f.name name

theorem filter_isRepeated_of_ne {s : Status} (h : s ≠ .notModified) (fields : List Field) :
    fields.filter (isRepeated s) = without ["transfer-encoding", "content-length"] fields := by
  have hbne : (s != .notModified) = true := bne_iff_ne.mpr h
  refine List.filter_congr fun f _ => ?_
  simp [isRepeated, hbne]

theorem filter_isRepeated_notModified (fields : List Field) :
    fields.filter (isRepeated .notModified) = without ["transfer-encoding"] fields := by
  refine List.filter_congr fun f _ => ?_
  simp [isRepeated]

theorem sentFields_of_permitsBody {r : Response} (h : r.status.permitsBody = true) (body : Bytes) :
    sentFields r body = without ["transfer-encoding", "content-length"] r.headers.fields
      ++ (addedType r ++ [⟨"Content-Length", toString body.length⟩]) := by
  have hne : r.status ≠ .notModified := by
    intro heq
    rw [heq] at h
    cases h
  rw [sentFields, filter_isRepeated_of_ne hne, if_pos h]

theorem sentFields_of_not_permitsBody {r : Response} (h : r.status.permitsBody = false)
    (body : Bytes) : sentFields r body = r.headers.fields.filter (isRepeated r.status) := by
  simp [sentFields, h]

/-- The length of the body is the only one that is sent with it. -/
theorem filter_contentLength_sentFields {r : Response} (h : r.status.permitsBody = true)
    (body : Bytes) :
    (sentFields r body).filter (fun f => sameName f.name "content-length")
      = [⟨"Content-Length", toString body.length⟩] := by
  have hlength : sameName "Content-Length" "content-length" = true := by
    rw [sameName_eq_decide]
    decide
  have hother : sameName "Content-Type" "content-length" = false := by
    rw [sameName_eq_decide]
    decide
  have hstored : (without ["transfer-encoding", "content-length"] r.headers.fields).filter
      (fun f => sameName f.name "content-length") = [] := by
    simp only [without, List.filter_filter, List.filter_eq_nil_iff]
    intro f _
    simp only [List.any_cons, List.any_nil, Bool.or_false, Bool.and_eq_true, Bool.not_eq_true',
      Bool.or_eq_false_iff]
    rintro ⟨hname, -, hother⟩
    rw [hother] at hname
    cases hname
  have htype : (addedType r).filter (fun f => sameName f.name "content-length") = [] := by
    unfold addedType
    cases r.payload with
    | none => rfl
    | some p =>
      dsimp only
      split
      · rfl
      · simp [hother]
  rw [sentFields_of_permitsBody h, List.filter_append, List.filter_append, hstored, htype]
  simp [hlength]

theorem fits_of_name {name value : String} (hname : ':' ∉ name.toList ∧ OneLine name)
    (hvalue : OneLine value) : Fits ⟨name, value⟩ := ⟨hname.1, hname.2, hvalue⟩

theorem fits_of_mem_addedType {r : Response} (hmime : ∀ p ∈ r.payload, OneLine p.mime) {f : Field}
    (h : f ∈ addedType r) : Fits f := by
  unfold addedType at h
  split at h
  · cases h
  · next p hp =>
    split at h
    · cases h
    · rw [List.mem_singleton.mp h]
      exact fits_of_name (by decide) (hmime p hp)

/-- Fields that fit are sent as fields that fit. -/
theorem fits_of_mem_sentFields {r : Response} (hfields : ∀ f ∈ r.headers.fields, Fits f)
    (hmime : ∀ p ∈ r.payload, OneLine p.mime) {body : Bytes} {f : Field}
    (h : f ∈ sentFields r body) : Fits f := by
  rcases List.mem_append.mp h with hstored | hadded
  · exact hfields f (List.mem_filter.mp hstored).1
  · split at hadded
    · rcases List.mem_append.mp hadded with htype | hlength
      · exact fits_of_mem_addedType hmime htype
      · rw [List.mem_singleton.mp hlength]
        exact fits_of_name (by decide) (oneLine_toString body.length)
    · cases hadded

/-- If the fields of a response and its media type fit on their lines, the message reads back as the
response: its status, its fields without those that frame it, and its body. -/
theorem read_of_write {r : Response} {streams : Streams} {b : Bytes}
    (hfields : ∀ f ∈ r.headers.fields, Fits f) (hmime : ∀ p ∈ r.payload, OneLine p.mime)
    (hwrite : (write r streams).1 = .ok b) :
    ∃ m, read b = some m ∧ m.code = r.status.code ∧ m.reason = r.status.reason?.getD "" ∧
      (200 ≤ r.status.code ∧ r.status.code ≠ 204 ∧ r.status.code ≠ 304 →
        m.fields = without ["transfer-encoding", "content-length"] r.headers.fields
          ++ (addedType r ++ [⟨"Content-Length", toString m.body.length⟩]) ∧
        m.fields.filter (fun f => sameName f.name "content-length")
          = [⟨"Content-Length", toString m.body.length⟩] ∧
        (r.payload = none → m.body = []) ∧
        ∀ p, r.payload = some p → (p.read streams).1 = .ok m.body) ∧
      (r.status.code < 200 ∨ r.status.code = 204 →
        m.fields = without ["transfer-encoding", "content-length"] r.headers.fields ∧
        m.body = []) ∧
      (r.status.code = 304 →
        m.fields = without ["transfer-encoding"] r.headers.fields ∧ m.body = []) := by
  obtain ⟨-, body, hsends, rfl⟩ := write_eq_ok_iff.mp hwrite
  refine ⟨_, read_message r.status (fun f hf => fits_of_mem_sentFields hfields hmime hf) body,
    rfl, rfl, ?_, ?_, ?_⟩
  · intro hcode
    have hbody := Status.permitsBody_eq_true_iff.mpr hcode
    refine ⟨sentFields_of_permitsBody hbody body, filter_contentLength_sentFields hbody body,
      fun hnone => (sends_of_none hnone).mp hsends, fun p hp => ?_⟩
    exact ((sends_of_some hbody hp).mp hsends).1
  · intro hcode
    have hbody : r.status.permitsBody = false := by
      rw [Bool.eq_false_iff, ne_eq, Status.permitsBody_eq_true_iff]
      omega
    have hne : r.status ≠ .notModified := by
      rw [ne_eq, ← Status.code_inj]
      have : Status.notModified.code = 304 := rfl
      omega
    refine ⟨?_, (sends_of_not_permitsBody hbody).mp hsends⟩
    exact (sentFields_of_not_permitsBody hbody body).trans (filter_isRepeated_of_ne hne _)
  · intro hcode
    have heq : r.status = .notModified := Status.code_inj.mp hcode
    have hbody : r.status.permitsBody = false := by
      rw [heq]
      rfl
    refine ⟨?_, (sends_of_not_permitsBody hbody).mp hsends⟩
    refine (sentFields_of_not_permitsBody hbody body).trans ?_
    rw [heq]
    exact filter_isRepeated_notModified _

/-- Stored framing is left out in any case of its letters, a colon within a value stays, and so does
an empty line within a body. -/
theorem read_of_write_framed :
    let streams : Streams := ⟨[some [.bytes [13, 10, 13], .failure ⟨.interrupted, ""⟩,
      .bytes [10, 195]]]⟩
    let r : Response :=
      { status := ⟨299, by decide⟩
        headers := ⟨[⟨"TRANSFER-encoding", "chunked"⟩, ⟨"Größe", "a: b"⟩, ⟨"content-LENGTH", "7"⟩]⟩
        payload := some (.stream "text/plain" none 0) }
    ∃ b m, (write r streams).1 = .ok b ∧ read b = some m ∧ m.body = [13, 10, 13, 10, 195] ∧
      m.fields = [⟨"Größe", "a: b"⟩, ⟨"Content-Type", "text/plain"⟩, ⟨"Content-Length", "5"⟩] := by
  intro streams r
  have hread : (Payload.read (.stream "text/plain" none 0) streams).1
      = .ok [13, 10, 13, 10, 195] := rfl
  have hsends : Sends r streams [13, 10, 13, 10, 195] :=
    (sends_of_some rfl rfl).mpr ⟨hread, by simp [Payload.length?]⟩
  have hroom : Roomy r := by decide
  have hwrite := write_eq_ok_iff.mpr ⟨hroom, _, hsends, rfl⟩
  have hfields : ∀ f ∈ r.headers.fields, Fits f := by
    simp only [r, List.forall_mem_cons]
    exact ⟨fits_of_name (by decide) (by decide), fits_of_name (by decide) (by decide),
      fits_of_name (by decide) (by decide), by simp⟩
  have hmime : ∀ p ∈ r.payload, OneLine p.mime := by
    rintro p ⟨⟩
    exact (by decide : OneLine "text/plain")
  obtain ⟨m, hm, -, -, hfull, -, -⟩ := read_of_write hfields hmime hwrite
  obtain ⟨hsent, -, -, hbody⟩ := hfull (by decide)
  have hbody : m.body = [13, 10, 13, 10, 195] :=
    Except.ok.inj ((hbody _ rfl).symm.trans hread)
  have hstored : without ["transfer-encoding", "content-length"] r.headers.fields
      = [⟨"Größe", "a: b"⟩] := by
    simp only [without, sameName_eq_decide]
    decide
  have htype : addedType r = [⟨"Content-Type", "text/plain"⟩] := by
    simp only [addedType, sameName_eq_decide]
    decide
  refine ⟨_, m, hwrite, hm, hbody, ?_⟩
  rw [hsent, hbody, hstored, htype]
  rfl

end Wire

end VariantStore
