import VariantStore.Proofs.Message.Framing
import VariantStore.Proofs.Text.Utf8

/-!
# Reading a message back

The reader knows nothing of the writer. It splits at marks: the status line ends at the first line
end, and each field line at the next one; a name ends at the first colon with a space behind it; an
empty line ends the fields. What follows is the body, whatever it holds.

`read_message`: a message whose fields fit on their lines is read back as it is.
-/

namespace VariantStore

open Text

/-! ## Marks -/

/-- Splits at the first place where the mark stands, a byte with others behind it. The mark belongs
to neither part. -/
def cut (first : UInt8) (others : Bytes) : Bytes → Option (Bytes × Bytes)
  | [] => none
  | b :: rest =>
    if b = first ∧ others <+: rest then some ([], rest.drop others.length)
    else (cut first others rest).map fun parts => (b :: parts.1, parts.2)

theorem length_cut {first : UInt8} {others bytes front back : Bytes}
    (h : cut first others bytes = some (front, back)) : back.length < bytes.length := by
  induction bytes generalizing front with
  | nil => cases h
  | cons b rest ih =>
    unfold cut at h
    split at h
    · cases h
      simp only [List.length_drop, List.length_cons]
      omega
    · obtain ⟨parts, hparts, hpair⟩ := Option.map_eq_some_iff.mp h
      cases hpair
      have := ih hparts
      simp only [List.length_cons]
      omega

/-- What stands before the first byte of a mark is split off. -/
theorem cut_append {first : UInt8} {front : Bytes} (h : first ∉ front) (others back : Bytes) :
    cut first others (front ++ first :: (others ++ back)) = some (front, back) := by
  induction front with
  | nil => simp [cut]
  | cons b front ih =>
    obtain ⟨hb, hfront⟩ := not_or.mp (fun hc => h (List.mem_cons.mpr hc))
    rw [List.cons_append, cut, if_neg (fun hc => hb hc.1.symm), ih hfront]
    rfl

namespace Wire

/-! ## The reader -/

/-- A message as a reader sees it. -/
structure Reading where
  code : Nat
  reason : String
  fields : List Field
  body : Bytes
deriving DecidableEq

/-- A line without its end, and what follows. -/
def line? (bytes : Bytes) : Option (Bytes × Bytes) := cut 13 [10] bytes

/-- A name and a value, with a colon and a space between them. -/
def field? (line : Bytes) : Option Field := do
  let (name, value) ← cut 58 [32] line
  return ⟨← ofUtf8? name, ← ofUtf8? value⟩

/-- The fields up to the empty line, and what follows. -/
def fields? (bytes : Bytes) : Option (List Field × Bytes) :=
  match _ : line? bytes with
  | none => none
  | some (line, rest) =>
    if line.isEmpty then some ([], rest)
    else do
      let f ← field? line
      let (fields, body) ← fields? rest
      return (f :: fields, body)
termination_by bytes.length
decreasing_by exact length_cut (by assumption)

/-- The code and the reason, behind the version and set apart by spaces. -/
def status? (line : Bytes) : Option (Nat × String) := do
  let (version, rest) ← cut 32 [] line
  let (code, reason) ← cut 32 [] rest
  if version = utf8 "HTTP/1.1" then
    return (← numeral? 10 (← ofUtf8? code).toList, ← ofUtf8? reason)
  else none

/-- Reads a message; `none` if it has no status line or no end of its fields. -/
def read (bytes : Bytes) : Option Reading := do
  let (line, rest) ← line? bytes
  let (code, reason) ← status? line
  let (fields, body) ← fields? rest
  return ⟨code, reason, fields, body⟩

/-! ## Lines -/

/-- The text has no line end in it, nor a part of one. -/
def OneLine (s : String) : Prop := '\r' ∉ s.toList ∧ '\n' ∉ s.toList

instance (s : String) : Decidable (OneLine s) := inferInstanceAs (Decidable (_ ∧ _))

/-- The field fits on its line, and its name ends at the colon. -/
structure Fits (f : Field) : Prop where
  noColon : ':' ∉ f.name.toList
  name : OneLine f.name
  value : OneLine f.value

theorem line?_append {s : String} (h : '\r' ∉ s.toList) (rest : Bytes) :
    line? (utf8 (s ++ lineEnd) ++ rest) = some (utf8 s, rest) := by
  have hend : utf8 lineEnd = [13, 10] := by decide
  have hmark : (13 : UInt8) ∉ utf8 s := fun hc => h (mem_of_mem_utf8 (by decide) hc)
  rw [utf8_append, hend, List.append_assoc]
  exact cut_append hmark [10] rest

theorem field?_append {f : Field} (h : Fits f) :
    field? (utf8 (f.name ++ ": " ++ f.value)) = some f := by
  have hcolon : utf8 ": " = [58, 32] := by decide
  have hmark : (58 : UInt8) ∉ utf8 f.name := fun hc => h.noColon (mem_of_mem_utf8 (by decide) hc)
  have hcut : cut 58 [32] (utf8 (f.name ++ ": " ++ f.value)) = some (utf8 f.name, utf8 f.value) := by
    rw [utf8_append, utf8_append, hcolon, List.append_assoc]
    exact cut_append hmark [32] (utf8 f.value)
  rw [field?, hcut]
  simp

theorem fields?_of_empty {bytes rest : Bytes} (h : line? bytes = some ([], rest)) :
    fields? bytes = some ([], rest) := by
  rw [fields?]
  split
  case h_1 hnone => cases hnone.symm.trans h
  case h_2 line rest' hsome =>
    cases hsome.symm.trans h
    rfl

theorem fields?_of_field {bytes line rest : Bytes} {f : Field}
    (h : line? bytes = some (line, rest)) (hf : field? line = some f) :
    fields? bytes = (fields? rest).map fun parts => (f :: parts.1, parts.2) := by
  have hline : line ≠ [] := by
    rintro rfl
    cases hf
  rw [fields?]
  split
  case h_1 hnone => cases hnone.symm.trans h
  case h_2 line' rest' hsome =>
    cases hsome.symm.trans h
    rw [if_neg (by simpa using hline), hf]
    cases fields? rest with
    | none => rfl
    | some parts => rfl

/-- Fields that fit end at the first empty line, so the body is left alone. -/
theorem fields?_append {fields : List Field} (h : ∀ f ∈ fields, Fits f) (body : Bytes) :
    fields? (utf8 (String.join (fields.map fieldLine) ++ lineEnd) ++ body)
      = some (fields, body) := by
  induction fields with
  | nil =>
    have hempty : '\r' ∉ ("" : String).toList := by decide
    exact fields?_of_empty (line?_append hempty body)
  | cons f fields ih =>
    obtain ⟨hf, hfields⟩ := List.forall_mem_cons.mp h
    have hline : '\r' ∉ (f.name ++ ": " ++ f.value).toList := by
      simp [hf.name.1, hf.value.1]
    have hjoin : utf8 (String.join ((f :: fields).map fieldLine) ++ lineEnd) ++ body
        = utf8 (f.name ++ ": " ++ f.value ++ lineEnd)
          ++ (utf8 (String.join (fields.map fieldLine) ++ lineEnd) ++ body) := by
      simp [fieldLine, List.append_assoc]
    rw [hjoin, fields?_of_field (line?_append hline _) (field?_append hf), ih hfields]
    rfl

/-! ## The status line -/

theorem oneLine_toString (n : Nat) : OneLine (toString n) :=
  ⟨notMem_toString n rfl, notMem_toString n rfl⟩

theorem oneLine_of_mem_registry {entry : Nat × String} (h : entry ∈ Status.registry) :
    OneLine entry.2 := by
  have all : ∀ entry ∈ Status.registry, OneLine entry.2 := by decide +kernel
  exact all entry h

theorem oneLine_reason (s : Status) : OneLine (s.reason?.getD "") := by
  cases h : s.reason? with
  | none => exact (by decide : OneLine "")
  | some reason =>
    obtain ⟨before, after, hregistry, -⟩ := List.lookup_eq_some_iff.mp h
    have hmem : (s.code, reason) ∈ Status.registry := by simp [hregistry]
    exact oneLine_of_mem_registry hmem

/-- The code has no space in it, so the reason is what follows the second one. -/
theorem status?_append (s : Status) :
    status? (utf8 ("HTTP/1.1 " ++ toString s.code ++ " " ++ s.reason?.getD ""))
      = some (s.code, s.reason?.getD "") := by
  have hspace : utf8 " " = [32] := by decide
  have hstart : utf8 "HTTP/1.1 " = utf8 "HTTP/1.1" ++ [32] := by decide
  have hversion : (32 : UInt8) ∉ utf8 "HTTP/1.1" := by decide
  have hcode : (32 : UInt8) ∉ utf8 (toString s.code) := fun hc =>
    have hchar : ' ' ∈ (toString s.code).toList := mem_of_mem_utf8 (by decide) hc
    notMem_toString s.code (by decide) hchar
  have hline : utf8 ("HTTP/1.1 " ++ toString s.code ++ " " ++ s.reason?.getD "")
      = utf8 "HTTP/1.1" ++ 32 :: (utf8 (toString s.code) ++ 32 :: utf8 (s.reason?.getD "")) := by
    rw [utf8_append, utf8_append, utf8_append, hstart, hspace]
    simp [List.append_assoc]
  have hfirst := cut_append hversion [] (utf8 (toString s.code) ++ 32 :: utf8 (s.reason?.getD ""))
  have hsecond := cut_append hcode [] (utf8 (s.reason?.getD ""))
  rw [List.nil_append] at hfirst hsecond
  simp only [status?, hline, hfirst, hsecond, ofUtf8?_utf8, numeral?_toString,
    Option.bind_eq_bind, Option.bind_some, if_true]
  rfl

/-- A message is read back as it is, whatever its body holds. -/
theorem read_message (status : Status) {fields : List Field} (h : ∀ f ∈ fields, Fits f)
    (body : Bytes) :
    read (message status fields body)
      = some ⟨status.code, status.reason?.getD "", fields, body⟩ := by
  have hline : '\r' ∉
      ("HTTP/1.1 " ++ toString status.code ++ " " ++ status.reason?.getD "").toList := by
    simp only [String.toList_append, List.mem_append, not_or]
    exact ⟨⟨⟨by decide, (oneLine_toString status.code).1⟩, by decide⟩, (oneLine_reason status).1⟩
  have hmessage : message status fields body
      = utf8 ("HTTP/1.1 " ++ toString status.code ++ " " ++ status.reason?.getD "" ++ lineEnd)
        ++ (utf8 (String.join (fields.map fieldLine) ++ lineEnd) ++ body) := by
    simp [message, statusLine, List.append_assoc]
  simp only [hmessage, read, line?_append hline, status?_append, fields?_append h,
    Option.bind_eq_bind, Option.bind_some]
  rfl

end Wire

end VariantStore
