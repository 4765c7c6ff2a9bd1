/-!
# Status codes

A response carries a three-digit status code. Codes of the registry have a reason phrase;
every other three-digit code is kept as it is, without one.
-/

namespace VariantStore

/-- A three-digit status code. -/
structure Status where
  code : Nat
  threeDigits : 100 ≤ code ∧ code ≤ 999
deriving DecidableEq

/-- A number that is no status code. -/
structure InvalidStatus where
  code : Nat
deriving DecidableEq

/-- The wording of the error. -/
def InvalidStatus.message (e : InvalidStatus) : String :=
  s!"invalid status code {e.code}: must be a three-digit number"

namespace Status

/-- Accepts the numbers from 100 to 999. -/
def ofNat (code : Nat) : Except InvalidStatus Status :=
  if h : 100 ≤ code ∧ code ≤ 999 then .ok ⟨code, h⟩ else .error ⟨code⟩

/-- The registered codes with their reason phrases, in ascending order. -/
def registry : List (Nat × String) := [
  (100, "Continue"), (101, "Switching Protocols"),
  (200, "OK"), (201, "Created"), (202, "Accepted"), (203, "Non-Authoritative Information"),
  (204, "No Content"), (206, "Partial Content"),
  (300, "Multiple Choices"), (301, "Moved Permanently"), (302, "Found"), (303, "See Other"),
  (304, "Not Modified"), (307, "Temporary Redirect"), (308, "Permanent Redirect"),
  (400, "Bad Request"), (401, "Unauthorized"), (403, "Forbidden"), (404, "Not Found"),
  (405, "Method Not Allowed"), (409, "Conflict"), (410, "Gone"), (411, "Length Required"),
  (413, "Payload Too Large"), (414, "URI Too Long"), (415, "Unsupported Media Type"),
  (422, "Unprocessable Entity"), (429, "Too Many Requests"),
  (500, "Internal Server Error"), (501, "Not Implemented"), (502, "Bad Gateway"),
  (503, "Service Unavailable"), (504, "Gateway Timeout"), (505, "HTTP Version Not Supported")]

/-- The reason phrase of a registered code. -/
def reason? (s : Status) : Option String := registry.lookup s.code

/-- The name a registered code goes by: its reason phrase in capitals, with an underscore for
each space and hyphen. -/
def label (reason : String) : String :=
  reason.map fun c => if c == ' ' || c == '-' then '_' else c.toUpper

/-- Interim answers have a code below 200. -/
def isInformational (s : Status) : Bool := s.code < 200

def ok : Status := ⟨200, by decide⟩
def noContent : Status := ⟨204, by decide⟩
def notModified : Status := ⟨304, by decide⟩

/-- Interim answers, `204` and `304` never carry a body. -/
def permitsBody (s : Status) : Bool :=
  !(s.isInformational || s == noContent || s == notModified)

/-- The code, followed by its reason phrase if it has one. -/
def render (s : Status) : String :=
  match s.reason? with
  | some reason => s!"{s.code} {reason}"
  | none => toString s.code

/-- Every registered code, as a status. -/
def registered : List Status := registry.filterMap fun entry => (ofNat entry.1).toOption

/-- A status is its code. -/
theorem code_inj {s t : Status} : s.code = t.code ↔ s = t := by
  constructor
  · intro h
    cases s
    cases t
    cases h
    rfl
  · exact congrArg code

theorem permitsBody_eq_true_iff {s : Status} :
    s.permitsBody = true ↔ 200 ≤ s.code ∧ s.code ≠ 204 ∧ s.code ≠ 304 := by
  have hnoContent : s = noContent ↔ s.code = 204 := code_inj.symm
  have hnotModified : s = notModified ↔ s.code = 304 := code_inj.symm
  simp [permitsBody, isInformational, hnoContent, hnotModified, and_assoc]

end Status

end VariantStore
