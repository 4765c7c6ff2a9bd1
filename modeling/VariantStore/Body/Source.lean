import VariantStore.Text.Utf8

/-!
# Sources of bytes

A source is what successive reads will give: some bytes, or a failure. It ends with its list, or
with a read that gives no bytes. An interrupted read is tried again; any other failure ends the
reading.

`drain` reads to the end. `drainUpTo` stops as soon as its quota is used up, so it never sees what
comes after. Both say what is left, and nothing is lost between what was read and what is left.
-/

namespace VariantStore

/-- The kinds of failure that a read can have. -/
inductive IoKind
  | notFound
  | permissionDenied
  | connectionReset
  | brokenPipe
  | wouldBlock
  | invalidData
  | timedOut
  | interrupted
  | unexpectedEof
  | other
deriving DecidableEq

/-- A failure to read. -/
structure IoError where
  kind : IoKind
  message : String
deriving DecidableEq

/-- What one read finds. -/
inductive Piece
  | bytes (content : Bytes)
  | failure (error : IoError)
deriving DecidableEq

/-- What successive reads find. -/
abbrev Source := List Piece

/-- What reading gave: the bytes, the failure that ended it, if one did, and what is left. -/
structure Drained where
  bytes : Bytes
  failure : Option IoError
  rest : Source
deriving DecidableEq

namespace Drained

/-- More bytes in front. -/
def prepend (content : Bytes) (d : Drained) : Drained := { d with bytes := content ++ d.bytes }

/-- The bytes, unless a failure ended the reading. -/
def result (d : Drained) : Except IoError Bytes :=
  match d.failure with
  | some e => .error e
  | none => .ok d.bytes

end Drained

namespace Source

/-- A source that holds the given bytes. -/
def ofBytes (content : Bytes) : Source := [.bytes content]

/-- Reads to the end. -/
def drain : Source → Drained
  | [] => ⟨[], none, []⟩
  | .bytes content :: rest =>
    if content.isEmpty then ⟨[], none, rest⟩ else (drain rest).prepend content
  | .failure e :: rest => if e.kind = .interrupted then drain rest else ⟨[], some e, rest⟩

/-- Reads to the end or until the quota is used up. -/
def drainUpTo (quota : Nat) : Source → Drained
  | [] => ⟨[], none, []⟩
  | .bytes content :: rest =>
    if quota = 0 then ⟨[], none, .bytes content :: rest⟩
    else if content.isEmpty then ⟨[], none, rest⟩
    else if quota < content.length then
      ⟨content.take quota, none, .bytes (content.drop quota) :: rest⟩
    else (drainUpTo (quota - content.length) rest).prepend content
  | .failure e :: rest =>
    if quota = 0 then ⟨[], none, .failure e :: rest⟩
    else if e.kind = .interrupted then drainUpTo quota rest
    else ⟨[], some e, rest⟩

/-- The largest number of bytes that a quota can name. -/
def maxQuota : Nat := UInt64.size - 1

/-- The quota for a limit: one byte more shows that the limit is exceeded. -/
def quotaFor (limit : Nat) : Nat := min (limit + 1) maxQuota

def limitExceeded (limit : Nat) : IoError := ⟨.invalidData, s!"payload exceeds {limit} bytes"⟩

/-- No more bytes than the limit. -/
def within (limit : Nat) (content : Bytes) : Except IoError Bytes :=
  if limit < content.length then .error (limitExceeded limit) else .ok content

/-- Collects all bytes; with a limit, more bytes than that are refused. What was not read is left.
-/
def collect (limit : Option Nat) (source : Source) : Except IoError Bytes × Source :=
  match limit with
  | none =>
    let drained := source.drain
    (drained.result, drained.rest)
  | some limit =>
    let drained := source.drainUpTo (quotaFor limit)
    (drained.result.bind (within limit), drained.rest)

theorem drain_ofBytes (content : Bytes) : (ofBytes content).drain.result = .ok content := by
  unfold ofBytes drain
  split <;> simp_all [drain, Drained.result, Drained.prepend]

/-- A quota bounds what is read. -/
theorem length_drainUpTo_le (quota : Nat) (source : Source) :
    (source.drainUpTo quota).bytes.length ≤ quota := by
  induction source generalizing quota with
  | nil => simp [drainUpTo]
  | cons piece rest ih =>
    cases piece with
    | bytes content =>
      unfold drainUpTo
      split
      · simp
      · split
        · simp
        · split
          · simp only [List.length_take]
            omega
          · have := ih (quota - content.length)
            simp only [Drained.prepend, List.length_append]
            omega
    | failure e =>
      unfold drainUpTo
      split
      · simp
      · split
        · exact ih quota
        · simp

end Source

end VariantStore
