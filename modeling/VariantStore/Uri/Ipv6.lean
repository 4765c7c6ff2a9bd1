import VariantStore.Text.Ascii

/-!
# IPv6 addresses

An address has eight pieces of sixteen bits, in hexadecimal with colons between. One run of zero
pieces may be left out, which leaves two colons; the last two pieces may be written as the four
decimal bytes of an IPv4 address. The written form leaves out the first of the longest runs of at
least two zero pieces.
-/

namespace VariantStore.Uri.Ipv6

open Text

/-- A decimal byte without leading zeros. -/
def byte? (digits : List Char) : Option Nat :=
  match digits with
  | [] => none
  | '0' :: _ :: _ => none
  | _ =>
    match numeral? 10 digits with
    | some n => if n < 256 then some n else none
    | none => none

/-- Four decimal bytes, as two pieces. -/
def embedded? (text : List Char) : Option (List Nat) :=
  match (text.splitOn '.').mapM byte? with
  | some [a, b, c, d] => some [a * 256 + b, c * 256 + d]
  | _ => none

/-- The pieces read and where a run of zeros is left out. A piece of zero stands for the run. -/
structure Pieces where
  pieces : List Nat
  gap : Option Nat

/-- Reads pieces up to the end. -/
def readPieces (seen : Pieces) (cs : List Char) : Option Pieces :=
  match cs with
  | [] => some seen
  | ':' :: rest =>
    if seen.pieces.length = 8 ∨ seen.gap.isSome then none
    else readPieces ⟨seen.pieces ++ [0], some (seen.pieces.length + 1)⟩ rest
  | c :: cs =>
    if seen.pieces.length = 8 then none
    else
      let digits := ((c :: cs).take 4).takeWhile fun d => (hexDigit? d).isSome
      let value := (numeral? 16 digits).getD 0
      match h : (c :: cs).drop digits.length with
      | [] => some { seen with pieces := seen.pieces ++ [value] }
      | ':' :: d :: rest =>
        have : rest.length < cs.length := by
          have := congrArg List.length h
          simp only [List.length_drop, List.length_cons] at this
          omega
        readPieces { seen with pieces := seen.pieces ++ [value] } (d :: rest)
      | '.' :: _ =>
        if digits.isEmpty || 6 < seen.pieces.length then none
        else (embedded? (c :: cs)).map fun two => { seen with pieces := seen.pieces ++ two }
      | _ => none
termination_by cs.length

/-- Reads an address as its eight pieces. -/
def address? (text : List Char) : Option (List Nat) := do
  let seen ←
    match text with
    | ':' :: ':' :: rest => readPieces ⟨[0], some 1⟩ rest
    | ':' :: _ => none
    | [] | [_] => none
    | _ => readPieces ⟨[], none⟩ text
  match seen.gap with
  | some gap =>
    some (seen.pieces.take gap ++ List.replicate (8 - seen.pieces.length) 0 ++ seen.pieces.drop gap)
  | none => if seen.pieces.length = 8 then some seen.pieces else none

/-! ## The written form -/

/-- The first of the longest runs of zero pieces: its start and its length. -/
def longestZeros (pieces : List Nat) : Nat × Nat :=
  (List.range pieces.length).foldl (fun best start =>
    let run := ((pieces.drop start).takeWhile (· == 0)).length
    if best.2 < run then (start, run) else best) (0, 0)

def hexPiece (n : Nat) : String := String.ofList (Nat.toDigits 16 n)

def joinPieces (pieces : List Nat) : String := ":".intercalate (pieces.map hexPiece)

def render (pieces : List Nat) : String :=
  let (start, run) := longestZeros pieces
  if run < 2 then joinPieces pieces
  else joinPieces (pieces.take start) ++ "::" ++ joinPieces (pieces.drop (start + run))

end VariantStore.Uri.Ipv6
