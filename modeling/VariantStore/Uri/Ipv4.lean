import VariantStore.Text.Ascii

/-!
# IPv4 addresses

A host whose last label is a number is an address. Up to four numbers stand for it, in decimal,
octal (after `0`) or hexadecimal (after `0x`); the last one fills all the bytes that are left. It is
written as four decimal bytes.
-/

namespace VariantStore.Uri.Ipv4

open Text

/-- Reads one number of an address; `none` if the text is no number. -/
def number? (label : List Char) : Option Nat :=
  match label with
  | [] => none
  | '0' :: 'x' :: digits | '0' :: 'X' :: digits => numeral? 16 digits
  | '0' :: d :: digits => numeral? 8 (d :: digits)
  | digits => numeral? 10 digits

/-- A last label made of digits, or one that reads as a number, makes the host an address. A full
stop at the end does not count. -/
def isAddress (host : List Char) : Bool :=
  let labels := (host.splitOn '.').reverse
  let last :=
    match labels with
    | [] :: last :: _ => last
    | last :: _ => last
    | [] => []
  (!last.isEmpty && last.all fun c => (decimalDigit? c).isSome) || (number? last).isSome

/-- Four numbers at most: each but the last is a byte, and the last fits into what is left. -/
def address? (host : List Char) : Option Nat := do
  let labels := host.splitOn '.'
  let labels := if labels.getLast? = some [] then labels.dropLast else labels
  if 4 < labels.length then none
  else
    let numbers ← labels.mapM number?
    let last ← numbers.getLast?
    let leading := numbers.dropLast
    let bits := 8 * (4 - leading.length)
    if leading.all (fun n => n < 256) && last < 1 <<< bits then
      some (leading.foldl (fun address n => address * 256 + n) 0 <<< bits + last)
    else none

/-- The four bytes in decimal. -/
def render (address : Nat) : String :=
  ".".intercalate ([24, 16, 8, 0].map fun bits => toString ((address >>> bits) % 256))

end VariantStore.Uri.Ipv4
