import VariantStore.Text.Ascii

/-!
# Tables of code points

Character properties are data, written as text: one entry per word, code points in hexadecimal.

* `300-36F` is an interval and `5BF` a single code point.
* `300-314:230` gives an interval a label.
* `BC>31.2044.34,31.2044.32` lists the images of consecutive code points, each a sequence joined by
  full stops. `C0-D6>E0` maps an interval to consecutive code points, and `100-12E/2>101` does so
  for every second one.

A look-up takes the first entry that holds the code point, so the order of the entries would decide
between two of them; the tables hold no code point twice.
-/

namespace VariantStore.Unicode

open Text

/-! ## Intervals -/

/-- The code points from `first` to `last`. -/
structure Interval where
  first : Nat
  last : Nat
deriving DecidableEq

def Interval.holds (i : Interval) (n : Nat) : Bool := i.first ≤ n && n ≤ i.last

def hexadecimal (digits : List Char) : Nat := (numeral? 16 digits).getD 0

def decimal (digits : List Char) : Nat := (numeral? 10 digits).getD 0

def interval (word : List Char) : Interval :=
  match word.splitOn '-' with
  | [first, last] => ⟨hexadecimal first, hexadecimal last⟩
  | _ => ⟨hexadecimal word, hexadecimal word⟩

/-- The words of a text, set apart by spaces and line ends. -/
def words (text : String) : List (List Char) :=
  (text.toList.splitOnP fun c => c == ' ' || c == '\n').filter fun word => !word.isEmpty

/-- A set of code points, written as intervals. -/
def intervals (text : String) : List Interval := (words text).map interval

def inTable (table : List Interval) (c : Char) : Bool := table.any fun i => i.holds c.toNat

/-! ## Labels -/

/-- An interval whose code points share a property. -/
structure Labelled (α : Type) where
  interval : Interval
  label : α

/-- Intervals with labels, each label read by `read`. -/
def labelled {α : Type} (read : List Char → α) (text : String) : List (Labelled α) :=
  (words text).map fun word =>
    match word.splitOn ':' with
    | [codes, label] => ⟨interval codes, read label⟩
    | _ => ⟨interval word, read []⟩

def labelOf? {α : Type} (table : List (Labelled α)) (c : Char) : Option α :=
  (table.find? fun e => e.interval.holds c.toNat).map Labelled.label

/-! ## Images -/

/-- What the code points of an interval map to. -/
inductive Images
  | shifted (first : Nat)
  | listed (images : List (List Char))

/-- The images of every `step`-th code point of an interval. -/
structure Assignment where
  interval : Interval
  step : Nat
  images : Images

def image (word : List Char) : List Char :=
  (word.splitOn '.').map fun digits => Char.ofNat (hexadecimal digits)

def assignment (word : List Char) : Assignment :=
  match word.splitOn '>' with
  | [source, target] =>
    match source.splitOn '/' with
    | [codes, step] => ⟨interval codes, decimal step, .shifted (hexadecimal target)⟩
    | _ =>
      if source.contains '-' then ⟨interval source, 1, .shifted (hexadecimal target)⟩
      else
        let images := (target.splitOn ',').map image
        ⟨⟨hexadecimal source, hexadecimal source + images.length - 1⟩, 1, .listed images⟩
  | _ => ⟨interval word, 1, .listed []⟩

def assignments (text : String) : List Assignment := (words text).map assignment

/-- The image of a code point under one entry. -/
def Assignment.imageOf? (a : Assignment) (n : Nat) : Option (List Char) :=
  if a.interval.holds n && (n - a.interval.first) % a.step == 0 then
    match a.images with
    | .shifted target => some [Char.ofNat (target + (n - a.interval.first))]
    | .listed images => images[n - a.interval.first]?
  else none

def imageOf? (table : List Assignment) (c : Char) : Option (List Char) :=
  table.findSome? fun a => a.imageOf? c.toNat

/-- All code points of a table with their images, where those are listed. -/
def listedImages (table : List Assignment) : List (Char × List Char) :=
  table.flatMap fun a =>
    match a.images with
    | .listed images =>
      images.mapIdx fun k image => (Char.ofNat (a.interval.first + k), image)
    | .shifted _ => []

end VariantStore.Unicode
