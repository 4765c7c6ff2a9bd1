import VariantStore.Uri.Percent
import VariantStore.Uri.Scheme

/-!
# Path segments

A path is split at its slashes and walked down from the root, segment by segment. `.` names the
segment it stands in and `..` the one above, in these or percent-encoded characters; both are
resolved on the way. The root stays the root, and a drive is never left through `..`.

In the path of a file a drive letter at the root is a segment of its own, written with a colon, and
a drive is on no host.
-/

namespace VariantStore.Uri

/-! ## Segments -/

/-- Reads `%2e` as a full stop, in either case. -/
def plainStops : List Char → List Char
  | '%' :: '2' :: 'e' :: rest => '.' :: plainStops rest
  | '%' :: '2' :: 'E' :: rest => '.' :: plainStops rest
  | c :: rest => c :: plainStops rest
  | [] => []

def isSingleDot (segment : List Char) : Bool := plainStops segment == ['.']

def isDoubleDot (segment : List Char) : Bool := plainStops segment == ['.', '.']

/-- The name of a drive. -/
def driveName (letter : Char) : String := String.ofList [letter, ':']

/-- The drive that a segment stands for: a letter and a colon or a bar. -/
def drive? (segment : List Char) : Option String :=
  match segment with
  | [letter, mark] =>
    if letter.isAlpha && (mark == ':' || mark == '|') then some (driveName letter) else none
  | _ => none

/-- A drive and more after it, where breaks follow the colon: they set the two apart. -/
def cutDrive? (segment : List Char) : Option (String × List Char) :=
  match segment.dropWhile isBreak with
  | [] => none
  | letter :: rest =>
    match rest.dropWhile isBreak with
    | ':' :: more =>
      if letter.isAlpha && more.head?.any isBreak && !(dropBreaks more).isEmpty then
        some (driveName letter, dropBreaks more)
      else none
    | _ => none

/-- A drive, or a name that begins like one and goes on with a backslash. -/
def beginsWithDrive (name : List Char) : Bool :=
  (drive? (name.takeWhile (· != '\\'))).isSome

/-! ## Walks -/

/-- Where a walk down a path has come. -/
structure Walk where
  /-- The names of the segments, the last one first. -/
  names : List String := []
  /-- Whether a drive was entered from the root. -/
  onDrive : Bool := false

namespace Walk

/-- Goes down to a segment. -/
def down (name : String) (w : Walk) : Walk := { w with names := name :: w.names }

/-- Leaves the last segment, unless it is a drive. -/
def up (w : Walk) : Walk :=
  match w.names with
  | [] => w
  | last :: above => if beginsWithDrive last.toList then w else { w with names := above }

/-- Goes down to the drive that a segment of a file begins with at the root, if it does, and then to
what is left of the segment. -/
def enter (isFile : Bool) (w : Walk) (segment : List Char) : Walk :=
  let name := dropBreaks segment
  if isFile && w.names.isEmpty then
    match drive? name, cutDrive? segment with
    | some drive, _ => { w.down drive with onDrive := true }
    | none, some (drive, more) => (w.down drive).down (encoded pathSet more)
    | none, none => w.down (encoded pathSet name)
  else w.down (encoded pathSet name)

/-- Follows one segment. -/
def step (isFile : Bool) (w : Walk) (segment : List Char) : Walk :=
  if isDoubleDot (dropBreaks segment) then w.up
  else if isSingleDot (dropBreaks segment) then w
  else w.enter isFile segment

/-- Follows all segments from the root. Dots at the end leave an empty segment, so that the path
still ends in a slash. -/
def along (isFile : Bool) (segments : List (List Char)) : Walk :=
  let w := segments.foldl (step isFile) {}
  match segments.getLast?.map dropBreaks with
  | some last => if isDoubleDot last || isSingleDot last then w.down "" else w
  | none => w

end Walk

/-! ## Paths -/

/-- The segments of a path. A slash at the start says nothing more than that the path begins. -/
def segments (special : Bool) (text : List Char) : List String :=
  let relative :=
    match text with
    | c :: rest => if isSlash special c then rest else text
    | [] => text
  (Walk.along false (relative.splitOnP (isSlash special))).names.reverse

/-- The segments of the path of a file, which never begins with an empty one, unless that is all of
it; and whether the path is on a drive. -/
def fileSegments (text : List Char) : List String × Bool :=
  let w := Walk.along true (text.splitOnP (isSlash true))
  match w.names.reverse.dropWhile String.isEmpty with
  | [] => ([""], w.onDrive)
  | names => (names, w.onDrive)

end VariantStore.Uri
