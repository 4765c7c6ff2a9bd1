import VariantStore.Json.Number
import VariantStore.Json.StringLiteral
import VariantStore.Settings.Basic
import VariantStore.Text.Quoted

/-!
# Settings as documents

Settings are written as an object with both bounds. They are read from an object that holds each of
the bounds at most once and nothing else, or from a list of at most two; a bound that is left out
has its default. Nothing but blanks may follow.
-/

namespace VariantStore

/-- Why a document gives no settings. -/
inductive SettingsError
  | malformed (fault : Json.Fault) (document : String)
  | zero (error : ZeroBound)
deriving DecidableEq

def SettingsError.message : SettingsError → String
  | .malformed fault document =>
    s!"invalid storage configuration: {fault.message document.toList}"
  | .zero error => error.message

namespace Settings

open Json

/-! ## What is found instead -/

/-- Anything that a document can hold in the place of something else. -/
inductive Found
  | null
  | boolean (value : Bool)
  | number (value : Number)
  | text (value : String)
  | list
  | object

def Found.describe : Found → String
  | .null => "null"
  | .boolean value => s!"boolean \x60{value}\x60"
  | .number (.natural n) => s!"integer \x60{n}\x60"
  | .number (.negative n) => s!"integer \x60-{n}\x60"
  | .number (.real below x) =>
    "floating point \x60" ++ (if below then "-" else "") ++ x.text ++ "\x60"
  | .text value => "string " ++ Text.quoted value
  | .list => "sequence"
  | .object => "map"

def wrongType (found : Found) (expected : String) : Cause :=
  .misfit s!"invalid type: {found.describe}, expected {expected}"

def wrongValue (found : Found) (expected : String) : Cause :=
  .misfit s!"invalid value: {found.describe}, expected {expected}"

def unknownField (name : String) : Cause :=
  .misfit <| "unknown field \x60" ++ name ++ "\x60, expected \x60" ++ Bound.capacity.name
    ++ "\x60 or \x60" ++ Bound.variantCapacity.name ++ "\x60"

def repeatedField (bound : Bound) : Cause :=
  .misfit ("duplicate field \x60" ++ bound.name ++ "\x60")

/-- Reads the rest of a name such as `null`. -/
def readName (found : Found) : List Char → List Char → Reading Found
  | [], rest => .ok (found, rest)
  | _ :: _, [] => .error ⟨.endInValue, 0⟩
  | c :: name, d :: rest =>
    if c = d then readName found name rest else .error (faultAtNext .expectedName (d :: rest))

/-- Reads what stands at the start of a text; of a list or an object only that it is one. -/
def readFound (cs : List Char) : Reading Found :=
  match cs with
  | 'n' :: rest => readName .null "ull".toList rest
  | 't' :: rest => readName (.boolean true) "rue".toList rest
  | 'f' :: rest => readName (.boolean false) "alse".toList rest
  | '-' :: rest => (readNumber true rest).map fun r => (.number r.1, r.2)
  | '"' :: rest => (readString rest).map fun r => (.text r.1, r.2)
  | '[' :: _ => .ok (.list, cs)
  | '{' :: _ => .ok (.object, cs)
  | c :: _ =>
    if c.isDigit then (readNumber false cs).map fun r => (.number r.1, r.2)
    else .error (faultAtNext .expectedValue cs)
  | [] => .error (faultAtNext .expectedValue cs)

/-- The fault of anything that stands where something else is expected. -/
def mismatch (expected : String) (cs : List Char) : Fault :=
  match readFound cs with
  | .error f => f
  | .ok (found, rest) => faultHere (wrongType found expected) rest

/-! ## Reading -/

/-- What a bound has to be. -/
def boundType : String := "usize"

/-- What a document has to be. -/
def documentType : String := "struct StorageConfig"

/-- Reads a bound. -/
def readBound (cs : List Char) : Reading Nat :=
  match skipBlanks cs with
  | [] => .error ⟨.endInValue, 0⟩
  | c :: cs =>
    if c = '-' ∨ c.isDigit then
      match if c = '-' then readNumber true cs else readNumber false (c :: cs) with
      | .error f => .error f
      | .ok (.natural n, rest) => .ok (n, rest)
      | .ok (.negative n, rest) =>
        .error (faultHere (wrongValue (.number (.negative n)) boundType) rest)
      | .ok (.real below x, rest) =>
        .error (faultHere (wrongType (.number (.real below x)) boundType) rest)
    else .error (mismatch boundType (c :: cs))

/-- The bounds given so far. -/
structure Given where
  capacity : Option Nat := none
  variantCapacity : Option Nat := none
deriving DecidableEq

namespace Given

def get? (g : Given) : Bound → Option Nat
  | .capacity => g.capacity
  | .variantCapacity => g.variantCapacity

def set (g : Given) (bound : Bound) (n : Nat) : Given :=
  match bound with
  | .capacity => { g with capacity := some n }
  | .variantCapacity => { g with variantCapacity := some n }

/-- The number of bounds that are still to come. -/
def missing (g : Given) : Nat :=
  g.capacity.elim 1 (fun _ => 0) + g.variantCapacity.elim 1 (fun _ => 0)

theorem missing_set_lt {g : Given} {bound : Bound} (n : Nat) (h : (g.get? bound).isSome = false) :
    (g.set bound n).missing < g.missing := by
  obtain ⟨capacity, variantCapacity⟩ := g
  cases bound <;> cases capacity <;> cases variantCapacity <;>
    simp_all [get?, set, missing, Option.elim]

/-- The settings, with the defaults for what is missing. -/
def settings (g : Given) : Settings :=
  let standard : Settings := {}
  ⟨g.capacity.getD standard.capacity, g.variantCapacity.getD standard.variantCapacity⟩

end Given

def boundOfName? (name : String) : Option Bound :=
  if name = Bound.capacity.name then some .capacity
  else if name = Bound.variantCapacity.name then some .variantCapacity
  else none

/-- A key that does not fit is only noticed once the object, should it end there, has ended. -/
def faultAfterKey (cause : Cause) (rest : List Char) : Fault :=
  match skipBlanks rest with
  | '}' :: rest => faultHere cause rest
  | rest => faultHere cause rest

/-- What comes next in an object: its end, or a key, without its opening quote. -/
def readKeyStart (first : Bool) (cs : List Char) : Reading Bool :=
  match skipBlanks cs with
  | [] => .error ⟨.endInObject, 0⟩
  | '}' :: rest => .ok (false, rest)
  | '"' :: rest =>
    if first then .ok (true, rest) else .error (faultAtNext .expectedObjectEnd ('"' :: rest))
  | ',' :: rest =>
    if first then .error (faultAtNext .keyNotString (',' :: rest))
    else
      match skipBlanks rest with
      | [] => .error ⟨.endInValue, 0⟩
      | '"' :: rest => .ok (true, rest)
      | '}' :: rest => .error (faultAtNext .trailingComma ('}' :: rest))
      | rest => .error (faultAtNext .keyNotString rest)
  | rest => .error (faultAtNext (if first then .keyNotString else .expectedObjectEnd) rest)

/-- Reads a bound after its key. -/
def readColonBound (cs : List Char) : Reading Nat :=
  match skipBlanks cs with
  | [] => .error ⟨.endInObject, 0⟩
  | ':' :: rest => readBound rest
  | rest => .error (faultAtNext .expectedColon rest)

/-- Reads the members of an object up to its end. Every round fills one of the bounds. -/
def readMembers (given : Given) (first : Bool) (cs : List Char) : Reading Given :=
  match readKeyStart first cs with
  | .error f => .error f
  | .ok (false, rest) => .ok (given, rest)
  | .ok (true, rest) =>
    match readString rest with
    | .error f => .error f
    | .ok (name, rest) =>
      match boundOfName? name with
      | none => .error (faultAfterKey (unknownField name) rest)
      | some bound =>
        match h : (given.get? bound).isSome with
        | true => .error (faultAfterKey (repeatedField bound) rest)
        | false =>
          match readColonBound rest with
          | .error f => .error f
          | .ok (n, rest) =>
            have := Given.missing_set_lt n h
            readMembers (given.set bound n) false rest
termination_by given.missing

/-- What comes next in a list: its end, or an element. The end stays where it is. -/
def readElementStart (first : Bool) (cs : List Char) : Reading Bool :=
  match skipBlanks cs with
  | [] => .error ⟨.endInList, 0⟩
  | ']' :: rest => .ok (false, ']' :: rest)
  | ',' :: rest =>
    if first then .ok (true, ',' :: rest)
    else
      match skipBlanks rest with
      | [] => .error ⟨.endInValue, 0⟩
      | ']' :: rest => .error (faultAtNext .trailingComma (']' :: rest))
      | rest => .ok (true, rest)
  | rest => if first then .ok (true, rest) else .error (faultAtNext .expectedListEnd rest)

/-- Reads the next element of a list, if there is one. -/
def readElement (first : Bool) (cs : List Char) : Reading (Option Nat) :=
  match readElementStart first cs with
  | .error f => .error f
  | .ok (false, rest) => .ok (none, rest)
  | .ok (true, rest) => (readBound rest).map fun r => (some r.1, r.2)

/-- The end of a list that may hold no more. -/
def readListEnd (cs : List Char) : Except Fault (List Char) :=
  match skipBlanks cs with
  | [] => .error ⟨.endInList, 0⟩
  | ']' :: rest => .ok rest
  | ',' :: rest =>
    match skipBlanks rest with
    | ']' :: rest => .error (faultAtNext .trailingComma (']' :: rest))
    | rest => .error (faultAtNext .trailingText rest)
  | rest => .error (faultAtNext .trailingText rest)

/-- Reads the elements of a list, in the order of the bounds. -/
def readElements (cs : List Char) : Except Fault (Given × List Char) := do
  let (capacity, rest) ← readElement true cs
  let (variantCapacity, rest) ← readElement capacity.isNone rest
  let rest ← readListEnd rest
  return (⟨capacity, variantCapacity⟩, rest)

/-- Reads an object or a list. -/
def readGiven (cs : List Char) : Reading Given :=
  match skipBlanks cs with
  | [] => .error ⟨.endInValue, 0⟩
  | '[' :: rest => readElements rest
  | '{' :: rest => readMembers {} true rest
  | rest => .error (mismatch documentType rest)

/-- Reads a whole document. -/
def readDocument (document : String) : Except Fault Settings := do
  let (given, rest) ← readGiven document.toList
  match skipBlanks rest with
  | [] => return given.settings
  | rest => throw (faultAtNext .trailingText rest)

/-- The settings that a document gives; both bounds are at least one. -/
def ofDocument (document : String) : Except SettingsError Settings :=
  match readDocument document with
  | .error fault => .error (.malformed fault document)
  | .ok settings =>
    match settings.bounds with
    | .error e => .error (.zero e)
    | .ok _ => .ok settings

/-! ## Writing -/

/-- Writes one bound. -/
def renderBound (bound : Bound) (n : Nat) : String := "\"" ++ bound.name ++ "\":" ++ toString n

/-- Writes settings as an object with both bounds. -/
def render (s : Settings) : String :=
  "\x7b" ++ renderBound .capacity s.capacity ++ ","
    ++ renderBound .variantCapacity s.variantCapacity ++ "\x7d"

end Settings

end VariantStore
