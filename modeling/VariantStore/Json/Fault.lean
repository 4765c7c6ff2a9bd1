/-!
# Where a document is at fault

A fault is found while the rest of the document is still to be read, so it notes how many bytes are
left at its position. From the document itself this gives line and column, both for the reader:
lines count from one, and the column is the number of bytes before the position in its line.
-/

namespace VariantStore.Json

/-- What is wrong with a document. -/
inductive Cause
  | endInList
  | endInObject
  | endInString
  | endInValue
  | expectedColon
  | expectedListEnd
  | expectedObjectEnd
  | expectedName
  | expectedValue
  | badEscape
  | badNumber
  | numberTooLarge
  | control
  | keyNotString
  | loneSurrogate
  | brokenPair
  | trailingComma
  | trailingText
  /-- The document is well formed, but what it says does not fit. -/
  | misfit (note : String)
deriving DecidableEq

def Cause.message : Cause → String
  | .endInList => "EOF while parsing a list"
  | .endInObject => "EOF while parsing an object"
  | .endInString => "EOF while parsing a string"
  | .endInValue => "EOF while parsing a value"
  | .expectedColon => "expected \x60:\x60"
  | .expectedListEnd => "expected \x60,\x60 or \x60]\x60"
  | .expectedObjectEnd => "expected \x60,\x60 or \x60\x7d\x60"
  | .expectedName => "expected ident"
  | .expectedValue => "expected value"
  | .badEscape => "invalid escape"
  | .badNumber => "invalid number"
  | .numberTooLarge => "number out of range"
  | .control => "control character (\\u0000-\\u001F) found while parsing a string"
  | .keyNotString => "key must be a string"
  | .loneSurrogate => "lone leading surrogate in hex escape"
  | .brokenPair => "unexpected end of hex escape"
  | .trailingComma => "trailing comma"
  | .trailingText => "trailing characters"
  | .misfit note => note

/-- A cause and the number of bytes left at its position. -/
structure Fault where
  cause : Cause
  left : Nat
deriving DecidableEq

/-- What a part of a document says, and what follows it. -/
abbrev Reading (α : Type) := Except Fault (α × List Char)

/-- The number of bytes of a text. -/
def byteSize : List Char → Nat
  | [] => 0
  | c :: rest => c.utf8Size + byteSize rest

/-- A fault before the rest. -/
def faultHere (cause : Cause) (rest : List Char) : Fault := ⟨cause, byteSize rest⟩

/-- A fault at the next byte of the rest, if there is one. -/
def faultAtNext (cause : Cause) (rest : List Char) : Fault := ⟨cause, byteSize rest - 1⟩

/-- Line and column after a number of bytes. -/
def positionAfter (line column : Nat) : Nat → List Char → Nat × Nat
  | _, [] => (line, column)
  | bytes, c :: rest =>
    if bytes < c.utf8Size then (line, column + bytes)
    else if c = '\n' then positionAfter (line + 1) 0 (bytes - c.utf8Size) rest
    else positionAfter line (column + c.utf8Size) (bytes - c.utf8Size) rest

/-- The cause with its line and column. -/
def Fault.message (document : List Char) (f : Fault) : String :=
  let (line, column) := positionAfter 1 0 (byteSize document - f.left) document
  s!"{f.cause.message} at line {line} column {column}"

/-- The blanks of a document. -/
def isBlank (c : Char) : Bool := c == ' ' || c == '\n' || c == '\t' || c == '\r'

def skipBlanks (cs : List Char) : List Char := cs.dropWhile isBlank

end VariantStore.Json
