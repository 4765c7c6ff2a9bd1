import VariantStore.Body.Source

/-!
# Single-use streams

A stream can be read once. Copies of an answer share its stream, so a payload holds only the number
of a stream, and the streams themselves are kept here: an unread one with its source, a consumed one
without. Opening an unread stream hands out its source and consumes it.
-/

namespace VariantStore

/-- All streams, by number. -/
structure Streams where
  sources : List (Option Source) := []
deriving DecidableEq

namespace Streams

/-- Adds an unread stream and gives its number. -/
def add (s : Streams) (source : Source) : Nat × Streams :=
  (s.sources.length, ⟨s.sources ++ [some source]⟩)

/-- Adds a stream that is consumed already. -/
def addConsumed (s : Streams) : Nat × Streams := (s.sources.length, ⟨s.sources ++ [none]⟩)

/-- The source of an unread stream. -/
def unread? (s : Streams) (number : Nat) : Option Source := (s.sources[number]?).join

def isUnread (s : Streams) (number : Nat) : Bool := (s.unread? number).isSome

/-- Consumes a stream. -/
def consume (s : Streams) (number : Nat) : Streams := ⟨s.sources.set number none⟩

end Streams

end VariantStore
