import VariantStore.Message.Request
import VariantStore.Selection.Selector

/-!
# Keys

A stored answer is addressed by the resource it represents and the selector it was chosen by. Keys
are ordered by resource and then by selector; `Key.sorted` lists keys in that order without
repetition.
-/

namespace VariantStore

/-- The address of one stored answer. -/
structure Key where
  resource : ResourceId
  selector : Selector
deriving DecidableEq

namespace Key

/-- The key under which an answer to a request is kept. -/
def ofExchange (request : Request) (answer : Headers) : Key :=
  ⟨request.resource, Selector.ofExchange request.headers answer⟩

/-- The resource, with the selector in brackets unless it is empty. -/
def render (k : Key) : String :=
  if k.selector.isEmpty then k.resource.text
  else k.resource.text ++ " [" ++ k.selector.render ++ "]"

instance : Ord Key where
  compare a b := (compare a.resource b.resource).then (compare a.selector b.selector)

/-- Puts a key in its place among keys in ascending order, unless it is there. -/
def insertSorted (k : Key) : List Key → List Key
  | [] => [k]
  | other :: rest =>
    match compare k other with
    | .lt => k :: other :: rest
    | .eq => other :: rest
    | .gt => other :: insertSorted k rest

/-- The keys of a list in ascending order, each once. -/
def sorted (keys : List Key) : List Key := keys.foldr insertSorted []

end Key

end VariantStore
