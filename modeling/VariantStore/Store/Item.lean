import VariantStore.Message.Response

/-!
# Items

An item is a stored response and the time at which it was stored, in seconds from the epoch.
-/

namespace VariantStore

/-- A stored response. -/
structure Item where
  response : Response
  storedAt : Int
deriving DecidableEq

/-- The seconds that an item has been stored; a clock that went backwards counts as zero. -/
def Item.age (item : Item) (now : Int) : Nat := (now - item.storedAt).toNat

end VariantStore
