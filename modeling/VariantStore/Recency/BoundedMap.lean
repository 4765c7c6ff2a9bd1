/-!
# Bounded maps that forget the least recently written entry

A bounded map is a list of entries, the most recently written one first, with a capacity of at
least one. Only writes move an entry to the front: `put`, and `entry` with its insertion on demand.
Reads and in-place changes leave the order alone.

A write of a new key into a full map evicts the last entry of the list. The two writes are
independent: `put` looks at the key first, `entry` makes room first and then brings the key to the
front.
-/

namespace VariantStore

/-- At most `capacity` entries with distinct keys, the most recently written first. -/
structure BoundedMap (κ ν : Type) where
  capacity : Nat
  entries : List (κ × ν)
deriving DecidableEq

namespace BoundedMap

variable {κ ν : Type}

/-- The map of the given capacity that holds nothing. -/
def empty (capacity : Nat) : BoundedMap κ ν := ⟨capacity, []⟩

def size (m : BoundedMap κ ν) : Nat := m.entries.length

def isEmpty (m : BoundedMap κ ν) : Bool := m.entries.isEmpty

/-- The keys, the most recently written first. -/
def keys (m : BoundedMap κ ν) : List κ := m.entries.map Prod.fst

/-- The values, the most recently written first. -/
def values (m : BoundedMap κ ν) : List ν := m.entries.map Prod.snd

/-- The size and capacity in words. -/
def describe (m : BoundedMap κ ν) : String :=
  s!"BoundedLruMap \x7b len: {m.size}, capacity: {m.capacity} \x7d"

/-- Takes out every entry. -/
def clear (m : BoundedMap κ ν) : BoundedMap κ ν := empty m.capacity

variable [DecidableEq κ]

def get? (m : BoundedMap κ ν) (key : κ) : Option ν :=
  (m.entries.find? fun e => e.1 == key).map Prod.snd

def contains (m : BoundedMap κ ν) (key : κ) : Bool := m.entries.any fun e => e.1 == key

/-- Takes out a key; the other entries keep their order. -/
def erase (m : BoundedMap κ ν) (key : κ) : BoundedMap κ ν :=
  { m with entries := m.entries.filter fun e => e.1 != key }

/-- Changes the value of a key where it stands. -/
def modify (m : BoundedMap κ ν) (key : κ) (change : ν → ν) : BoundedMap κ ν :=
  { m with entries := m.entries.map fun e => if e.1 == key then (e.1, change e.2) else e }

/-- What a write leaves: the evicted entry, if any, and the map. -/
structure Put (κ ν : Type) where
  evicted : Option (κ × ν)
  map : BoundedMap κ ν

/-- Writes a value under a key and puts the entry in front. A key that is present is replaced;
a new key evicts the last entry of a full map. -/
def put (m : BoundedMap κ ν) (key : κ) (value : ν) : Put κ ν :=
  if m.contains key then
    ⟨none, { m with entries := (key, value) :: (m.erase key).entries }⟩
  else if m.size < m.capacity then
    ⟨none, { m with entries := (key, value) :: m.entries }⟩
  else
    ⟨m.entries.getLast?, { m with entries := (key, value) :: m.entries.dropLast }⟩

/-- What bringing a key to the front leaves: the value found or made, whether it was made,
the evicted entry, if any, and the map. -/
structure Entry (κ ν : Type) where
  value : ν
  made : Bool
  evicted : Option (κ × ν)
  map : BoundedMap κ ν

/-- Takes the last entry out of a full map that lacks the key. -/
def makeRoom (m : BoundedMap κ ν) (key : κ) : Put κ ν :=
  if m.size = m.capacity ∧ m.contains key = false then
    ⟨m.entries.getLast?, { m with entries := m.entries.dropLast }⟩
  else ⟨none, m⟩

/-- Brings a key to the front, making its value if the key is absent. Room is made first, so a new
key evicts the last entry of a full map. -/
def entry (m : BoundedMap κ ν) (key : κ) (make : Unit → ν) : Entry κ ν :=
  let room := m.makeRoom key
  match room.map.get? key with
  | some value =>
    ⟨value, false, room.evicted,
      { room.map with entries := (key, value) :: (room.map.erase key).entries }⟩
  | none =>
    let value := make ()
    ⟨value, true, room.evicted, { room.map with entries := (key, value) :: room.map.entries }⟩

/-! ## Reads agree -/

theorem contains_iff_mem_keys {m : BoundedMap κ ν} {key : κ} :
    m.contains key = true ↔ key ∈ m.keys := by
  simp [contains, keys]

@[simp] theorem keys_modify (m : BoundedMap κ ν) (key : κ) (change : ν → ν) :
    (m.modify key change).keys = m.keys := by
  simp only [modify, keys, List.map_map]
  congr 1
  funext e
  simp only [Function.comp_apply]
  split <;> rfl

@[simp] theorem capacity_put (m : BoundedMap κ ν) (key : κ) (value : ν) :
    (m.put key value).map.capacity = m.capacity := by
  unfold put
  split
  · rfl
  · split <;> rfl

/-- A written key is found with the value written. -/
@[simp] theorem get?_put_self (m : BoundedMap κ ν) (key : κ) (value : ν) :
    (m.put key value).map.get? key = some value := by
  unfold put
  split
  · simp [get?]
  · split <;> simp [get?]

end BoundedMap

end VariantStore
