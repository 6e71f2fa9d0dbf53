/-!
# A cache of bounded size

The cache holds at most `capacity` keys, from the least to the most recently used. A key may be held
with nothing in it. Reading or storing a key makes it the most recent one, and storing a new key in
a full cache drops the least recent one.

* `get` and `contains` look a key up; only `get` counts as a use.
* `getOrCreate` reads a key and, if it has no value, makes one and stores it.
-/

namespace Reflow

/-- A cache of values by key, least recently used first. -/
structure Cache (α : Type) where
  capacity : Nat
  entries : List (String × Option α)
  hits : Nat
  misses : Nat
deriving Repr

namespace Cache

variable {α ε : Type}

/-- An empty cache. -/
def empty (capacity : Nat) : Cache α := ⟨capacity, [], 0, 0⟩

/-- Why a cache cannot be made. -/
inductive CapacityError where
  | tooSmall
deriving DecidableEq, Repr

/-- The message for a capacity under one. -/
def CapacityError.message : CapacityError → String
  | tooSmall => "max_size must be at least 1"

/-- A cache of a capacity that must be at least one. -/
def create (capacity : Int) : Except CapacityError (Cache α) :=
  if capacity < 1 then .error .tooSmall else .ok (empty capacity.toNat)

/-- The keys, least recently used first. -/
def keys (c : Cache α) : List String := c.entries.map (·.1)

/-- Whether a key is held. -/
def contains (c : Cache α) (key : String) : Bool := c.keys.contains key

/-- The entries without those of a key. -/
def without (c : Cache α) (key : String) : List (String × Option α) :=
  c.entries.filter (·.1 ≠ key)

/-- Reads a key, which makes it the most recent one. -/
def get (c : Cache α) (key : String) : Option α × Cache α :=
  match c.entries.lookup key with
  | none => (none, { c with misses := c.misses + 1 })
  | some value =>
    (value, { c with entries := c.without key ++ [(key, value)], hits := c.hits + 1 })

/-- Stores a value, or nothing, under a key. -/
def put (c : Cache α) (key : String) (value : Option α) : Cache α :=
  let kept :=
    if c.contains key then c.without key
    else if c.capacity ≤ c.entries.length then c.entries.drop 1
    else c.entries
  { c with entries := kept ++ [(key, value)] }

/-- The value under a key. If there is none it is made and stored; a failure stores nothing. -/
def getOrCreate (c : Cache α) (key : String) (make : Unit → Except ε (Option α)) :
    Except ε (Option α) × Cache α :=
  match c.get key with
  | (some value, read) => (.ok (some value), read)
  | (none, read) =>
    match make () with
    | .ok value => (.ok value, read.put key value)
    | .error e => (.error e, read)

/-- The cache without its entries and counts. -/
def clear (c : Cache α) : Cache α := empty c.capacity

end Cache

end Reflow
