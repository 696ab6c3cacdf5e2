import Blocklist.Declarative.Basic
import Blocklist.Digest

/-!
Ids of declarative rules. An id derives from the text of its rule, so the same list always
gets the same ids; a taken id is avoided by salting the text.
-/

namespace Blocklist

/-- The ids in use, without repetition, the latest first. -/
structure IdPool where
  taken : List UInt32 := []
  deriving DecidableEq, Repr

namespace IdPool

/-- The pool without an id. -/
def empty : IdPool := {}

/-- Whether an id is in use. -/
def contains (pool : IdPool) (id : UInt32) : Bool :=
  pool.taken.contains id

/-- How many ids are in use. -/
def size (pool : IdPool) : Nat :=
  pool.taken.length

/-- Marks an id as used, and tells whether it was free. -/
def reserve (pool : IdPool) (id : UInt32) : Bool × IdPool :=
  if pool.contains id then (false, pool) else (true, ⟨id :: pool.taken⟩)

/-- The id that a text stands for. -/
def textId (text : String) : UInt32 :=
  Digest.ofText text &&& Declarative.maxId

/-- A text with a salt: zero leaves it alone, any other number is written after it. -/
def salted (text : String) (salt : Nat) : String :=
  if salt = 0 then text else text ++ toString salt

/-- Whether an id can be given away. -/
def isFree (pool : IdPool) (id : UInt32) : Bool :=
  Declarative.minId ≤ id && !pool.contains id

/-- The first free id among `attempts` salts from `salt` on. -/
def search? (pool : IdPool) (text : String) : Nat → Nat → Option UInt32
  | 0, _ => none
  | attempts + 1, salt =>
    let id := textId (salted text salt)
    if pool.isFree id then some id else pool.search? text attempts (salt + 1)

/-- The number of salts, which are counted in 32 bits. -/
def saltCount : Nat := UInt32.size

/-- Takes the first free id for a text. There is none when no salt leads to one. -/
def allocate? (pool : IdPool) (text : String) : Option (UInt32 × IdPool) :=
  (pool.search? text saltCount 0).map fun id => (id, ⟨id :: pool.taken⟩)

end IdPool

end Blocklist
