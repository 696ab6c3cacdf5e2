/-!
Regular expressions as trees, and how deep they nest.
-/

namespace Blocklist.Regex

/-- An operation on two sets of characters. -/
inductive SetOperation where
  | intersection | difference | symmetricDifference
  deriving DecidableEq, Repr

/-- A set of characters inside brackets. -/
inductive CharSet where
  | char (c : Char)
  | range (low high : Char)
  | named (name : String)
  | union (items : List CharSet)
  | nested (negated : Bool) (set : CharSet)
  | operation (kind : SetOperation) (left right : CharSet)

namespace CharSet

/-- The union of a list of items; a single item is the union of itself. -/
def ofItems : List CharSet → CharSet
  | [item] => item
  | items => union items

mutual

/-- How deep a set nests. An empty union is as flat as a character. -/
def depth : CharSet → Nat
  | char _ => 0
  | range _ _ => 0
  | named _ => 0
  | union [] => 0
  | union (item :: rest) => depthOfItems (item :: rest) + 1
  | nested _ set => depth set + 1
  | operation _ left right => max (depth left) (depth right) + 1

/-- How deep the deepest of some sets nests. -/
def depthOfItems : List CharSet → Nat
  | [] => 0
  | item :: rest => max (depth item) (depthOfItems rest)

end

end CharSet

/-- A regular expression. Flags stand where they are set. -/
inductive Expr where
  | empty
  | char (c : Char)
  | any
  | assertion
  | named (name : String)
  | flags (items : List Char)
  | bracket (negated : Bool) (set : CharSet)
  | repetition (inner : Expr)
  | group (inner : Expr)
  | alternation (branches : List Expr)
  | concat (items : List Expr)

namespace Expr

/-- Items one after the other; none is the empty expression and one is itself. -/
def ofItems : List Expr → Expr
  | [] => empty
  | [item] => item
  | items => concat items

/-- A choice of branches; a single branch is itself. -/
def ofBranches : List Expr → Expr
  | [] => empty
  | [branch] => branch
  | branches => alternation branches

/-- Whether an expression only sets flags. -/
def isFlags : Expr → Bool
  | flags _ => true
  | _ => false

mutual

/-- How deep an expression nests. -/
def depth : Expr → Nat
  | bracket _ set => set.depth + 1
  | repetition inner => depth inner + 1
  | group inner => depth inner + 1
  | alternation branches => depthOfAll branches + 1
  | concat items => depthOfAll items + 1
  | _ => 0

/-- How deep the deepest of some expressions nests. -/
def depthOfAll : List Expr → Nat
  | [] => 0
  | item :: rest => max (depth item) (depthOfAll rest)

end

end Expr

end Blocklist.Regex
