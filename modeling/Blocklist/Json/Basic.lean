/-!
JSON values as the library writes them, with the two layouts of their text. Members of an
object keep their order.
-/

namespace Blocklist

/-- A JSON value. -/
inductive Json where
  | null
  | bool (value : Bool)
  | number (value : Nat)
  | string (value : String)
  | array (items : List Json)
  | object (members : List (String × Json))

namespace Json

/-- One character inside a JSON string. -/
def escapeChar (c : Char) : List Char :=
  if c = '"' then ['\\', '"']
  else if c = '\\' then ['\\', '\\']
  else if c = '\x08' then ['\\', 'b']
  else if c = '\x0c' then ['\\', 'f']
  else if c = '\n' then ['\\', 'n']
  else if c = '\r' then ['\\', 'r']
  else if c = '\t' then ['\\', 't']
  else if c.toNat < 32 then
    ['\\', 'u', '0', '0', Nat.digitChar (c.toNat / 16), Nat.digitChar (c.toNat % 16)]
  else [c]

/-- A JSON string with its quotes. -/
def quote (text : String) : List Char :=
  '"' :: text.toList.flatMap escapeChar ++ ['"']

/-- The text of a truth value. -/
def boolChars (value : Bool) : List Char :=
  if value then ['t', 'r', 'u', 'e'] else ['f', 'a', 'l', 's', 'e']

mutual

/-- The text of a value without any white space. -/
def compact : Json → List Char
  | null => ['n', 'u', 'l', 'l']
  | bool value => boolChars value
  | number value => Nat.toDigits 10 value
  | string value => quote value
  | array items => '[' :: compactItems items ++ [']']
  | object members => '\x7b' :: compactMembers members ++ ['\x7d']

/-- The texts of array items, with commas between them. -/
def compactItems : List Json → List Char
  | [] => []
  | [item] => compact item
  | item :: rest => compact item ++ ',' :: compactItems rest

/-- The texts of object members, with commas between them. -/
def compactMembers : List (String × Json) → List Char
  | [] => []
  | [(key, value)] => quote key ++ ':' :: compact value
  | (key, value) :: rest => quote key ++ ':' :: compact value ++ ',' :: compactMembers rest

end

/-- A line break and the indentation of a nesting depth. -/
def newline (depth : Nat) : List Char :=
  '\n' :: List.replicate (2 * depth) ' '

mutual

/-- The text of a value that stands at a nesting depth, one item or member a line. -/
def pretty (depth : Nat) : Json → List Char
  | null => ['n', 'u', 'l', 'l']
  | bool value => boolChars value
  | number value => Nat.toDigits 10 value
  | string value => quote value
  | array [] => ['[', ']']
  | array (item :: rest) =>
    '[' :: prettyItems (depth + 1) (item :: rest) ++ newline depth ++ [']']
  | object [] => ['\x7b', '\x7d']
  | object (member :: rest) =>
    '\x7b' :: prettyMembers (depth + 1) (member :: rest) ++ newline depth ++ ['\x7d']

/-- The lines of array items. -/
def prettyItems (depth : Nat) : List Json → List Char
  | [] => []
  | [item] => newline depth ++ pretty depth item
  | item :: rest => newline depth ++ pretty depth item ++ ',' :: prettyItems depth rest

/-- The lines of object members. -/
def prettyMembers (depth : Nat) : List (String × Json) → List Char
  | [] => []
  | [(key, value)] => newline depth ++ quote key ++ ':' :: ' ' :: pretty depth value
  | (key, value) :: rest =>
    newline depth ++ quote key ++ ':' :: ' ' :: pretty depth value
      ++ ',' :: prettyMembers depth rest

end

/-- The compact text of a value. -/
def toCompact (value : Json) : String :=
  String.ofList value.compact

/-- The indented text of a value. -/
def toPretty (value : Json) : String :=
  String.ofList (value.pretty 0)

/-- A member that is left out when its value is missing. -/
def optional {α : Type} (key : String) (encode : α → Json) : Option α → List (String × Json)
  | some value => [(key, encode value)]
  | none => []

end Json

end Blocklist
