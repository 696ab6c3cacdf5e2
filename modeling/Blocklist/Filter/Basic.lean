/-!
Network filters as they are written: an optional exception mark, a pattern and modifiers,
with the canonical text of each.
-/

namespace Blocklist

/-- One modifier of a filter. The name is in lower case and may be an alias. -/
structure Modifier where
  name : String
  value : Option String := none
  negated : Bool := false
  deriving DecidableEq, Repr

namespace Modifier

/-- A value as it is written between commas. -/
def escapeCommas (value : List Char) : List Char :=
  value.flatMap fun c => if c = ',' then ['\\', ','] else [c]

/-- The characters of a modifier: `~name=value`. -/
def chars (modifier : Modifier) : List Char :=
  (if modifier.negated then ['~'] else []) ++ modifier.name.toList
    ++ match modifier.value with
      | some value => '=' :: escapeCommas value.toList
      | none => []

end Modifier

/-- A network filter: `@@` for an exception, a pattern, and modifiers after a `$`. -/
structure Filter where
  exception : Bool
  pattern : String
  modifiers : List Modifier
  deriving DecidableEq, Repr

namespace Filter

/-- The characters of a list of modifiers: a `$` before the first, commas between. -/
def modifierChars : List Modifier → List Char
  | [] => []
  | modifier :: rest => '$' :: modifier.chars ++ rest.flatMap (',' :: ·.chars)

/-- The characters of the canonical text. -/
def chars (filter : Filter) : List Char :=
  (if filter.exception then ['@', '@'] else []) ++ filter.pattern.toList
    ++ modifierChars filter.modifiers

/-- The canonical text of a filter. -/
def text (filter : Filter) : String :=
  String.ofList filter.chars

end Filter

end Blocklist
