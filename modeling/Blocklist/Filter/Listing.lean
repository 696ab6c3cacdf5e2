import Blocklist.Filter.Line

/-!
Filter lists: the lines of a text, each with its number and the bytes it covers.
-/

namespace Blocklist

/-- One line of a filter list. `start` and `stop` are the byte offsets of the line without
its line end, and `raw` are the characters between them.
-/
structure Entry where
  number : Nat
  start : Nat
  stop : Nat
  raw : String
  content : Line
  deriving DecidableEq, Repr

namespace Listing

/-- The lines of a text. A line feed ends a line, and the last line needs none. -/
def lines (text : List Char) : List (List Char) :=
  let pieces := text.splitOn '\n'
  if pieces.getLast? == some [] then pieces.dropLast else pieces

/-- Entries of the given lines, the first of which has a number and a byte offset. Carriage
returns at the end of a line belong to its line end.
-/
def entriesFrom (number start : Nat) : List (List Char) → List Entry
  | [] => []
  | line :: rest =>
    let raw := Text.dropEndWhile (· == '\r') line
    { number, start, stop := start + Text.byteLength raw, raw := String.ofList raw
      content := Line.ofChars raw }
      :: entriesFrom (number + 1) (start + Text.byteLength line + 1) rest

/-- The entries of a filter list. -/
def entries (text : String) : List Entry :=
  entriesFrom 0 0 (lines text.toList)

end Listing

end Blocklist
