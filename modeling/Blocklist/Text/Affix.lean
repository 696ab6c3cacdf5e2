/-!
Looking for one text inside another: at its start, anywhere, or as a single separator. Blank
characters, and the trimming and word splitting that rest on them.
-/

namespace Blocklist.Text

/-- What follows `start` in a text that begins with it. -/
def after? : List Char → List Char → Option (List Char)
  | [], text => some text
  | _ :: _, [] => none
  | s :: start, c :: text => if s = c then after? start text else none

/-- The text without one leading `mark`, and whether it was there. -/
def dropMark (mark : Char) : List Char → Bool × List Char
  | [] => (false, [])
  | c :: text => if c = mark then (true, text) else (false, c :: text)

/-- Whether `part` occurs somewhere in a text. -/
def occursIn (part : List Char) : List Char → Bool
  | [] => part.isEmpty
  | c :: text => part.isPrefixOf (c :: text) || occursIn part text

/-- The texts before and after the first `mark`, if there is one. -/
def cutAt? (mark : Char) : List Char → Option (List Char × List Char)
  | [] => none
  | c :: text =>
    if c = mark then some ([], text)
    else (cutAt? mark text).map fun (left, right) => (c :: left, right)

/-- Whether a text ends with the character `c`. -/
def endsWith (c : Char) (text : List Char) : Bool :=
  text.getLast? == some c

/-- Whether a text begins with the character `c`. -/
def beginsWith (c : Char) (text : List Char) : Bool :=
  text.head? == some c

/-- The number of bytes of a text in UTF-8. -/
def byteLength (text : List Char) : Nat :=
  text.foldr (fun c n => c.utf8Size + n) 0

/-- A character is blank when it has the White_Space property. -/
def isBlank (c : Char) : Bool :=
  let n := c.toNat
  (9 ≤ n && n ≤ 13) || n == 0x20 || n == 0x85 || n == 0xA0 || n == 0x1680
    || (0x2000 ≤ n && n ≤ 0x200A) || n == 0x2028 || n == 0x2029 || n == 0x202F
    || n == 0x205F || n == 0x3000

/-- The text without the longest final run of characters that satisfy `p`. -/
def dropEndWhile (p : Char → Bool) (text : List Char) : List Char :=
  (text.reverse.dropWhile p).reverse

/-- The text without the runs at both ends of characters that satisfy `p`. -/
def trimWhile (p : Char → Bool) (text : List Char) : List Char :=
  dropEndWhile p (text.dropWhile p)

/-- The text without blanks at its ends. -/
def trim (text : List Char) : List Char :=
  trimWhile isBlank text

/-- The first word of a text and what follows it; a word is a maximal run of non-blanks. -/
def nextWord (text : List Char) : List Char × List Char :=
  (text.dropWhile isBlank).span (fun c => !isBlank c)

end Blocklist.Text
