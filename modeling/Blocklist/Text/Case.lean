import Blocklist.Text.CaseTable
import Blocklist.Text.Letter

/-!
Lowercasing: of ASCII letters alone, and in full with the two rules that look beyond a
single character.
-/

namespace Blocklist.Text

/-- Lowercases the letters `A` to `Z` and keeps everything else. -/
def asciiLower (text : List Char) : List Char :=
  text.map Char.toLower

/-- The image of a code point under a run of the lowercase table that covers it. -/
def runImage? (n : Nat) : Nat × Nat × Nat × Nat → Option Nat
  | (first, last, step, image) =>
    if first ≤ n && n ≤ last && (n - first) % step == 0 then some (image + (n - first)) else none

/-- The simple lowercase form of one character. -/
def lowerChar (c : Char) : Char :=
  if c.toNat < 128 then c.toLower
  else match lowercaseRuns.findSome? (runImage? c.toNat) with
    | some n => Char.ofNat n
    | none => c

/-- Whether a character has case. -/
def isCased (c : Char) : Bool :=
  inRanges casedRanges c.toNat

/-- Whether a character is transparent when its neighbours' case is asked for. -/
def isCaseIgnorable (c : Char) : Bool :=
  inRanges caseIgnorableRanges c.toNat

/-- Whether the first character that counts is a cased one. -/
def meetsCased (text : List Char) : Bool :=
  match text.dropWhile isCaseIgnorable with
  | [] => false
  | c :: _ => isCased c

/-- A capital sigma ends a word when a cased letter stands before it and none after it;
`before` is read backwards.
-/
def endsWord (before rest : List Char) : Bool :=
  meetsCased before && !meetsCased rest

/-- Lowercases what follows `before`, the reversed text already passed. A capital I with a
dot becomes two characters, a capital sigma depends on its neighbours.
-/
def lowercaseAfter (before : List Char) : List Char → List Char
  | [] => []
  | c :: rest =>
    let image :=
      if c = 'Σ' then [if endsWord before rest then 'ς' else 'σ']
      else if c = 'İ' then ['i', '̇']
      else [lowerChar c]
    image ++ lowercaseAfter (c :: before) rest

/-- The full lowercase form of a text. -/
def lowercase (text : List Char) : List Char :=
  lowercaseAfter [] text

end Blocklist.Text
