import Blocklist.Text.Case

/-!
The ASCII form of patterns and domains. A label is a maximal run of characters that are
alphanumeric, a hyphen or outside ASCII; what stands between labels is kept. How a label
outside ASCII is encoded is left open here.
-/

namespace Blocklist.Host

/-- Whether a character is ASCII. -/
def isBasic (c : Char) : Bool :=
  c.toNat < 128

/-- Whether a character belongs to a label. -/
def isLabelChar (c : Char) : Bool :=
  !isBasic c || c.isAlphanum || c == '-'

/-- What marks an encoded label. -/
def encodedMark : List Char := ['x', 'n', '-', '-']

/-- The ASCII form of one label. A label that has none stays as it is written. -/
def asciiLabel (encode? : List Char → Option (List Char)) (label : List Char) : List Char :=
  if label.all isBasic then label
  else match encode? (Text.lowercase label) with
    | some encoded => encodedMark ++ encoded
    | none => label

/-- The ASCII form of a text that continues the label `label`, which is read backwards. -/
def asciiAfter (encode? : List Char → Option (List Char)) (label : List Char) :
    List Char → List Char
  | [] => asciiLabel encode? label.reverse
  | c :: rest =>
    if isLabelChar c then asciiAfter encode? (c :: label) rest
    else asciiLabel encode? label.reverse ++ c :: asciiAfter encode? [] rest

/-- The ASCII form of a pattern or domain: a text in ASCII as it is, any other label by label. -/
def toAscii (encode? : List Char → Option (List Char)) (text : String) : String :=
  if text.toList.all isBasic then text
  else String.ofList (asciiAfter encode? [] text.toList)

end Blocklist.Host
