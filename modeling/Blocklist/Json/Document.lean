import Blocklist.Json.Basic
import Blocklist.Text.Affix

/-!
What a reader sees of a JSON text from left to right. A defect ends the document at its
place, so that whoever reads the document meets it exactly where the text has it.
-/

namespace Blocklist.Json

/-- How a text can fail to be JSON: by what it holds, or by ending early. -/
inductive Fault where
  | malformed
  | truncated
  deriving DecidableEq, Repr

/-- A number as it is written: an integer, or `digits * 10 ^ (exponent - places)` with a
point or an exponent.
-/
inductive Numeral where
  | integer (negative : Bool) (magnitude : Nat)
  | decimal (negative : Bool) (digits places : Nat) (exponent : Int)
  deriving DecidableEq, Repr

/-- A JSON text as far as it can be read. Arrays and objects end with the fault that cut
them short, if any. A string holds its fault when its characters cannot be told though its
end can. A fault in place of a value may differ for one who reads the value and one who
passes over it; `start` is the character that such a value begins with, if the text has one.
-/
inductive Document where
  | null
  | bool (value : Bool)
  | number (value : Numeral)
  | string (value : Except Fault String)
  | array (items : List Document) (stop : Option Fault)
  | object (members : List (Except Fault String × Document)) (stop : Option Fault)
  | broken (start : Option Char) (onRead onSkip : Fault)

namespace Document

/-- The fault met by one who passes over a value without reading it. -/
def skipFault? : Document → Option Fault
  | array _ stop => stop
  | object _ stop => stop
  | broken _ _ onSkip => some onSkip
  | _ => none

/-- Notes the character that a value begins with. -/
def startingWith (c : Char) : Document → Document
  | broken _ onRead onSkip => broken (some c) onRead onSkip
  | document => document

end Document

/-- The result of a scan: a document and the text after it. -/
structure Scan where
  document : Document
  rest : List Char

namespace Scan

/-- A scan that ends with a fault. -/
def stopped (fault : Fault) : Scan :=
  ⟨.broken none fault fault, []⟩

/-- A scan of a number that ends with the text and still lacks digits. -/
def unfinished : Scan :=
  ⟨.broken none .truncated .malformed, []⟩

end Scan

/-- White space between tokens. -/
def isSpace (c : Char) : Bool :=
  c == ' ' || c == '\n' || c == '\t' || c == '\r'

/-- The text from its next token on. -/
def skipSpace (text : List Char) : List Char :=
  text.dropWhile isSpace

/-- Scans the rest of a keyword. -/
def scanKeyword (value : Document) : List Char → List Char → Scan
  | [], text => ⟨value, text⟩
  | _ :: _, [] => .stopped .truncated
  | k :: keyword, c :: text =>
    if k = c then scanKeyword value keyword text else .stopped .malformed

/-- The value of decimal digits. -/
def digitsValue (digits : List Char) : Nat :=
  digits.foldl (fun n c => n * 10 + (c.toNat - 48)) 0

/-- Scans the exponent of a decimal, after its `e`. -/
def scanExponent (negative : Bool) (digits places : Nat) (text : List Char) : Scan :=
  let (isDown, text) :=
    match text with
    | '+' :: rest => (false, rest)
    | '-' :: rest => (true, rest)
    | _ => (false, text)
  let (exponent, rest) := text.span Char.isDigit
  if !exponent.isEmpty then
    let size : Int := digitsValue exponent
    ⟨.number (.decimal negative digits places (if isDown then -size else size)), rest⟩
  else if rest.isEmpty then .unfinished
  else .stopped .malformed

/-- Scans what may follow the digits of a decimal. -/
def scanPower (negative : Bool) (digits places : Nat) (text : List Char) : Scan :=
  match text with
  | 'e' :: rest => scanExponent negative digits places rest
  | 'E' :: rest => scanExponent negative digits places rest
  | _ => ⟨.number (.decimal negative digits places 0), text⟩

/-- Scans what may follow the whole part of a number. -/
def scanFraction (negative : Bool) (whole : List Char) (text : List Char) : Scan :=
  match text with
  | '.' :: rest =>
    let (fraction, rest) := rest.span Char.isDigit
    if !fraction.isEmpty then
      scanPower negative (digitsValue (whole ++ fraction)) fraction.length rest
    else if rest.isEmpty then .unfinished
    else .stopped .malformed
  | 'e' :: rest => scanExponent negative (digitsValue whole) 0 rest
  | 'E' :: rest => scanExponent negative (digitsValue whole) 0 rest
  | _ => ⟨.number (.integer negative (digitsValue whole)), text⟩

/-- Scans a number after its sign. A leading zero stands alone. -/
def scanNumber (negative : Bool) (text : List Char) : Scan :=
  let (whole, rest) := text.span Char.isDigit
  if whole.isEmpty then
    if rest.isEmpty then .unfinished else .stopped .malformed
  else if whole.head? == some '0' && 1 < whole.length then .stopped .malformed
  else scanFraction negative whole rest

/-- The value of a hexadecimal digit. -/
def hexDigit? (c : Char) : Option Nat :=
  if c.isDigit then some (c.toNat - 48)
  else if 'a' ≤ c && c ≤ 'f' then some (c.toNat - 87)
  else if 'A' ≤ c && c ≤ 'F' then some (c.toNat - 55)
  else none

/-- The value of four hexadecimal digits. -/
def hexUnit? (a b c d : Char) : Option Nat := do
  return (((← hexDigit? a) * 16 + (← hexDigit? b)) * 16 + (← hexDigit? c)) * 16 + (← hexDigit? d)

/-- The fault of an escape that lacks its four digits. -/
def shortEscape (text : List Char) : Fault :=
  if Text.byteLength text < 4 then .truncated else .malformed

/-- The character of a one letter escape. -/
def letterEscape? (c : Char) : Option Char :=
  if c = '"' || c = '\\' || c = '/' then some c
  else if c = 'b' then some '\x08'
  else if c = 'f' then some '\x0c'
  else if c = 'n' then some '\n'
  else if c = 'r' then some '\r'
  else if c = 't' then some '\t'
  else none

/-- Whether a unit is the first of a pair. -/
def isLeadUnit (n : Nat) : Bool :=
  0xD800 ≤ n && n ≤ 0xDBFF

/-- Whether a unit is the second of a pair. -/
def isTrailUnit (n : Nat) : Bool :=
  0xDC00 ≤ n && n ≤ 0xDFFF

/-- Reads the characters of a string after its opening quote. -/
def readString : List Char → Except Fault (List Char)
  | [] => .error .truncated
  | c :: text =>
    if c = '"' then .ok []
    else if c = '\\' then
      match text with
      | [] => .error .truncated
      | e :: text =>
        if e = 'u' then
          match text with
          | h1 :: h2 :: h3 :: h4 :: text =>
            match hexUnit? h1 h2 h3 h4 with
            | none => .error .malformed
            | some lead =>
              if isTrailUnit lead then .error .malformed
              else if isLeadUnit lead then
                match text with
                | [] => .error .truncated
                | m :: text =>
                  if m ≠ '\\' then .error .malformed
                  else match text with
                    | [] => .error .truncated
                    | u :: text =>
                      if u ≠ 'u' then .error .malformed
                      else match text with
                        | t1 :: t2 :: t3 :: t4 :: text =>
                          match hexUnit? t1 t2 t3 t4 with
                          | none => .error .malformed
                          | some trail =>
                            if !isTrailUnit trail then .error .malformed
                            else
                              let code := 0x10000 + (lead - 0xD800) * 0x400 + (trail - 0xDC00)
                              (Char.ofNat code :: ·) <$> readString text
                        | short => .error (shortEscape short)
              else (Char.ofNat lead :: ·) <$> readString text
          | short => .error (shortEscape short)
        else match letterEscape? e with
          | some d => (d :: ·) <$> readString text
          | none => .error .malformed
    else if c.toNat < 32 then .error .malformed
    else (c :: ·) <$> readString text

/-- Passes over a string after its opening quote; pairs of units are not looked at. -/
def skipString : List Char → Except Fault (List Char)
  | [] => .error .truncated
  | c :: text =>
    if c = '"' then .ok text
    else if c = '\\' then
      match text with
      | [] => .error .truncated
      | e :: text =>
        if e = 'u' then
          match text with
          | h1 :: h2 :: h3 :: h4 :: text =>
            match hexUnit? h1 h2 h3 h4 with
            | none => .error .malformed
            | some _ => skipString text
          | short => .error (shortEscape short)
        else match letterEscape? e with
          | some _ => skipString text
          | none => .error .malformed
    else if c.toNat < 32 then .error .malformed
    else skipString text

/-- The fault of a reading, if it has one. -/
def faultOr {α : Type} (fallback : Fault) : Except Fault α → Fault
  | .error fault => fault
  | .ok _ => fallback

/-- Scans a string after its opening quote. -/
def scanString (text : List Char) : Scan :=
  let value := String.ofList <$> readString text
  match skipString text with
  | .ok rest => ⟨.string value, rest⟩
  | .error onSkip => ⟨.broken none (faultOr onSkip value) onSkip, []⟩

/-- Scans a value that holds no others, by its first character and the text after it. -/
def scanPlain (c : Char) (text : List Char) : Scan :=
  if c = '"' then scanString text
  else if c = 'n' then scanKeyword .null ['u', 'l', 'l'] text
  else if c = 't' then scanKeyword (.bool true) ['r', 'u', 'e'] text
  else if c = 'f' then scanKeyword (.bool false) ['a', 'l', 's', 'e'] text
  else if c = '-' then scanNumber true text
  else if c.isDigit then scanNumber false (c :: text)
  else .stopped .malformed

/-- What a key is scanned to: its reading, then the text after it or the fault that ends the
document there.
-/
def scanKey (text : List Char) : Except Fault String × Except Fault (List Char) :=
  (String.ofList <$> readString text, skipString text)

/-- Items scanned after each other, why they end, and the text after them. -/
structure ItemScan where
  items : List Document
  stop : Option Fault
  rest : List Char

/-- Members scanned after each other, why they end, and the text after them. -/
structure MemberScan where
  members : List (Except Fault String × Document)
  stop : Option Fault
  rest : List Char

mutual

/-- Scans a value from its first token on. `fuel` bounds the tokens of the value. -/
def scanValue : Nat → List Char → Scan
  | 0, _ => .stopped .truncated
  | _ + 1, [] => .stopped .truncated
  | fuel + 1, c :: text =>
    if c = '[' then
      let scan := scanItems fuel true (skipSpace text)
      ⟨.array scan.items scan.stop, scan.rest⟩
    else if c = '\x7b' then
      let scan := scanMembers fuel true (skipSpace text)
      ⟨.object scan.members scan.stop, scan.rest⟩
    else
      let scan := scanPlain c text
      { scan with document := scan.document.startingWith c }

/-- Scans array items up to the closing bracket; all but the first follow a comma. -/
def scanItems : Nat → Bool → List Char → ItemScan
  | 0, _, _ => ⟨[], some .truncated, []⟩
  | _ + 1, _, [] => ⟨[], some .truncated, []⟩
  | fuel + 1, isFirst, c :: text =>
    if c = ']' then ⟨[], none, text⟩
    else if isFirst then scanItem fuel (c :: text)
    else if c ≠ ',' then ⟨[], some .malformed, []⟩
    else match skipSpace text with
      | [] => ⟨[.broken none .truncated .truncated], some .truncated, []⟩
      | d :: text => if d = ']' then ⟨[], some .malformed, []⟩ else scanItem fuel (d :: text)

/-- Scans one array item and those after it. -/
def scanItem : Nat → List Char → ItemScan
  | 0, _ => ⟨[], some .truncated, []⟩
  | fuel + 1, text =>
    let item := scanValue fuel text
    match item.document.skipFault? with
    | some fault => ⟨[item.document], some fault, []⟩
    | none =>
      let more := scanItems fuel false (skipSpace item.rest)
      { more with items := item.document :: more.items }

/-- Scans object members up to the closing brace; all but the first follow a comma. -/
def scanMembers : Nat → Bool → List Char → MemberScan
  | 0, _, _ => ⟨[], some .truncated, []⟩
  | _ + 1, _, [] => ⟨[], some .truncated, []⟩
  | fuel + 1, isFirst, c :: text =>
    if c = '\x7d' then ⟨[], none, text⟩
    else if isFirst then
      if c = '"' then scanMember fuel text else ⟨[], some .malformed, []⟩
    else if c ≠ ',' then ⟨[], some .malformed, []⟩
    else match skipSpace text with
      | [] => ⟨[(.error .truncated, .broken none .truncated .truncated)], some .truncated, []⟩
      | d :: text => if d = '"' then scanMember fuel text else ⟨[], some .malformed, []⟩

/-- Scans one object member after the opening quote of its key, and those after it. -/
def scanMember : Nat → List Char → MemberScan
  | 0, _ => ⟨[], some .truncated, []⟩
  | fuel + 1, text =>
    let (key, rest) := scanKey text
    match rest with
    | .error fault =>
      ⟨[(.error (faultOr fault key), .broken none fault fault)], some fault, []⟩
    | .ok rest =>
      match skipSpace rest with
      | [] => ⟨[(key, .broken none .truncated .truncated)], some .truncated, []⟩
      | d :: rest =>
        if d ≠ ':' then ⟨[(key, .broken none .malformed .malformed)], some .malformed, []⟩
        else
          let value := scanValue fuel (skipSpace rest)
          match value.document.skipFault? with
          | some fault => ⟨[(key, value.document)], some fault, []⟩
          | none =>
            let more := scanMembers fuel false (skipSpace value.rest)
            { more with members := (key, value.document) :: more.members }

end

/-- The document of a text, and whether something other than white space follows it. Every
character of the text takes three units of fuel at most.
-/
def scanText (text : List Char) : Document × Bool :=
  let scan := scanValue (3 * text.length + 3) (skipSpace text)
  (scan.document, !(skipSpace scan.rest).isEmpty)

mutual

/-- The document that a value is written as. -/
def toDocument : Json → Document
  | null => .null
  | bool value => .bool value
  | number value => .number (.integer false value)
  | string value => .string (.ok value)
  | array items => .array (toDocuments items) none
  | object members => .object (toMembers members) none

/-- The documents of array items. -/
def toDocuments : List Json → List Document
  | [] => []
  | item :: rest => toDocument item :: toDocuments rest

/-- The documents of object members. -/
def toMembers : List (String × Json) → List (Except Fault String × Document)
  | [] => []
  | (key, value) :: rest => (.ok key, toDocument value) :: toMembers rest

end

end Blocklist.Json
