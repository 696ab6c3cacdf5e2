/-!
Recognising IP addresses: four decimal octets, or up to eight hexadecimal groups of which
one run of zeros may be left out.
-/

namespace Blocklist.Host.Address

/-- Reads an octet without leading zeros; the result is what follows it. -/
def octet? (text : List Char) : Option (List Char) :=
  let (digits, rest) := text.span Char.isDigit
  let value := digits.foldl (fun n c => n * 10 + (c.toNat - 48)) 0
  if digits.isEmpty || 3 < digits.length || 255 < value then none
  else if digits.head? == some '0' && 1 < digits.length then none
  else some rest

/-- Reads one given character. -/
def mark? (c : Char) : List Char → Option (List Char)
  | [] => none
  | d :: rest => if c = d then some rest else none

/-- Reads four octets with points between them. -/
def dotted? (text : List Char) : Option (List Char) := do
  let rest ← octet? text
  let rest ← octet? (← mark? '.' rest)
  let rest ← octet? (← mark? '.' rest)
  octet? (← mark? '.' rest)

/-- Whether a character is a hexadecimal digit. -/
def isHexDigit (c : Char) : Bool :=
  c.isDigit || ('a' ≤ c && c ≤ 'f') || ('A' ≤ c && c ≤ 'F')

/-- Reads a group of one to four hexadecimal digits. -/
def group? (text : List Char) : Option (List Char) :=
  let (digits, rest) := text.span isHexDigit
  if digits.isEmpty || 4 < digits.length then none else some rest

/-- What was read of a list of groups: how many, whether it ends with four octets (which
count as two groups), and the text after it.
-/
structure Groups where
  count : Nat
  isDotted : Bool
  rest : List Char

/-- Reads as many groups as there are, `limit` at most. All but the first follow a colon. -/
def groups (limit : Nat) (isFirst : Bool) (text : List Char) : Groups :=
  match limit with
  | 0 => ⟨0, false, text⟩
  | limit + 1 =>
    match if isFirst then some text else mark? ':' text with
    | none => ⟨0, false, text⟩
    | some start =>
      match if 0 < limit then dotted? start else none with
      | some rest => ⟨2, true, rest⟩
      | none =>
        match group? start with
        | none => ⟨0, false, text⟩
        | some rest =>
          let more := groups limit false rest
          { more with count := more.count + 1 }

/-- Whether a text is an address of eight groups, `::` standing for at least one of them. -/
def isGrouped (text : List Char) : Bool :=
  let front := groups 8 true text
  if front.count = 8 then front.rest.isEmpty
  else if front.isDotted then false
  else match front.rest with
    | ':' :: ':' :: rest => (groups (7 - front.count) true rest).rest.isEmpty
    | _ => false

/-- Whether a text is an IP address. -/
def isAddress (text : List Char) : Bool :=
  dotted? text == some [] || isGrouped text

end Blocklist.Host.Address
