import Blocklist.Filter.Alias
import Blocklist.Host.Address
import Blocklist.Text.Affix
import Blocklist.Text.Case

/-!
One line of a filter list. Reading never fails: a line is blank, a comment, cosmetic, a
network filter, or invalid with the fault that makes it so.
-/

namespace Blocklist

/-- Why a line is no filter. -/
inductive LineFault where
  | unknownModifier (name : String)
  | emptyRule
  deriving DecidableEq, Repr

/-- The wording of a fault. -/
def LineFault.message : LineFault → String
  | unknownModifier name => s!"unknown modifier: {name}"
  | emptyRule => "rule has an empty pattern and no modifiers"

/-- What a line of a filter list says. -/
inductive Line where
  | empty
  | comment
  | cosmetic
  | network (filter : Filter)
  | invalid (fault : LineFault)
  deriving DecidableEq, Repr

namespace Line

open Text

/-- A line with one of these marks hides page elements and blocks nothing. -/
def cosmeticMarks : List (List Char) :=
  [['#', '#'], ['#', '@', '#'], ['#', '?', '#'], ['#', '@', '?', '#'], ['#', '$', '#'],
    ['#', '@', '$', '#'], ['#', '$', '?', '#'], ['#', '@', '$', '?', '#'], ['#', '%', '#'],
    ['#', '@', '%', '#'], ['$', '$'], ['$', '@', '$']]

/-- Whether a trimmed line is cosmetic. -/
def isCosmetic (line : List Char) : Bool :=
  cosmeticMarks.any (occursIn · line)

/-- Whether a trimmed line is a comment or a header. -/
def isComment (line : List Char) : Bool :=
  beginsWith '!' line || (beginsWith '[' line && endsWith ']' line) || line == ['#']
    || ['#', ' '].isPrefixOf line

/-- Names that every hosts file maps to the machine itself. -/
def localNames : List String :=
  ["localhost", "localhost.localdomain", "local", "broadcasthost", "ip6-localhost",
    "ip6-loopback", "0.0.0.0"]

/-- Whether a domain of a hosts file can be blocked. -/
def isBlockable (domain : List Char) : Bool :=
  !domain.isEmpty && !localNames.contains (String.ofList domain)
    && domain.all fun c => c.isAlphanum || c == '.' || c == '-'

/-- Reads an entry of a hosts file: an address, then a domain, which is blocked. A domain
that cannot be blocked makes the line a comment.
-/
def readHosts? (line : List Char) : Option Line :=
  let (address, rest) := nextWord line
  let (host, _) := nextWord rest
  if host.isEmpty || !Host.Address.isAddress address then none
  else
    let domain := asciiLower (trimWhile (· == '.') host)
    if !isBlockable domain then some comment
    else some (network
      { exception := false
        pattern := String.ofList (['|', '|'] ++ domain ++ ['^'])
        modifiers := [] })

/-- Looks for the cut between pattern and modifiers from the end of a line on: `before` is what
is still to be read, backwards, and `after` what was read. Candidates are dollar signs that are
neither escaped nor the end anchor of an expression. The first one is the cut, except in a line
that begins like an expression: there it is the first one right after a further slash, or else
the first after all slashes, which is kept in `fallback?` until the line is read.
-/
def scanCut? (isExpression : Bool) (fallback? : Option (List Char × List Char)) :
    (before after : List Char) → Option (List Char × List Char)
  | [], _ => fallback?
  | c :: before, after =>
    if c = '$' && !beginsWith '\\' before && !beginsWith '/' after then
      if !isExpression || (1 < before.length && beginsWith '/' before) then
        some (before.reverse, after)
      else if !after.contains '/' then
        scanCut? isExpression (fallback? <|> some (before.reverse, after)) before (c :: after)
      else scanCut? isExpression fallback? before (c :: after)
    else scanCut? isExpression fallback? before (c :: after)

/-- The cut between pattern and modifiers, if there is one. -/
def optionsCut? (line : List Char) : Option (List Char × List Char) :=
  scanCut? (beginsWith '/' line) none line.reverse []

/-- The pattern and the text of the modifiers, if there is any. -/
def splitOptions (line : List Char) : List Char × Option (List Char) :=
  match optionsCut? line with
  | some (pattern, options) => (pattern, some options)
  | none => (line, none)

/-- Puts characters before the first piece of a split text. -/
def extendFirst (start : List Char) : List (List Char) → List (List Char)
  | [] => [start]
  | piece :: pieces => (start ++ piece) :: pieces

/-- Splits at every comma that is not escaped; an escaped comma loses its backslash. -/
def splitCommas : List Char → List (List Char)
  | [] => [[]]
  | [c] => if c = ',' then [[], []] else [[c]]
  | c :: d :: rest =>
    if c = '\\' then extendFirst (if d = ',' then [d] else [c, d]) (splitCommas rest)
    else if c = ',' then [] :: splitCommas (d :: rest)
    else extendFirst [c] (splitCommas (d :: rest))

/-- Reads one modifier from its trimmed text. -/
def readModifier (text : List Char) : Except LineFault Modifier :=
  let (negated, body) := dropMark '~' text
  let (rawName, rawValue) :=
    match cutAt? '=' body with
    | some (left, right) => (left, some right)
    | none => (body, none)
  let name := String.ofList (asciiLower (trim rawName))
  if Modifier.isKnown name then
    .ok { name, value := rawValue.map fun value => String.ofList (trim value), negated }
  else .error (.unknownModifier name)

/-- Reads modifiers between commas; blank ones are passed over. -/
def readModifiers (text : List Char) : Except LineFault (List Modifier) :=
  (((splitCommas text).map trim).filter (!·.isEmpty)).mapM readModifier

/-- Reads a network filter from a trimmed line. -/
def readFilter (line : List Char) : Except LineFault Filter := do
  let (exception, body) :=
    match after? ['@', '@'] line with
    | some rest => (true, rest)
    | none => (false, line)
  let (pattern, options?) := splitOptions body
  let modifiers ←
    match options? with
    | some options => readModifiers options
    | none => pure []
  if pattern.isEmpty && modifiers.isEmpty then throw .emptyRule
  return { exception, pattern := String.ofList pattern, modifiers }

/-- Reads the characters of a line. -/
def ofChars (chars : List Char) : Line :=
  let line := trim chars
  if line.isEmpty then empty
  else if isCosmetic line then cosmetic
  else if isComment line then comment
  else match readHosts? line with
    | some hosts => hosts
    | none =>
      match readFilter line with
      | .ok filter => network filter
      | .error fault => invalid fault

/-- Reads a line. -/
def ofString (text : String) : Line :=
  ofChars text.toList

end Line

end Blocklist
