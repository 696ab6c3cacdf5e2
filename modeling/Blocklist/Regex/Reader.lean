import Blocklist.Regex.Property
import Blocklist.Regex.Tree
import Blocklist.Text.Affix
import Blocklist.Text.Letter

/-!
Reading regular expressions of the dialect that needs no backtracking: there is no
look-around and there are no backreferences. In verbose mode blanks and comments between
tokens do not count. Out of Unicode mode nothing may match a part of a character.
-/

namespace Blocklist.Regex

open Text

/-- The text without blanks and comments at its start; a comment runs from `#` to the end of
the line.
-/
def dropComments (inComment : Bool) : List Char → List Char
  | [] => []
  | c :: rest =>
    if inComment then dropComments (c != '\n') rest
    else if isBlank c then dropComments false rest
    else if c = '#' then dropComments true rest
    else c :: rest

/-- The text from its next token on. -/
def nextToken (verbose : Bool) (text : List Char) : List Char :=
  if verbose then dropComments false text else text

/-- The characters that count before a closing brace, and the text after it. -/
def takeBraced (verbose inComment : Bool) : List Char → Option (List Char × List Char)
  | [] => none
  | c :: rest =>
    if inComment then takeBraced verbose (c != '\n') rest
    else if verbose && isBlank c then takeBraced verbose false rest
    else if verbose && c == '#' then takeBraced verbose true rest
    else if c = '\x7d' then some ([], rest)
    else (takeBraced verbose false rest).map fun (inner, rest) => (c :: inner, rest)

/-- How a part of an expression is read, as flags decide. -/
structure Mode where
  verbose : Bool
  unicode : Bool

/-- What a single item of an expression or a set can be. A byte is a character given by two
hexadecimal digits.
-/
inductive Item where
  | char (c : Char)
  | byte (c : Char)
  | shorthand (letter : Char)
  | property (name : String)
  | assertion
  | any

/-- Whether an item may stand outside sets. Out of Unicode mode it must not match a byte that
is no character by itself.
-/
def Item.isAllowed (mode : Mode) : Item → Bool
  | byte c => mode.unicode || c.toNat < 128
  | shorthand letter => mode.unicode || letter.isLower
  | property _ => mode.unicode
  | any => mode.unicode
  | _ => true

/-- Whether an item may stand in a set. Out of Unicode mode sets are of ASCII characters. -/
def Item.isAllowedInSet (mode : Mode) : Item → Bool
  | char c => mode.unicode || c.toNat < 128
  | item => item.isAllowed mode

/-- Whether a character is a hexadecimal digit. -/
def isHex (c : Char) : Bool :=
  c.isDigit || ('a' ≤ c && c ≤ 'f') || ('A' ≤ c && c ≤ 'F')

/-- The value of hexadecimal digits. -/
def hexNumber (digits : List Char) : Nat :=
  digits.foldl (fun n c =>
    n * 16 + (if c.isDigit then c.toNat - 48 else c.toLower.toNat - 87)) 0

/-- The character with a code point, which must not be a surrogate. -/
def scalar? (digits : List Char) : Option Char :=
  let n := hexNumber digits
  if digits.isEmpty || (0xD800 ≤ n && n ≤ 0xDFFF) || 0x10FFFF < n then none
  else some (Char.ofNat n)

/-- Reads a number of hexadecimal digits. -/
def hexDigits? (verbose : Bool) : Nat → List Char → Option (List Char × List Char)
  | 0, text => some ([], text)
  | _ + 1, [] => none
  | n + 1, c :: rest =>
    if !isHex c then none
    else (hexDigits? verbose n (nextToken verbose rest)).map fun (digits, rest) =>
      (c :: digits, rest)

/-- Reads a code point: `width` digits, or any number of them in braces. -/
def codePoint? (verbose : Bool) (width : Nat) (text : List Char) :
    Option (Item × List Char) := do
  match nextToken verbose text with
  | '\x7b' :: rest =>
    let (digits, rest) ← takeBraced verbose false rest
    if !digits.all isHex then none
    return (.char (← scalar? digits), nextToken verbose rest)
  | text =>
    let (digits, rest) ← hexDigits? verbose width text
    let c ← scalar? digits
    return (if width = 2 then .byte c else .char c, rest)

/-- Whether the inside of the braces after `\p` names something. -/
def isProperty (name : List Char) : Bool :=
  match cutBeforeEqual name with
  | some (property, value) => Property.isKnownValue property value
  | none => Property.isKnown name
where
  /-- The property and the value around the first of `!=`, `:` and `=`, in this order. -/
  cutBeforeEqual (name : List Char) : Option (List Char × List Char) :=
    if occursIn ['!', '='] name then
      (cutAt? '!' name).bind fun (left, right) =>
        match right with
        | '=' :: value => some (left, value)
        | _ => none
    else cutAt? ':' name <|> cutAt? '=' name

/-- Reads a property after `\p`: one letter, or a name in braces. -/
def property? (verbose : Bool) (text : List Char) : Option (Item × List Char) := do
  match nextToken verbose text with
  | [] => none
  | '\x7b' :: rest =>
    let (name, rest) ← takeBraced verbose false rest
    if isProperty name then return (.property (String.ofList name), rest) else none
  | c :: rest =>
    if c != '\\' && Property.isKnown [c] then return (.property (String.singleton c), rest)
    else none

/-- The kinds of word boundary that are written with braces. -/
def boundaryNames : List String := ["start", "end", "start-half", "end-half"]

/-- Whether a character can begin the name of a word boundary. -/
def isBoundaryLetter (c : Char) : Bool :=
  c.isAlpha || c == '-'

/-- Reads what may follow `\b`. Braces that hold no name belong to a repetition. -/
def boundary? (verbose : Bool) (text : List Char) : Option (Item × List Char) := do
  match text with
  | '\x7b' :: rest =>
    match nextToken verbose rest with
    | [] => none
    | c :: _ =>
      if !isBoundaryLetter c then return (.assertion, text)
      let (name, rest) ← takeBraced verbose false rest
      if boundaryNames.contains (String.ofList name) then return (.assertion, rest) else none
  | _ => return (.assertion, text)

/-- The control character that a letter stands for after a backslash. -/
def controlEscape? (c : Char) : Option Char :=
  if c = 'a' then some '\x07'
  else if c = 't' then some '\t'
  else if c = 'n' then some '\n'
  else if c = 'v' then some '\x0b'
  else if c = 'f' then some '\x0c'
  else if c = 'r' then some '\r'
  else none

/-- Reads an escape after its backslash. -/
def escape? (verbose : Bool) : List Char → Option (Item × List Char)
  | [] => none
  | c :: rest =>
    if c = 'x' then codePoint? verbose 2 rest
    else if c = 'u' then codePoint? verbose 4 rest
    else if c = 'U' then codePoint? verbose 8 rest
    else if c = 'p' || c = 'P' then property? verbose rest
    else if ['d', 's', 'w', 'D', 'S', 'W'].contains c then some (.shorthand c, rest)
    else if let some d := controlEscape? c then some (.char d, rest)
    else if ['A', 'z', 'B', '<', '>'].contains c then some (.assertion, rest)
    else if c = 'b' then boundary? verbose rest
    else if c.toNat < 128 && !c.isAlphanum then some (.char c, rest)
    else none

/-- The names of classes between `[:` and `:]`. -/
def posixNames : List String :=
  ["alnum", "alpha", "ascii", "blank", "cntrl", "digit", "graph", "lower", "print", "punct",
    "space", "upper", "word", "xdigit"]

/-- Reads `:name:]` or `:^name:]`, after the opening bracket of a class inside a set. The
first result tells whether the class is negated.
-/
def posix? : List Char → Option (Bool × CharSet × List Char)
  | ':' :: rest => do
    let (negated, body) := dropMark '^' rest
    let (name, rest) ← cutAt? ':' body
    match rest with
    | ']' :: rest =>
      let name := String.ofList name
      if posixNames.contains name then return (negated, .named name, rest) else none
    | _ => none
  | _ => none

/-- The character after a hyphen in a set, by which a range is told from a literal hyphen. In
verbose mode blanks and one `#` are looked through.
-/
def afterHyphen? (verbose : Bool) (rest : List Char) : Option Char :=
  if !verbose then rest.head?
  else
    let seen := ((dropMark '#' (rest.dropWhile isBlank)).2).dropWhile isBlank
    seen.head? <|> rest.head?

/-- Reads one item of a set. -/
def setItem? (mode : Mode) (text : List Char) : Option (Item × List Char) := do
  let (item, rest) ←
    match text with
    | [] => none
    | '\\' :: rest => escape? mode.verbose rest
    | c :: rest => some (Item.char c, rest)
  if item.isAllowedInSet mode then return (item, rest) else none

/-- An item as a member of a set; assertions are none. -/
def Item.member? : Item → Option CharSet
  | char c => some (.char c)
  | byte c => some (.char c)
  | shorthand letter => some (.named (String.singleton letter))
  | property name => some (.named name)
  | _ => none

/-- Reads a range or a single item of a set. -/
def setRange? (mode : Mode) (text : List Char) : Option (CharSet × List Char) := do
  let (first, rest) ← setItem? mode text
  match nextToken mode.verbose rest with
  | [] => none
  | c :: after =>
    let first ← first.member?
    let follower := afterHyphen? mode.verbose after
    if c != '-' || follower == some ']' || follower == some '-' then
      return (first, c :: after)
    else
      let (last, rest) ← setItem? mode (nextToken mode.verbose after)
      match first, ← last.member? with
      | .char low, .char high => if low ≤ high then return (.range low high, rest) else none
      | _, _ => none

/-- Takes hyphens at the start of a set as they are. -/
def leadingHyphens (verbose : Bool) : Nat → List Char → List CharSet × List Char
  | 0, text => ([], text)
  | fuel + 1, text =>
    match text with
    | '-' :: rest =>
      let (items, rest) := leadingHyphens verbose fuel (nextToken verbose rest)
      (.char '-' :: items, rest)
    | _ => ([], text)

/-- The items that stand at the start of a set: hyphens, or a closing bracket. -/
def setStart (verbose : Bool) (text : List Char) : List CharSet × List Char :=
  match leadingHyphens verbose text.length text with
  | ([], ']' :: rest) => ([.char ']'], nextToken verbose rest)
  | start => start

/-- The part of a set read so far: the left side of an operation, and items in reverse. -/
structure SetPart where
  pending : Option (SetOperation × CharSet)
  items : List CharSet

/-- The set that a part stands for. -/
def SetPart.close (part : SetPart) : CharSet :=
  let items := CharSet.ofItems part.items.reverse
  match part.pending with
  | some (kind, left) => .operation kind left items
  | none => items

/-- A set operator at the start of a text. -/
def setOperator? : List Char → Option (SetOperation × List Char)
  | '&' :: '&' :: rest => some (.intersection, rest)
  | '-' :: '-' :: rest => some (.difference, rest)
  | '~' :: '~' :: rest => some (.symmetricDifference, rest)
  | _ => none

mutual

/-- Reads a set after its opening bracket, up to its closing one. -/
def set? (mode : Mode) : Nat → List Char → Option (CharSet × List Char)
  | 0, _ => none
  | fuel + 1, text => do
    let verbose := mode.verbose
    let (negated, text) := dropMark '^' (nextToken verbose text)
    let (items, text) := setStart verbose (if negated then nextToken verbose text else text)
    let (set, rest) ← setItems? mode fuel ⟨none, items.reverse⟩ text
    if negated && !mode.unicode then none else return (.nested negated set, rest)

/-- Reads the items of a set, up to its closing bracket. -/
def setItems? (mode : Mode) : Nat → SetPart → List Char → Option (CharSet × List Char)
  | 0, _, _ => none
  | fuel + 1, part, text =>
    match nextToken mode.verbose text with
    | [] => none
    | c :: rest =>
      if c = ']' then some (part.close, rest)
      else if c = '[' then do
        let (item, rest) ←
          match posix? rest with
          | some (negated, found) => if negated && !mode.unicode then none else some found
          | none => set? mode fuel rest
        setItems? mode fuel { part with items := item :: part.items } rest
      else match setOperator? (c :: rest) with
        | some (kind, rest) => setItems? mode fuel ⟨some (kind, part.close), []⟩ rest
        | none => do
          let (item, rest) ← setRange? mode (c :: rest)
          setItems? mode fuel { part with items := item :: part.items } rest

end

/-- The number that digits spell, if it fits 32 bits. -/
def count? (digits : List Char) : Option Nat :=
  let digits := trim digits
  let n := digits.foldl (fun n c => n * 10 + (c.toNat - 48)) 0
  if digits.isEmpty || !digits.all Char.isDigit || UInt32.size ≤ n then none else some n

/-- Whether the inside of the braces of a repetition is well formed: `n`, `n,` or `n,m`. -/
def isCounted (inner : List Char) : Bool :=
  match cutAt? ',' inner with
  | none => (count? inner).isSome
  | some (low, []) => (count? low).isSome
  | some (low, high) =>
    match count? low, count? high with
    | some low, some high => low ≤ high
    | _, _ => false

/-- The text after a mark that makes a repetition lazy, if it is there. -/
def dropLazy (text : List Char) : List Char :=
  (dropMark '?' text).2

/-- Repeats the last item; there must be one, and it must not be flags. -/
def repeatLast? : List Expr → Option (List Expr)
  | [] => none
  | last :: before => if last.isFlags then none else some (.repetition last :: before)

/-- Whether a character can stand in the name of a group. -/
def isNameChar (isFirst : Bool) (c : Char) : Bool :=
  if isFirst then c == '_' || isAlphabetic c
  else c == '_' || c == '.' || c == '[' || c == ']' || isAlphanumeric c

/-- Reads the name of a group, up to its closing angle. -/
def groupName? (text : List Char) : Option (List Char × List Char) := do
  let (name, rest) ← cutAt? '>' text
  match name with
  | [] => none
  | c :: more =>
    if isNameChar true c && more.all (isNameChar false) then return (name, rest) else none

/-- The flags of the dialect. -/
def flagLetters : List Char := ['i', 'm', 's', 'U', 'u', 'R', 'x']

/-- Reads flags up to a colon or a closing parenthesis, which is given as well. No flag comes
twice, and a hyphen comes at most once and never last.
-/
def flags? (seen : List Char) : List Char → Option (List Char × Char × List Char)
  | [] => none
  | c :: rest =>
    if c = ':' || c = ')' then
      if seen.getLast? == some '-' then none else some (seen, c, rest)
    else if seen.contains c || !(c == '-' || flagLetters.contains c) then none
    else flags? (seen ++ [c]) rest

/-- The state of one flag after flags: on before a hyphen, off behind it. -/
def flagAfter (flags : List Char) (letter : Char) (before : Bool) : Bool :=
  if !flags.contains letter then before else !(flags.takeWhile (· != letter)).contains '-'

/-- The mode after flags. -/
def Mode.after (mode : Mode) (flags : List Char) : Mode :=
  ⟨flagAfter flags 'x' mode.verbose, flagAfter flags 'u' mode.unicode⟩

/-- What an opening parenthesis begins: flags alone, or a group with a mode of its own and
perhaps a name.
-/
inductive Opening where
  | flags (items : List Char) (rest : List Char)
  | group (name? : Option (List Char)) (mode : Mode) (rest : List Char)

/-- Marks of look-around, which the dialect lacks. -/
def lookMarks : List (List Char) := [['?', '='], ['?', '!'], ['?', '<', '='], ['?', '<', '!']]

/-- Reads what follows an opening parenthesis. -/
def opening? (mode : Mode) (text : List Char) : Option Opening := do
  let text := nextToken mode.verbose text
  if lookMarks.any (·.isPrefixOf text) then none
  match after? ['?', 'P', '<'] text <|> after? ['?', '<'] text with
  | some rest =>
    let (name, rest) ← groupName? rest
    return .group (some name) mode rest
  | none =>
    match text with
    | '?' :: rest =>
      let (flags, close, rest) ← flags? [] rest
      if close = ':' then return .group none (mode.after flags) rest
      else if flags.isEmpty then none
      else return .flags flags rest
    | _ => return .group none mode text

/-- Where a reading stands: the text ahead, the mode, and the names of groups so far. -/
structure Cursor where
  rest : List Char
  mode : Mode
  names : List (List Char)

/-- The name of a group, unless it was used before. -/
def Cursor.addName? (cursor : Cursor) : Option (List Char) → Option (List (List Char))
  | none => some cursor.names
  | some name => if cursor.names.contains name then none else some (name :: cursor.names)

/-- An item as an expression. -/
def Item.expr : Item → Expr
  | char c => .char c
  | byte c => .char c
  | shorthand letter => .named (String.singleton letter)
  | property name => .named name
  | assertion => .assertion
  | any => .any

/-- Reads a single item outside sets. -/
def item? (mode : Mode) (text : List Char) : Option (Item × List Char) := do
  let (item, rest) ←
    match text with
    | [] => none
    | '\\' :: rest => escape? mode.verbose rest
    | '.' :: rest => some (Item.any, rest)
    | '^' :: rest => some (Item.assertion, rest)
    | '$' :: rest => some (Item.assertion, rest)
    | c :: rest => some (Item.char c, rest)
  if item.isAllowed mode then return (item, rest) else none

/-- The expression of the branches before and the items of the last branch, both reversed. -/
def closeBranches (branches items : List Expr) : Expr :=
  .ofBranches ((Expr.ofItems items.reverse :: branches).reverse)

/-- Reads branches up to the end of the text, or inside a group up to its closing
parenthesis. `fuel` bounds the number of items.
-/
def branches? : Nat → Bool → Cursor → List Expr → List Expr → Option (Expr × Cursor)
  | 0, _, _, _, _ => none
  | fuel + 1, inGroup, cursor, branches, items =>
    let mode := cursor.mode
    let verbose := mode.verbose
    match nextToken verbose cursor.rest with
    | [] =>
      if inGroup then none else some (closeBranches branches items, { cursor with rest := [] })
    | c :: rest =>
      let go (rest : List Char) (items : List Expr) : Option (Expr × Cursor) :=
        branches? fuel inGroup { cursor with rest } branches items
      if c = '(' then do
        match ← opening? mode rest with
        | .flags flags rest =>
          branches? fuel inGroup
            { cursor with rest, mode := mode.after flags } branches (.flags flags :: items)
        | .group name? inner rest =>
          let names ← cursor.addName? name?
          let (body, after) ← branches? fuel true ⟨rest, inner, names⟩ [] []
          branches? fuel inGroup { after with mode } branches (.group body :: items)
      else if c = ')' then
        if inGroup then some (closeBranches branches items, { cursor with rest }) else none
      else if c = '|' then
        branches? fuel inGroup { cursor with rest } (Expr.ofItems items.reverse :: branches) []
      else if c = '[' then do
        match ← set? mode (2 * rest.length + 2) rest with
        | (.nested negated set, rest) => go rest (.bracket negated set :: items)
        | _ => none
      else if c = '*' || c = '+' || c = '?' then do
        go (dropLazy rest) (← repeatLast? items)
      else if c = '\x7b' then do
        let items ← repeatLast? items
        let (inner, rest) ← takeBraced verbose false rest
        if isCounted inner then go (dropLazy (nextToken verbose rest)) items else none
      else do
        let (item, rest) ← item? mode (c :: rest)
        go rest (item.expr :: items)

/-- The tree of a regular expression, if it is one of the dialect. -/
def read? (pattern : String) : Option Expr :=
  let text := pattern.toList
  (branches? (text.length + 1) false ⟨text, ⟨false, true⟩, []⟩ [] []).map Prod.fst

/-- How deep an expression may nest. -/
def depthLimit : Nat := 250

/-- Whether an expression is of the dialect and nests no deeper than it may. -/
def isSupported (pattern : String) : Bool :=
  match read? pattern with
  | some expr => expr.depth ≤ depthLimit
  | none => false

/-- What is wrong with an expression. The case of letters makes no difference. -/
def defect? (pattern : String) (_caseSensitive : Bool) : Option String :=
  if isSupported pattern then none else some "regex parse error:"

end Blocklist.Regex
