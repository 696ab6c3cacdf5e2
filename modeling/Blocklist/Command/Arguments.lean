import Blocklist.Settings
import Blocklist.Text.Affix

/-!
The arguments of the command line. Options may be written `-i FILE`, `-iFILE`, `-i=FILE`,
`--input FILE` or `--input=FILE`, and letters of one argument may be joined, as in `-vi FILE`.
-/

namespace Blocklist

/-- What a conversion of files is asked to do. -/
structure CompileRequest where
  inputs : List String
  output : String
  sourceMap : Option String
  settings : Settings
  scanCap : Option Nat
  verbose : Bool
  deriving DecidableEq, Repr

/-- A command: convert filter lists, check a ruleset, or count what is in it. -/
inductive Command where
  | compile (request : CompileRequest)
  | validate (input : String)
  | info (input : String)
  deriving DecidableEq, Repr

namespace Command

/-- An option: its name, the letter it may have, and whether it has a value and may come
more than once.
-/
structure Flag where
  name : String
  letter : Option Char := none
  hasValue : Bool := true
  isRepeatable : Bool := false
  deriving DecidableEq, Repr

/-- The options of a conversion. -/
def compileFlags : List Flag :=
  [{ name := "input", letter := some 'i', isRepeatable := true },
    { name := "output", letter := some 'o' }, { name := "source-map" },
    { name := "resources-path" }, { name := "max-rules" }, { name := "max-unsafe-rules" },
    { name := "max-regexp-rules" }, { name := "max-scanned-rules" },
    { name := "verbose", letter := some 'v', hasValue := false }]

/-- The options of the commands that read a ruleset. -/
def rulesetFlags : List Flag :=
  [{ name := "input", letter := some 'i' }]

/-- An option as it was given. -/
structure Given where
  flag : Flag
  value : String

/-- Takes a value from the next argument. One that looks like an option is none; a single
hyphen does not look like one.
-/
def valueFrom? : List String → Option (String × List String)
  | [] => none
  | value :: rest =>
    match value.toList with
    | '-' :: _ :: _ => none
    | _ => some (value, rest)

/-- Reads the letters of an argument after its hyphen, with the arguments behind it. -/
def readLetters? (flags : List Flag) (rest : List String) :
    List Char → Option (List Given × List String)
  | [] => some ([], rest)
  | letter :: more => do
    let flag ← flags.find? (·.letter == some letter)
    if !flag.hasValue then
      let (given, rest) ← readLetters? flags rest more
      return (⟨flag, ""⟩ :: given, rest)
    else match more with
      | [] =>
        let (value, rest) ← valueFrom? rest
        return ([⟨flag, value⟩], rest)
      | more => return ([⟨flag, String.ofList (Text.dropMark '=' more).2⟩], rest)

/-- Reads an argument after its two hyphens, with the arguments behind it. -/
def readLong? (flags : List Flag) (rest : List String) (body : List Char) :
    Option (Given × List String) := do
  let named (name : List Char) : Option Flag := flags.find? (·.name.toList == name)
  match Text.cutAt? '=' body with
  | some (name, value) =>
    let flag ← named name
    if flag.hasValue then return (⟨flag, String.ofList value⟩, rest) else none
  | none =>
    let flag ← named body
    if !flag.hasValue then return (⟨flag, ""⟩, rest)
    let (value, rest) ← valueFrom? rest
    return (⟨flag, value⟩, rest)

/-- Reads all arguments of a command; there are none besides options. `fuel` bounds their
number.
-/
def readGiven? (flags : List Flag) : Nat → List String → Option (List Given)
  | _, [] => some []
  | 0, _ :: _ => none
  | fuel + 1, argument :: rest =>
    match argument.toList with
    | ['-', '-'] => if rest.isEmpty then some [] else none
    | '-' :: '-' :: body => do
      let (given, rest) ← readLong? flags rest body
      return given :: (← readGiven? flags fuel rest)
    | '-' :: letter :: more => do
      let (given, rest) ← readLetters? flags rest (letter :: more)
      return given ++ (← readGiven? flags fuel rest)
    | _ => none

/-- Whether an option that may come once does. -/
def isOnce (given : List Given) (flag : Flag) : Bool :=
  flag.isRepeatable || given.countP (·.flag == flag) ≤ 1

/-- Reads the options of a command. -/
def options? (flags : List Flag) (arguments : List String) : Option (List Given) := do
  let given ← readGiven? flags arguments.length arguments
  if flags.all (isOnce given) then return given else none

/-- The values given for an option, in order. -/
def valuesOf (given : List Given) (name : String) : List String :=
  (given.filter (·.flag.name == name)).map Given.value

/-- The value given for an option. -/
def valueOf? (given : List Given) (name : String) : Option String :=
  (valuesOf given name).head?

/-- The count that a text spells: digits, perhaps after a plus, with a value of at most 64
bits.
-/
def count? (text : String) : Option Nat :=
  let digits := (Text.dropMark '+' text.toList).2
  let n := digits.foldl (fun n c => n * 10 + (c.toNat - 48)) 0
  if !digits.isEmpty && digits.all Char.isDigit && n < UInt64.size then some n else none

/-- The count given for an option; no count at all is fine, a malformed one is not. -/
def countOf? (given : List Given) (name : String) : Option (Option Nat) :=
  match valueOf? given name with
  | none => some none
  | some text => (count? text).map some

/-- Reads the arguments of a conversion. -/
def compileOf? (arguments : List String) : Option Command := do
  let given ← options? compileFlags arguments
  let inputs := valuesOf given "input"
  if inputs.isEmpty then none
  let settings : Settings :=
    { resourcesPath := valueOf? given "resources-path"
      maxRules := ← countOf? given "max-rules"
      maxUnsafeRules := ← countOf? given "max-unsafe-rules"
      maxRegexRules := ← countOf? given "max-regexp-rules" }
  return .compile
    { inputs
      output := (valueOf? given "output").getD "rules.json"
      sourceMap := valueOf? given "source-map"
      settings
      scanCap := ← countOf? given "max-scanned-rules"
      verbose := !(valuesOf given "verbose").isEmpty }

/-- Reads the arguments of a command that reads a ruleset. -/
def rulesetOf? (command : String → Command) (arguments : List String) : Option Command := do
  command <$> valueOf? (← options? rulesetFlags arguments) "input"

/-- The command that arguments ask for, if they are well formed. -/
def ofArguments? : List String → Option Command
  | "compile" :: arguments => compileOf? arguments
  | "validate" :: arguments => rulesetOf? .validate arguments
  | "info" :: arguments => rulesetOf? .info arguments
  | _ => none

/-- The files a command reads. -/
def inputs : Command → List String
  | compile request => request.inputs
  | validate input => [input]
  | info input => [input]

end Command

end Blocklist
