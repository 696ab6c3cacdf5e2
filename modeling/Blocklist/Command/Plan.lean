import Blocklist.Command.Arguments
import Blocklist.Conversion.Run
import Blocklist.Declarative.Decode
import Blocklist.Declarative.Encode
import Blocklist.Host.Punycode
import Blocklist.Regex.Reader
import Blocklist.Resource

/-!
What a command does, as data: the lines it prints and the files it writes, in order, and the
fault it ends with. A plan depends on nothing but the texts of the command's input files.
-/

namespace Blocklist

/-- Why a file cannot be read or written. -/
inductive FileFault where
  | missing
  | notText
  | other (message : String)
  deriving DecidableEq, Repr

/-- The wording of a fault. -/
def FileFault.message : FileFault → String
  | missing => "No such file or directory (os error 2)"
  | notText => "stream did not contain valid UTF-8"
  | other message => message

/-- Why a command fails. -/
inductive CommandFault where
  | read (path : String) (fault : FileFault)
  | write (path : String) (fault : FileFault)
  | conversion (fault : Conversion.RunFault)
  | json (fault : Json.ReadFault)
  | ids (fault : Conversion.RunFault)
  | conflicts (count : Nat)
  deriving DecidableEq, Repr

/-- The wording of a fault. -/
def CommandFault.message : CommandFault → String
  | read path fault => s!"Failed to read '{path}': {fault.message}"
  | write path fault => s!"Failed to write '{path}': {fault.message}"
  | conversion fault => s!"Conversion failed: {fault.message}"
  | json fault => s!"Invalid ruleset: {fault.message}"
  | ids fault => s!"Invalid ruleset: {fault.message}"
  | conflicts count => s!"Invalid ruleset: {count} rules set both urlFilter and regexFilter"

/-- One step of a command. -/
inductive Step where
  | print (line : String)
  | write (path text : String)
  deriving DecidableEq, Repr

/-- The steps of a command, and the fault it ends with. -/
structure Plan where
  steps : List Step
  fault? : Option CommandFault := none
  deriving DecidableEq, Repr

/-- The text of each file, or why it has none. -/
abbrev Files := String → Except FileFault String

namespace Plan

/-- A plan that only prints. -/
def printing (lines : List String) : Plan :=
  ⟨lines.map .print, none⟩

/-- A plan that fails without a step. -/
def failing (fault : CommandFault) : Plan :=
  ⟨[], some fault⟩

/-- A plan with steps in front. -/
def after (steps : List Step) (plan : Plan) : Plan :=
  { plan with steps := steps ++ plan.steps }

end Plan

namespace Command

/-- The parts of a path between slashes, of which empty ones and single dots do not count. -/
def pathParts (path : String) : List (List Char) :=
  (path.toList.splitOn '/').filter fun part => !(part == [] || part == ['.'])

/-- The last part of a path, if it names a file. -/
def fileName (path : String) : String :=
  match (pathParts path).getLast? with
  | some part => if part = ['.', '.'] then "" else String.ofList part
  | none => ""

/-- A filter list that was read: where it stands, how many lines it has, and what was scanned
from it.
-/
structure LoadedUnit where
  path : String
  lineCount : Nat
  scanned : ScannedUnit

/-- The line about a filter list that was read. -/
def LoadedUnit.summary (unit : LoadedUnit) : String :=
  s!"  [{unit.scanned.unit}] {fileName unit.path} - {unit.lineCount} lines, "
    ++ s!"{unit.scanned.rules.length} rules, {unit.scanned.rejections.length} errors"

/-- Reads filter lists in order, numbered from `unit` on, until one cannot be read. -/
def load (files : Files) (cap : Option Nat) :
    Nat → List String → List LoadedUnit × Option CommandFault
  | _, [] => ([], none)
  | unit, path :: rest =>
    match files path with
    | .error fault => ([], some (.read path fault))
    | .ok text =>
      let (more, fault?) := load files cap (unit + 1) rest
      ({ path, lineCount := (Listing.lines text.toList).length
         scanned := ScannedUnit.scan unit text cap fun _ => true } :: more, fault?)

/-- The environment of a conversion on the command line. -/
def environment (settings : Settings) : Conversion.Environment where
  settings := settings
  regexDefect? := Regex.defect?
  resolve := Resource.resolve
  encodeLabel? := Host.Punycode.encode?

/-- The steps after a conversion: the files, then what was left out, then the totals. -/
def compileSteps (request : CompileRequest) (units : List LoadedUnit) (output : Output) :
    List Step :=
  let sources := Json.array (output.sources.map SourceEntry.encode)
  let lineCount := units.foldr (fun unit n => unit.lineCount + n) 0
  let scanned := units.foldr (fun unit n => unit.scanned.rules.length + n) 0
  .write request.output (Declarative.encodeRuleset output.records).toPretty
    :: (request.sourceMap.toList.map fun path => .write path sources.toCompact)
    ++ (if request.verbose then
        output.rejections.map fun rejection => .print s!"  error: {rejection.message}"
      else [])
    ++ (output.limitations.map fun limitation => .print s!"  limit: {limitation.message}")
    ++ [.print s!"Converted {request.inputs.length} filter lists to '{request.output}'",
      .print s!"  Lines:    {lineCount}",
      .print s!"  Rules:    {scanned} scanned -> {output.records.length} declarative",
      .print s!"  Errors:   {output.rejections.length}"]

/-- The plan of a conversion. -/
def compilePlan (files : Files) (request : CompileRequest) : Plan :=
  let (units, fault?) := load files request.scanCap 0 request.inputs
  let summaries :=
    if request.verbose then units.map fun unit => Step.print unit.summary else []
  Plan.after summaries <|
    match fault? with
    | some fault => .failing fault
    | none =>
      let scanned := units.map LoadedUnit.scanned
      match (Conversion.run (environment request.settings) .empty scanned).1 with
      | .error fault => .failing (.conversion fault)
      | .ok output => ⟨compileSteps request units output, none⟩

/-- Reads a ruleset. -/
def loadRuleset (files : Files) (input : String) :
    Except CommandFault (List Declarative.Record) := do
  let text ← (files input).mapError (.read input)
  (Declarative.rulesetOfText text).mapError .json

/-- Whether a record has a filter and a regular expression for addresses. -/
def isConflicting (record : Declarative.Record) : Bool :=
  record.condition.urlFilter.isSome && record.condition.regexFilter.isSome

/-- Checks a ruleset: its ids, then its conditions. -/
def checkRuleset (records : List Declarative.Record) : Option CommandFault :=
  match Conversion.idFault? records with
  | some fault => some (.ids fault)
  | none =>
    let count := records.countP isConflicting
    if 0 < count then some (.conflicts count) else none

/-- The plan of a check. -/
def validatePlan (files : Files) (input : String) : Plan :=
  match loadRuleset files input with
  | .error fault => .failing fault
  | .ok records =>
    match checkRuleset records with
    | some fault => .failing fault
    | none => .printing [s!"Ruleset '{input}' is valid", s!"  Rules:       {records.length}"]

/-- Whether an action redirects. -/
def isRedirect : Declarative.Action → Bool
  | .redirect _ => true
  | _ => false

/-- Whether an action changes headers. -/
def isHeaderChange : Declarative.Action → Bool
  | .modifyHeaders _ _ => true
  | _ => false

/-- The plan of a count. -/
def infoPlan (files : Files) (input : String) : Plan :=
  match loadRuleset files input with
  | .error fault => .failing fault
  | .ok records =>
    let actions := records.map (·.action)
    .printing
      [s!"Ruleset: {input}", s!"  Rules:       {records.length}",
        s!"  Unsafe:      {records.countP (·.isUnsafe)}",
        s!"  Regex:       {records.countP (·.isRegex)}", "", "Actions:",
        s!"  Block:             {actions.count .block}",
        s!"  Allow:             {actions.count .allow}",
        s!"  AllowAllRequests:  {actions.count .allowAllRequests}",
        s!"  Redirect:          {actions.countP isRedirect}",
        s!"  ModifyHeaders:     {actions.countP isHeaderChange}"]

/-- What a command does, given the texts of its input files. -/
def plan (files : Files) : Command → Plan
  | compile request => compilePlan files request
  | validate input => validatePlan files input
  | info input => infoPlan files input

end Command

end Blocklist
