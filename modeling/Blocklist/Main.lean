import Blocklist.Command.Plan
import Blocklist.Text.Utf8

/-!
The command line: `compile`, `validate` and `info`.
-/

namespace Blocklist.CommandLine

/-- What the command line looks like. -/
def usage : String :=
  "usage: blocklist compile -i FILE... [-o FILE] [--source-map FILE] [--resources-path PATH]\n"
    ++ "         [--max-rules N] [--max-unsafe-rules N] [--max-regexp-rules N]\n"
    ++ "         [--max-scanned-rules N] [-v]\n"
    ++ "       blocklist validate -i FILE\n"
    ++ "       blocklist info -i FILE"

/-- A failure of the file system as a fault. -/
def faultOf : IO.Error → FileFault
  | .noFileOrDirectory _ _ _ => .missing
  | error => .other (toString error)

/-- Reads a file. -/
def readText (path : String) : IO (Except FileFault String) := do
  try
    let bytes ← IO.FS.readBinFile path
    match Text.decodeUtf8 bytes.toList with
    | .ok text => return .ok (String.ofList text)
    | .error _ => return .error .notText
  catch error => return .error (faultOf error)

/-- Writes a file. -/
def writeText (path text : String) : IO (Except FileFault Unit) := do
  try
    IO.FS.writeFile path text
    return .ok ()
  catch error => return .error (faultOf error)

/-- Reports a fault. -/
def report (fault : CommandFault) : IO UInt32 := do
  IO.eprintln s!"Error: {fault.message}"
  return 1

/-- Carries out steps, up to the first file that cannot be written. -/
def perform (fault? : Option CommandFault) : List Step → IO UInt32
  | [] =>
    match fault? with
    | some fault => report fault
    | none => return 0
  | .print line :: rest => do
    IO.println line
    perform fault? rest
  | .write path text :: rest => do
    match ← writeText path text with
    | .error fault => report (.write path fault)
    | .ok () => perform fault? rest

/-- Runs a command on the files it names. -/
def execute (command : Command) : IO UInt32 := do
  let texts ← command.inputs.mapM fun path => return (path, ← readText path)
  let plan := command.plan fun path => (texts.lookup path).getD (.error .missing)
  perform plan.fault? plan.steps

end Blocklist.CommandLine

/-- Runs the command that the arguments ask for. -/
def main (arguments : List String) : IO UInt32 := do
  match Blocklist.Command.ofArguments? arguments with
  | some command => Blocklist.CommandLine.execute command
  | none =>
    IO.eprintln Blocklist.CommandLine.usage
    return 2
