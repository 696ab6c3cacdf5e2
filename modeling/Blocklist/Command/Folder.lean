import Blocklist.Command.Plan
import Blocklist.Text.Utf8

/-!
Commands on a folder in memory: files by name, and no folders inside.
-/

namespace Blocklist

/-- A folder: the bytes of its files, by name. -/
structure Folder where
  files : List (String × List UInt8) := []
  deriving DecidableEq, Repr

namespace Folder

/-- The name of the file that a path leads to. -/
def name? (path : String) : Option String :=
  match Command.pathParts path with
  | [part] => if path.startsWith "/" then none else some (String.ofList part)
  | _ => none

/-- The bytes of a file. -/
def get? (folder : Folder) (name : String) : Option (List UInt8) :=
  folder.files.lookup name

/-- The text of the file at a path. -/
def read (folder : Folder) (path : String) : Except FileFault String :=
  match (name? path).bind folder.get? with
  | none => .error .missing
  | some bytes => (Text.decodeUtf8 bytes).map String.ofList |>.mapError fun _ => .notText

/-- The folder with a file replaced or added. -/
def put (folder : Folder) (name : String) (bytes : List UInt8) : Folder :=
  ⟨folder.files.filter (·.1 != name) ++ [(name, bytes)]⟩

/-- Writes a text to the file at a path. -/
def write (folder : Folder) (path text : String) : Except FileFault Folder :=
  match name? path with
  | some name => .ok (folder.put name (Text.encodeUtf8 text))
  | none => .error .missing

end Folder

/-- How a command ended: what it printed, its fault, and the folder it left. -/
structure Ending where
  lines : List String
  fault? : Option CommandFault
  folder : Folder
  deriving DecidableEq, Repr

/-- Carries out steps in a folder, up to the first file that cannot be written, and ends with
`fault?` if there is none such.
-/
def Folder.perform (fault? : Option CommandFault) : Folder → List Step → Ending
  | folder, [] => ⟨[], fault?, folder⟩
  | folder, .print line :: rest =>
    let ending := perform fault? folder rest
    { ending with lines := line :: ending.lines }
  | folder, .write path text :: rest =>
    match folder.write path text with
    | .error fault => ⟨[], some (.write path fault), folder⟩
    | .ok folder => perform fault? folder rest

/-- Runs a command in a folder. -/
def Command.run (folder : Folder) (command : Command) : Ending :=
  let plan := command.plan folder.read
  folder.perform plan.fault? plan.steps

end Blocklist
