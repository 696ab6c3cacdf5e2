import Blocklist.Json.Decode
import Blocklist.Resource

/-!
Settings of a conversion: where redirect resources are kept, and the quotas of the output. The
environment of a conversion adds what it relies on besides its input.
-/

namespace Blocklist

/-- Settings of a conversion. -/
structure Settings where
  resourcesPath : Option String := none
  maxRules : Option Nat := none
  maxUnsafeRules : Option Nat := none
  maxRegexRules : Option Nat := none
  deriving DecidableEq, Repr

/-- Why settings are refused. -/
inductive SettingsFault where
  | zeroRuleLimit
  | malformedResourcesPath (path : String)
  deriving DecidableEq, Repr

/-- The wording of a fault. -/
def SettingsFault.message : SettingsFault → String
  | zeroRuleLimit => "maximum number of rules must be greater than zero"
  | malformedResourcesPath path =>
    s!"resources path `{path}` must start with `/` and must not end with `/`"

namespace Settings

/-- Whether a path begins with a slash and does not end with one. -/
def isWellFormedPath (path : String) : Bool :=
  Text.beginsWith '/' path.toList && !Text.endsWith '/' path.toList

/-- The fault of settings, if they have one. -/
def fault? (settings : Settings) : Option SettingsFault :=
  if settings.maxRules = some 0 then some .zeroRuleLimit
  else match settings.resourcesPath with
    | some path => if isWellFormedPath path then none else some (.malformedResourcesPath path)
    | none => none

/-- How settings are written. -/
def schema : Json.Schema Settings where
  title := "struct ConverterOptions"
  fields :=
    ["resourcesPath", "maxNumberOfRules", "maxNumberOfUnsafeRules", "maxNumberOfRegexpRules"]
  required := []
  assign _ field document settings :=
    match field with
    | "resourcesPath" =>
      return { settings with
        resourcesPath := ← document.asOption (Json.Document.asString "a string") }
    | "maxNumberOfRules" =>
      return { settings with maxRules := ← document.asOption Json.Document.asSize }
    | "maxNumberOfUnsafeRules" =>
      return { settings with maxUnsafeRules := ← document.asOption Json.Document.asSize }
    | "maxNumberOfRegexpRules" =>
      return { settings with maxRegexRules := ← document.asOption Json.Document.asSize }
    | _ => return settings

/-- Decodes settings. -/
def read (stage : Json.Stage) : Json.Document → Json.Decoded Settings :=
  schema.read stage {}

/-- Reads settings from their text. -/
def ofText (text : String) : Json.Decoded Settings :=
  Json.readText (read .streamed) text

end Settings

/-- The settings of a conversion, what is wrong with a regular expression when letters count
by case or not, the file a redirect goes to, and the ASCII encoding of a lowercase label, if it
has one.
-/
structure Conversion.Environment where
  settings : Settings
  regexDefect? : String → Bool → Option String
  resolve : String → Except UnknownResource String
  encodeLabel? : List Char → Option (List Char)

end Blocklist
