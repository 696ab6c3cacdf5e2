import Blocklist.Digest
import Blocklist.Feature
import Blocklist.Request
import Blocklist.Text.Affix

/-!
Rules: what a filter without aliases says, taken apart into features and lists. A pattern or a
domain entry is a regular expression between slashes, or plain text with wildcards.
-/

namespace Blocklist

namespace Pattern

/-- Whether a text is a regular expression between slashes. A single character between them
is the least there can be.
-/
def isRegex (text : String) : Bool :=
  2 < text.utf8ByteSize && Text.beginsWith '/' text.toList && Text.endsWith '/' text.toList

/-- The expression between the slashes; any other text is kept. -/
def expression (text : String) : String :=
  if isRegex text then String.ofList (text.toList.tail.dropLast) else text

/-- Whether a text holds a wildcard. -/
def hasWildcard (text : String) : Bool :=
  text.toList.contains '*'

end Pattern

/-- A list with a permitted and a restricted side. -/
structure Sided (α : Type) where
  permitted : List α := []
  restricted : List α := []
  deriving DecidableEq, Repr

namespace Sided

variable {α : Type}

/-- Adds the entries of another list on both sides. -/
def append (list more : Sided α) : Sided α :=
  ⟨list.permitted ++ more.permitted, list.restricted ++ more.restricted⟩

/-- The list whose restricted entries are those marked as such. -/
def ofMarked (entries : List (Bool × α)) : Sided α where
  permitted := (entries.filter (!·.1)).map Prod.snd
  restricted := (entries.filter (·.1)).map Prod.snd

/-- Adds one entry to a side unless that side has it. -/
def insert [DecidableEq α] (list : Sided α) (isRestricted : Bool) (entry : α) : Sided α :=
  let add (side : List α) : List α := if entry ∈ side then side else side ++ [entry]
  if isRestricted then { list with restricted := add list.restricted }
  else { list with permitted := add list.permitted }

end Sided

/-- Where a rule comes from: its unit, the byte offset of its line there, and the line. -/
structure Origin where
  unit : Nat := 0
  index : Nat := 0
  line : Nat := 0
  deriving DecidableEq, Repr

/-- A header that a rule removes, from requests or from responses. -/
structure HeaderRemoval where
  name : String
  fromRequests : Bool
  deriving DecidableEq, Repr

/-- A rule. `advancedValue` is the value of the last modifier that carries one for the
action; `targets` restrict the requested domains, `domains` the pages that ask for them.
-/
structure Rule where
  origin : Origin
  text : String
  pattern : String
  exception : Bool
  enabled : FeatureSet := .empty
  disabled : FeatureSet := .empty
  advancedValue : Option String := none
  domains : Sided String := {}
  targets : Sided String := {}
  denyallow : List String := []
  types : Sided ResourceType := {}
  methods : Sided RequestMethod := {}
  headerRemoval : Option HeaderRemoval := none
  deriving DecidableEq, Repr

namespace Rule

/-- Every rule has the same priority. -/
def priority (_ : Rule) : UInt32 := 1

/-- The fingerprint of the pattern. -/
def patternHash (rule : Rule) : UInt32 :=
  Digest.ofPattern rule.pattern

/-- The header that a rule removes from requests. -/
def requestHeader? (rule : Rule) : Option String :=
  (rule.headerRemoval.filter (·.fromRequests)).map HeaderRemoval.name

/-- The header that a rule removes from responses. -/
def responseHeader? (rule : Rule) : Option String :=
  (rule.headerRemoval.filter (!·.fromRequests)).map HeaderRemoval.name

/-- Whether every kind of filtering is off for a page. -/
def disablesFiltering (rule : Rule) : Bool :=
  rule.enabled.includes Feature.documentParts

/-- Whether a rule only cancels other rules. -/
def isBadfilter (rule : Rule) : Bool :=
  rule.enabled.contains .badfilter

end Rule

end Blocklist
