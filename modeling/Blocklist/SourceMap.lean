import Blocklist.Json.Basic
import Blocklist.Rule.Basic

/-!
Source maps link the records of a ruleset to the lines they come from.
-/

namespace Blocklist

/-- One link: a record, and a line by its unit and its byte offset there. -/
structure SourceEntry where
  id : UInt32
  unit : Nat
  index : Nat
  deriving DecidableEq, Repr

namespace SourceEntry

/-- The link from a record to the line of a rule. -/
def ofOrigin (id : UInt32) (origin : Origin) : SourceEntry :=
  ⟨id, origin.unit, origin.index⟩

/-- The entries of a source map that link a record. -/
def ofRecord (entries : List SourceEntry) (id : UInt32) : List SourceEntry :=
  entries.filter (·.id == id)

/-- The entries of a source map that do not link a record. -/
def withoutRecord (entries : List SourceEntry) (id : UInt32) : List SourceEntry :=
  entries.filter (·.id != id)

/-- The JSON form of an entry. -/
def encode (entry : SourceEntry) : Json :=
  .object [("declarativeRuleId", .number entry.id.toNat), ("unitId", .number entry.unit),
    ("sourceIndex", .number entry.index)]

end SourceEntry

end Blocklist
