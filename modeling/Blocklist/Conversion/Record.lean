import Blocklist.Conversion.Action
import Blocklist.Conversion.Condition
import Blocklist.IdPool

/-!
The record of one rule. An id is taken before the record is checked, so a rejected record
keeps its id from being used again.
-/

namespace Blocklist.Conversion

open Declarative

/-- Checks that a record matches something, matches no more than its rule, and that the
engine takes its expression.
-/
def accept (env : Environment) (rule : Rule) (record : Record) : Except Rejection Record :=
  let condition := record.condition
  if condition.resourceTypes.any (·.isEmpty) then .error (.emptyResources rule record)
  else if !rule.domains.permitted.isEmpty && condition.initiatorDomains.all (·.isEmpty) then
    .error (.emptyDomains rule record)
  else match condition.regexFilter with
    | none => .ok record
    | some pattern =>
      match env.regexDefect? pattern (condition.isUrlFilterCaseSensitive == some true) with
      | some reason => .error (.unsupportedRegex rule record reason)
      | none => .ok record

/-- The action and condition of a rule, unless it cannot be expressed. -/
def draft (env : Environment) (rule : Rule) : Except Rejection (Action × Condition) :=
  match unsupportedModifier? rule with
  | some modifier => .error (.unsupportedModifier rule modifier)
  | none => (·, conditionOf env rule) <$> actionOf env rule

/-- What converting a rule gives: a record or a rejection, and the pool afterwards. There is
no result when no id is free for the rule.
-/
def convertRule? (env : Environment) (pool : IdPool) (rule : Rule) :
    Option (Except Rejection Record × IdPool) :=
  match draft env rule with
  | .error rejection => some (.error rejection, pool)
  | .ok (action, condition) =>
    (pool.allocate? rule.text).map fun (id, pool) =>
      (accept env rule { id, priority := rule.priority, action, condition }, pool)

end Blocklist.Conversion
