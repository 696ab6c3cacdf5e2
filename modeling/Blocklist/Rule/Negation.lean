import Blocklist.Rule.Basic

/-!
Badfilter rules cancel the rules that say the same, up to the order inside lists.
-/

namespace Blocklist

/-- Whether two sided lists have the same entries on each side, as often and in any order. -/
def Sided.sameEntries {α : Type} [BEq α] (left right : Sided α) : Bool :=
  left.permitted.isPerm right.permitted && left.restricted.isPerm right.restricted

namespace Rule

/-- Whether the badfilter rule `negation` cancels a rule. -/
def negates (negation rule : Rule) : Bool :=
  negation.isBadfilter && !rule.isBadfilter
    && negation.pattern == rule.pattern
    && negation.exception == rule.exception
    && negation.enabled.erase .badfilter == rule.enabled
    && negation.disabled == rule.disabled
    && negation.advancedValue == rule.advancedValue
    && negation.domains.sameEntries rule.domains
    && negation.targets.sameEntries rule.targets
    && negation.denyallow.isPerm rule.denyallow
    && negation.types.sameEntries rule.types
    && negation.methods.sameEntries rule.methods

/-- Whether one of the given rules cancels a rule. -/
def isNegatedBy (rule : Rule) (negations : List Rule) : Bool :=
  negations.any (·.negates rule)

end Rule

end Blocklist
