import Blocklist.Rule.Basic

/-!
Why a well-formed filter may still be no rule.
-/

namespace Blocklist

/-- What is wrong with a modifier of a filter. -/
inductive RuleFault where
  | unknownModifier (name : String)
  | missingValue (name : String)
  | notNegatable (name : String)
  | emptyDomain (list : String)
  | emptyDomainList (list : String)
  | negatedDenyallow
  | wildcardDenyallow
  | unknownMethod (name : String)
  | missingHeaderName
  | protectedHeader (name : String)
  deriving DecidableEq, Repr

/-- The wording of a fault. -/
def RuleFault.message : RuleFault → String
  | unknownModifier name => s!"unknown modifier: {name}"
  | missingValue name => s!"modifier `{name}` requires a value"
  | notNegatable name => s!"modifier `{name}` cannot be negated"
  | emptyDomain list => s!"empty domain in list: {list}"
  | emptyDomainList list => s!"empty domain list: {list}"
  | negatedDenyallow => "`denyallow` does not accept negated domains"
  | wildcardDenyallow => "`denyallow` does not accept wildcard domains"
  | unknownMethod name => s!"unknown request method: {name}"
  | missingHeaderName => "`removeheader` requires a header name"
  | protectedHeader name => s!"header `{name}` cannot be removed"

end Blocklist
