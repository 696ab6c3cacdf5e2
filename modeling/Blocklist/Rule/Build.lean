import Blocklist.Filter.Basic
import Blocklist.Rule.Header

/-!
Building rules from filters without aliases. Modifiers are applied from left to right and
the first one at fault refuses the filter.
-/

namespace Blocklist

open Text

/-- The value of a modifier that must have one. -/
def Modifier.requireValue (modifier : Modifier) : Except RuleFault String :=
  match modifier.value with
  | some value => if value.isEmpty then .error (.missingValue modifier.name) else .ok value
  | none => .error (.missingValue modifier.name)

/-- The trimmed entries of a list that is written with bars. -/
def barEntries (value : String) : List (List Char) :=
  (value.toList.splitOn '|').map trim

/-- The form in which a domain is kept: lower case, but an expression as it is written. -/
def domainForm (domain : List Char) : String :=
  String.ofList (if beginsWith '/' domain then domain else lowercase domain)

/-- Reads one entry of a domain list; a `~` marks it as restricted. -/
def readDomain (list : String) (entry : List Char) : Except RuleFault (Bool × String) :=
  let (isRestricted, domain) := dropMark '~' entry
  if domain.isEmpty then .error (.emptyDomain list) else .ok (isRestricted, domainForm domain)

/-- Reads a domain list. Blank entries are passed over, but one entry must be left. -/
def readDomains (list : String) : Except RuleFault (Sided String) := do
  let entries ← ((barEntries list).filter (!·.isEmpty)).mapM (readDomain list)
  if entries.isEmpty then throw (.emptyDomainList list)
  return Sided.ofMarked entries

/-- Reads a domain list that may hold neither restricted domains nor wildcards. -/
def readPlainDomains (list : String) : Except RuleFault (List String) := do
  let domains ← readDomains list
  if !domains.restricted.isEmpty then throw .negatedDenyallow
  if domains.permitted.any Pattern.hasWildcard then throw .wildcardDenyallow
  return domains.permitted

/-- Reads one entry of a method list; a `~` marks it as restricted. -/
def readMethod (entry : List Char) : Except RuleFault (Bool × RequestMethod) :=
  let (isRestricted, name) := dropMark '~' entry
  match RequestMethod.ofFilter? (String.ofList name) with
  | some method => .ok (isRestricted, method)
  | none => .error (.unknownMethod (String.ofList name))

/-- Reads a method list. -/
def readMethods (list : String) : Except RuleFault (Sided RequestMethod) :=
  Sided.ofMarked <$> (barEntries list).mapM readMethod

namespace Rule

/-- Takes in the value of a modifier whose feature was just enabled. -/
def applyValue (rule : Rule) (feature : Feature) (modifier : Modifier) :
    Except RuleFault Rule := do
  match feature with
  | .targets =>
    let targets ← readDomains (← modifier.requireValue)
    return { rule with targets := rule.targets.append targets }
  | .denyallow =>
    let domains ← readPlainDomains (← modifier.requireValue)
    return { rule with denyallow := rule.denyallow ++ domains }
  | .method =>
    let methods ← readMethods (← modifier.requireValue)
    return { rule with methods := rule.methods.append methods }
  | .removeheader =>
    let rule := { rule with advancedValue := modifier.value }
    match modifier.value with
    | none | some "" => return rule
    | some value => return { rule with headerRemoval := some (← HeaderRemoval.ofValue value) }
  | .redirect | .removeparam | .csp | .permissions | .cookie =>
    return { rule with advancedValue := modifier.value }
  | _ => return rule

/-- Takes in a modifier that stands for a feature. -/
def applyFeature (rule : Rule) (feature : Feature) (modifier : Modifier) :
    Except RuleFault Rule :=
  if !modifier.negated then
    applyValue { rule with enabled := rule.enabled.insert feature } feature modifier
  else if Feature.negatable.contains feature then
    .ok { rule with disabled := rule.disabled.insert feature }
  else .error (.notNegatable modifier.name)

/-- Takes in a resource type. An exception for documents switches off all that filtering
does there.
-/
def applyType (rule : Rule) (type : ResourceType) (negated : Bool) : Rule :=
  let enabled :=
    if type = .mainFrame && rule.exception && !negated then
      rule.enabled.insertAll Feature.documentParts
    else rule.enabled
  { rule with enabled, types := rule.types.insert negated type }

/-- Takes in one modifier. -/
def apply (rule : Rule) (modifier : Modifier) : Except RuleFault Rule :=
  if modifier.name = "domain" then do
    let domains ← readDomains (← modifier.requireValue)
    return { rule with domains := rule.domains.append domains }
  else match ResourceType.ofModifier? modifier.name with
    | some type => .ok (rule.applyType type modifier.negated)
    | none =>
      match Feature.ofModifier? modifier.name with
      | some feature => rule.applyFeature feature modifier
      | none => .error (.unknownModifier modifier.name)

/-- The rule of a filter before its modifiers are taken in. -/
def start (filter : Filter) (origin : Origin) : Rule where
  origin := origin
  text := filter.text
  pattern := filter.pattern
  exception := filter.exception

/-- The rule of a filter without aliases. -/
def ofFilter (filter : Filter) (origin : Origin) : Except RuleFault Rule :=
  filter.modifiers.foldlM apply (start filter origin)

end Rule

end Blocklist
