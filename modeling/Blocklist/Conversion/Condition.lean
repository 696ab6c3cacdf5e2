import Blocklist.Declarative.Basic
import Blocklist.Host.Label
import Blocklist.Rule.Basic
import Blocklist.Settings

/-!
The condition of a rule: its pattern and lists in the form the engine takes, all in ASCII.
-/

namespace Blocklist.Conversion

open Declarative

/-- A list that is left unset when it is empty. -/
def nonEmpty? {α : Type} (values : List α) : Option (List α) :=
  if values.isEmpty then none else some values

/-- The form of a plain pattern. A domain anchor before a wildcard matches what the wildcard
alone matches.
-/
def urlPattern (pattern : String) : String :=
  match Text.after? ['|', '|', '*'] pattern.toList with
  | some rest => String.ofList ('*' :: rest)
  | none => pattern

/-- The expression of a rule whose pattern is one. -/
def regexFilter? (env : Environment) (rule : Rule) : Option String :=
  if Pattern.isRegex rule.pattern then
    some (Host.toAscii env.encodeLabel? (Pattern.expression rule.pattern))
  else none

/-- The plain pattern of a rule, unless it is empty. -/
def urlFilter? (env : Environment) (rule : Rule) : Option String :=
  if Pattern.isRegex rule.pattern || rule.pattern.isEmpty then none
  else some (Host.toAscii env.encodeLabel? (urlPattern rule.pattern))

/-- The relation to the page that a rule asks for. -/
def party? (rule : Rule) : Option Party :=
  if rule.enabled.contains .thirdParty then some .third
  else if rule.disabled.contains .thirdParty then some .first
  else none

/-- Whether the engine can compare a domain: it is neither a wildcard nor an expression. -/
def isPlainDomain (domain : String) : Bool :=
  !Pattern.hasWildcard domain && !Pattern.isRegex domain

/-- The ASCII forms of domains, unless there are none. -/
def asciiDomains? (env : Environment) (domains : List String) : Option (List String) :=
  nonEmpty? (domains.map (Host.toAscii env.encodeLabel?))

/-- Features that apply to requests of every type when no type is named. -/
def allTypesFeatures : List Feature := [.removeheader, .csp, .cookie, .targets, .method]

/-- Features that apply to documents when no type is named. -/
def documentFeatures : List Feature := [.removeparam, .permissions]

/-- The types that a rule excludes. Whole pages are excluded with any other type. -/
def excludedTypes? (rule : Rule) : Option (List ResourceType) :=
  let restricted := rule.types.restricted
  if restricted.isEmpty then none
  else some (if restricted.contains .mainFrame then restricted else restricted ++ [.mainFrame])

/-- The types that a rule names or means, when it excludes none. -/
def namedTypes? (rule : Rule) : Option (List ResourceType) :=
  if !rule.types.restricted.isEmpty then none
  else if !rule.types.permitted.isEmpty then some rule.types.permitted
  else if rule.enabled.meets allTypesFeatures then some ResourceType.all
  else if rule.enabled.meets documentFeatures then some ResourceType.documents
  else none

/-- The types that a rule is about; popups are pages. -/
def types? (rule : Rule) : Option (List ResourceType) :=
  if !rule.enabled.contains .popup then namedTypes? rule
  else
    let types := (namedTypes? rule).getD []
    some (if types.contains .mainFrame then types else types ++ [.mainFrame])

/-- The requested domains that a rule excludes. Those that it lets through come first. -/
def excludedTargets (rule : Rule) : List String :=
  if rule.denyallow.isEmpty then rule.targets.restricted else rule.denyallow

/-- The condition of a rule. -/
def conditionOf (env : Environment) (rule : Rule) : Condition where
  urlFilter := urlFilter? env rule
  regexFilter := regexFilter? env rule
  isUrlFilterCaseSensitive := if rule.enabled.contains .matchCase then some true else none
  domainType := party? rule
  initiatorDomains := asciiDomains? env (rule.domains.permitted.filter isPlainDomain)
  excludedInitiatorDomains := asciiDomains? env rule.domains.restricted
  requestDomains := asciiDomains? env rule.targets.permitted
  excludedRequestDomains := asciiDomains? env (excludedTargets rule)
  resourceTypes := types? rule
  excludedResourceTypes := excludedTypes? rule
  requestMethods := nonEmpty? rule.methods.permitted
  excludedRequestMethods := nonEmpty? rule.methods.restricted

end Blocklist.Conversion
