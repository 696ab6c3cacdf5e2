import Blocklist.Rejection
import Blocklist.Settings
import Blocklist.Text.Percent

/-!
The action of a rule. Exceptions allow; other rules act by the first of their modifiers that
has an action, and block when none has.
-/

namespace Blocklist.Conversion

open Declarative

/-- The modifier that keeps a rule from being expressed, if there is one. -/
def unsupportedModifier? (rule : Rule) : Option String :=
  let hasValue := rule.advancedValue.any (!·.isEmpty)
  ((rule.enabled.among Feature.unsupported).head?.map Feature.name)
    <|> (if rule.exception then
          (rule.enabled.among Feature.blockingOnly).head?.map Feature.name
        else none)
    <|> (if rule.enabled.contains .cookie && hasValue then some "cookie" else none)
    <|> (if rule.enabled.contains .removeparam && rule.advancedValue.any Pattern.isRegex then
          some "removeparam"
        else none)

/-- The action of an exception: a whole page is let through when all filtering is off there
and nothing but documents is named.
-/
def exceptionAction (rule : Rule) : Action :=
  if rule.disablesFiltering && rule.types.permitted.all (ResourceType.documents.contains ·) then
    .allowAllRequests
  else .allow

/-- The value of a rule, unless it is empty. -/
def filledValue? (rule : Rule) : Option String :=
  rule.advancedValue.filter (!·.isEmpty)

/-- The redirect to a resource. A rule without a value has none. -/
def redirectAction (env : Environment) (rule : Rule) : Except Rejection (Option Action) :=
  match filledValue? rule with
  | none => .ok none
  | some value =>
    match env.settings.resourcesPath.filter (!·.isEmpty) with
    | none => .error (.missingResourcesPath rule)
    | some directory =>
      match env.resolve value with
      | .error failure => .error (.ofCause rule (.resource failure))
      | .ok file =>
        .ok (some (.redirect { extensionPath := some (Resource.path directory file) }))

/-- The removal of a query parameter, or of the whole query. -/
def removeParamAction (rule : Rule) : Except Rejection (Option Action) :=
  match rule.advancedValue with
  | none => .ok none
  | some "" => .ok (some (.redirect { transform := some { query := some "" } }))
  | some value =>
    match Text.percentDecode value with
    | .error defect => .error (.ofCause rule (.encoding defect))
    | .ok param =>
      .ok (some (.redirect
        { transform := some { queryTransform := some { removeParams := some [param] } } }))

/-- A change that removes a header. -/
def removal (header : String) : HeaderChange :=
  { header, operation := .remove }

/-- The removal of a header, from requests or from responses. -/
def removeHeaderAction (rule : Rule) : Option Action :=
  match rule.requestHeader? with
  | some header => some (.modifyHeaders (some [removal header]) none)
  | none => rule.responseHeader?.map fun header => .modifyHeaders none (some [removal header])

/-- The addition of a response header with the value of the rule. -/
def appendHeaderAction (rule : Rule) (header : String) : Option Action :=
  (filledValue? rule).map fun value =>
    .modifyHeaders none (some [{ header, operation := .append, value := some value }])

/-- The removal of cookies in both directions. -/
def cookieAction : Action :=
  .modifyHeaders (some [removal "Cookie"]) (some [removal "Set-Cookie"])

/-- The action that a feature of a rule has. -/
def featureAction (env : Environment) (rule : Rule) :
    Feature → Except Rejection (Option Action)
  | .redirect => redirectAction env rule
  | .removeparam => removeParamAction rule
  | .removeheader => .ok (removeHeaderAction rule)
  | .csp => .ok (appendHeaderAction rule "Content-Security-Policy")
  | .permissions => .ok (appendHeaderAction rule "Permissions-Policy")
  | .cookie => .ok (some cookieAction)
  | _ => .ok none

/-- The first action among the given features of a rule; the rule blocks without one. -/
def firstAction (env : Environment) (rule : Rule) : List Feature → Except Rejection Action
  | [] => .ok .block
  | feature :: rest =>
    if !rule.enabled.contains feature then firstAction env rule rest
    else match featureAction env rule feature with
      | .error rejection => .error rejection
      | .ok (some action) => .ok action
      | .ok none => firstAction env rule rest

/-- The action of a rule. -/
def actionOf (env : Environment) (rule : Rule) : Except Rejection Action :=
  if rule.exception then .ok (exceptionAction rule)
  else firstAction env rule Feature.blockingOnly

end Blocklist.Conversion
