import Blocklist.Declarative.Basic
import Blocklist.Json.Basic

/-!
The JSON form of declarative rules. Fields come in the order of their declaration and unset
ones are left out.
-/

namespace Blocklist.Declarative

open Json (optional)

/-- A list of texts. -/
def encodeStrings (texts : List String) : Json :=
  .array (texts.map .string)

/-- A list of values by their names. -/
def encodeNames {α : Type} (nameOf : α → String) (values : List α) : Json :=
  encodeStrings (values.map nameOf)

/-- The JSON form of a header change. -/
def HeaderChange.encode (change : HeaderChange) : Json :=
  .object (("header", .string change.header)
    :: ("operation", .string change.operation.name)
    :: optional "value" .string change.value)

/-- The JSON form of a list of header changes. -/
def encodeChanges (changes : List HeaderChange) : Json :=
  .array (changes.map HeaderChange.encode)

/-- The JSON form of a change of query parameters. -/
def QueryTransform.encode (transform : QueryTransform) : Json :=
  .object (optional "removeParams" encodeStrings transform.removeParams)

/-- The JSON form of a change of an address. -/
def UrlTransform.encode (transform : UrlTransform) : Json :=
  .object (optional "query" .string transform.query
    ++ optional "queryTransform" QueryTransform.encode transform.queryTransform)

/-- The JSON form of the target of a redirect. -/
def Redirect.encode (target : Redirect) : Json :=
  .object (optional "extensionPath" .string target.extensionPath
    ++ optional "transform" UrlTransform.encode target.transform
    ++ optional "url" .string target.url
    ++ optional "regexSubstitution" .string target.regexSubstitution)

/-- The kind of an action. -/
def Action.typeName : Action → String
  | block => "block"
  | allow => "allow"
  | allowAllRequests => "allowAllRequests"
  | upgradeScheme => "upgradeScheme"
  | redirect _ => "redirect"
  | modifyHeaders _ _ => "modifyHeaders"

/-- The fields of an action besides its kind. -/
def Action.fields : Action → List (String × Json)
  | redirect target => [("redirect", target.encode)]
  | modifyHeaders request response =>
    optional "requestHeaders" encodeChanges request
      ++ optional "responseHeaders" encodeChanges response
  | _ => []

/-- The JSON form of an action: its kind first. -/
def Action.encode (action : Action) : Json :=
  .object (("type", .string action.typeName) :: action.fields)

/-- The JSON form of a condition. -/
def Condition.encode (condition : Condition) : Json :=
  .object (optional "urlFilter" .string condition.urlFilter
    ++ optional "regexFilter" .string condition.regexFilter
    ++ optional "isUrlFilterCaseSensitive" .bool condition.isUrlFilterCaseSensitive
    ++ optional "domainType" (.string ∘ Party.name) condition.domainType
    ++ optional "initiatorDomains" encodeStrings condition.initiatorDomains
    ++ optional "excludedInitiatorDomains" encodeStrings condition.excludedInitiatorDomains
    ++ optional "requestDomains" encodeStrings condition.requestDomains
    ++ optional "excludedRequestDomains" encodeStrings condition.excludedRequestDomains
    ++ optional "resourceTypes" (encodeNames ResourceType.name) condition.resourceTypes
    ++ optional "excludedResourceTypes" (encodeNames ResourceType.name)
      condition.excludedResourceTypes
    ++ optional "requestMethods" (encodeNames RequestMethod.name) condition.requestMethods
    ++ optional "excludedRequestMethods" (encodeNames RequestMethod.name)
      condition.excludedRequestMethods)

/-- The JSON form of a record. -/
def Record.encode (record : Record) : Json :=
  .object [("id", .number record.id.toNat), ("priority", .number record.priority.toNat),
    ("action", record.action.encode), ("condition", record.condition.encode)]

/-- The JSON form of a ruleset. -/
def encodeRuleset (records : List Record) : Json :=
  .array (records.map Record.encode)

end Blocklist.Declarative
