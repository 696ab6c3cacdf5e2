import Blocklist.Request

/-!
Declarative rules: the records a browser's rule engine loads. A record has an action and a
condition; fields of a condition that are unset restrict nothing.
-/

namespace Blocklist.Declarative

/-- What is done to a header. -/
inductive HeaderOperation where
  | append | set | remove
  deriving DecidableEq, Repr

namespace HeaderOperation

/-- All operations, in the engine's order. -/
def all : List HeaderOperation := [append, set, remove]

/-- The engine's spelling. -/
def name : HeaderOperation → String
  | append => "append"
  | set => "set"
  | remove => "remove"

end HeaderOperation

/-- A change of one header. -/
structure HeaderChange where
  header : String
  operation : HeaderOperation
  value : Option String := none
  deriving DecidableEq, Repr

/-- A change of the parameters of a query. -/
structure QueryTransform where
  removeParams : Option (List String) := none
  deriving DecidableEq, Repr

/-- A change of an address. An empty query drops the whole query. -/
structure UrlTransform where
  query : Option String := none
  queryTransform : Option QueryTransform := none
  deriving DecidableEq, Repr

/-- Where a redirected request goes. -/
structure Redirect where
  extensionPath : Option String := none
  transform : Option UrlTransform := none
  url : Option String := none
  regexSubstitution : Option String := none
  deriving DecidableEq, Repr

/-- What the engine does with a request. -/
inductive Action where
  | block
  | allow
  | allowAllRequests
  | upgradeScheme
  | redirect (target : Redirect)
  | modifyHeaders (request response : Option (List HeaderChange))
  deriving DecidableEq, Repr

namespace Action

/-- Whether an action redirects or changes headers. Such actions have a quota of their own. -/
def isUnsafe : Action → Bool
  | redirect _ => true
  | modifyHeaders _ _ => true
  | _ => false

end Action

/-- Which requests a record is about. -/
structure Condition where
  urlFilter : Option String := none
  regexFilter : Option String := none
  isUrlFilterCaseSensitive : Option Bool := none
  domainType : Option Party := none
  initiatorDomains : Option (List String) := none
  excludedInitiatorDomains : Option (List String) := none
  requestDomains : Option (List String) := none
  excludedRequestDomains : Option (List String) := none
  resourceTypes : Option (List ResourceType) := none
  excludedResourceTypes : Option (List ResourceType) := none
  requestMethods : Option (List RequestMethod) := none
  excludedRequestMethods : Option (List RequestMethod) := none
  deriving DecidableEq, Repr

/-- A declarative rule. -/
structure Record where
  id : UInt32
  priority : UInt32
  action : Action
  condition : Condition
  deriving DecidableEq, Repr

/-- The least id a record may have; the engine keeps the one below for itself. -/
def minId : UInt32 := 2

/-- The greatest id a record may have. -/
def maxId : UInt32 := 0x7fffffff

namespace Record

/-- Whether a record counts against the quota of unsafe rules. -/
def isUnsafe (record : Record) : Bool :=
  record.action.isUnsafe

/-- Whether a record counts against the quota of regular expressions. -/
def isRegex (record : Record) : Bool :=
  record.condition.regexFilter.isSome

/-- Whether the id of a record is one the engine takes. -/
def hasValidId (record : Record) : Bool :=
  minId ≤ record.id && record.id ≤ maxId

end Record

end Blocklist.Declarative
