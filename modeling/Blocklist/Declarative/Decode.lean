import Blocklist.Declarative.Basic
import Blocklist.Json.Decode

/-!
Reading declarative rules from JSON. An action is read ahead as a whole, because its kind
may come last and decides how the rest is read.
-/

namespace Blocklist.Declarative

open Json (Document Decoded Stage Schema Fault throwText throwData checkText)

/-- Decodes a list of texts that null leaves unset. -/
def asStrings? : Document → Decoded (Option (List String)) :=
  Document.asOption (Document.asList (Document.asString "a string"))

/-- Decodes a text that null leaves unset. -/
def asString? : Document → Decoded (Option String) :=
  Document.asOption (Document.asString "a string")

/-- Decodes a list of named values that null leaves unset. -/
def asNames? {α : Type} (stage : Stage) (nameOf : α → String) (values : List α) :
    Document → Decoded (Option (List α)) :=
  Document.asOption (Document.asList (Document.asNamed stage nameOf values))

/-- How header changes are written. -/
def HeaderChange.schema : Schema HeaderChange where
  title := "struct ModifyHeaderInfo"
  fields := ["header", "operation", "value"]
  required := ["header", "operation"]
  assign stage field document change :=
    match field with
    | "header" => return { change with header := ← document.asString "a string" }
    | "operation" =>
      return { change with
        operation := ← document.asNamed stage HeaderOperation.name HeaderOperation.all }
    | "value" => return { change with value := ← asString? document }
    | _ => return change

/-- How changes of query parameters are written. -/
def QueryTransform.schema : Schema QueryTransform where
  title := "struct QueryTransform"
  fields := ["removeParams"]
  required := []
  assign _ field document transform :=
    match field with
    | "removeParams" => return { transform with removeParams := ← asStrings? document }
    | _ => return transform

/-- How changes of an address are written. -/
def UrlTransform.schema : Schema UrlTransform where
  title := "struct UrlTransform"
  fields := ["query", "queryTransform"]
  required := []
  assign stage field document transform :=
    match field with
    | "query" => return { transform with query := ← asString? document }
    | "queryTransform" =>
      return { transform with
        queryTransform := ← document.asOption (QueryTransform.schema.read stage {}) }
    | _ => return transform

/-- How the target of a redirect is written. -/
def Redirect.schema : Schema Redirect where
  title := "struct Redirect"
  fields := ["extensionPath", "transform", "url", "regexSubstitution"]
  required := []
  assign stage field document target :=
    match field with
    | "extensionPath" => return { target with extensionPath := ← asString? document }
    | "transform" =>
      return { target with transform := ← document.asOption (UrlTransform.schema.read stage {}) }
    | "url" => return { target with url := ← asString? document }
    | "regexSubstitution" => return { target with regexSubstitution := ← asString? document }
    | _ => return target

/-- Decodes header changes that null leaves unset. -/
def asChanges? (stage : Stage) : Document → Decoded (Option (List HeaderChange)) :=
  Document.asOption (Document.asList (HeaderChange.schema.read stage ⟨"", .append, none⟩))

/-- The kinds of action. -/
inductive ActionKind where
  | block | allow | allowAllRequests | upgradeScheme | redirect | modifyHeaders
  deriving DecidableEq, Repr

namespace ActionKind

/-- All kinds, in the engine's order. -/
def all : List ActionKind :=
  [block, allow, allowAllRequests, upgradeScheme, redirect, modifyHeaders]

/-- The engine's spelling. -/
def name : ActionKind → String
  | block => "block"
  | allow => "allow"
  | allowAllRequests => "allowAllRequests"
  | upgradeScheme => "upgradeScheme"
  | redirect => "redirect"
  | modifyHeaders => "modifyHeaders"

/-- Decodes a kind. -/
def read (document : Document) : Decoded ActionKind := do
  Document.namedValue name all (← document.asString "variant identifier")

/-- How a redirecting action is written besides its kind. -/
def redirectSchema : Schema Redirect where
  title := "struct variant RuleAction::Redirect"
  fields := ["redirect"]
  required := ["redirect"]
  assign stage _ document _ := Redirect.schema.read stage {} document

/-- How an action on headers is written besides its kind. -/
def headersSchema : Schema (Option (List HeaderChange) × Option (List HeaderChange)) where
  title := "struct variant RuleAction::ModifyHeaders"
  fields := ["requestHeaders", "responseHeaders"]
  required := []
  assign stage field document headers :=
    match field with
    | "requestHeaders" => return (← asChanges? stage document, headers.2)
    | "responseHeaders" => return (headers.1, ← asChanges? stage document)
    | _ => return headers

/-- An action without fields; an array may hold nothing besides the kind. -/
def bare (action : Action) : Document → Decoded Action
  | .array (item :: rest) _ =>
    throwData (.wrongLength (item :: rest).length (Schema.elements 0 ++ " in sequence"))
  | _ => .ok action

/-- Decodes an action of a known kind from what is written besides the kind. -/
def readFields (kind : ActionKind) (fields : Document) : Decoded Action :=
  match kind with
  | block => bare .block fields
  | allow => bare .allow fields
  | allowAllRequests => bare .allowAllRequests fields
  | upgradeScheme => bare .upgradeScheme fields
  | redirect => .redirect <$> redirectSchema.read .buffered {} fields
  | modifyHeaders => do
    let (request, response) ← headersSchema.read .buffered (none, none) fields
    return .modifyHeaders request response

end ActionKind

namespace Action

/-- How deep values inside an action may nest: a text may nest 127 levels, of which the
ruleset, the record and the action take one each.
-/
def innerLevels : Nat := 124

/-- Splits the members of an action into its kind, as far as it is given, and the others.
The others are read ahead.
-/
def splitMembers : Option ActionKind → List (Except Fault String × Document) →
    Decoded (Option ActionKind × List (Except Fault String × Document))
  | kind?, [] => .ok (kind?, [])
  | _, (.error fault, _) :: _ => throwText fault
  | kind?, (.ok key, value) :: rest =>
    if key = "type" then
      match kind? with
      | some _ => throwData (.duplicateField "type")
      | none => do splitMembers (some (← ActionKind.read value)) rest
    else do
      checkText (value.bufferFault? innerLevels)
      let (kind?, others) ← splitMembers kind? rest
      return (kind?, (.ok key, value) :: others)

/-- Decodes an action. -/
def read : Document → Decoded Action
  | .object members stop => do
    let (kind?, others) ← splitMembers none members
    checkText stop
    match kind? with
    | none => throwData (.missingField "type")
    | some kind => kind.readFields (.object others none)
  | .array [] stop => do
    checkText stop
    throwData (.missingField "type")
  | .array (item :: rest) stop => do
    let kind ← ActionKind.read item
    checkText (rest.findSome? (Document.bufferFault? innerLevels))
    checkText stop
    kind.readFields (.array rest none)
  | document => document.refuse "internally tagged enum RuleAction"

end Action

/-- How conditions are written. -/
def Condition.schema : Schema Condition where
  title := "struct RuleCondition"
  fields :=
    ["urlFilter", "regexFilter", "isUrlFilterCaseSensitive", "domainType", "initiatorDomains",
      "excludedInitiatorDomains", "requestDomains", "excludedRequestDomains", "resourceTypes",
      "excludedResourceTypes", "requestMethods", "excludedRequestMethods"]
  required := []
  assign stage field document condition :=
    match field with
    | "urlFilter" => return { condition with urlFilter := ← asString? document }
    | "regexFilter" => return { condition with regexFilter := ← asString? document }
    | "isUrlFilterCaseSensitive" =>
      return { condition with isUrlFilterCaseSensitive := ← document.asOption Document.asBool }
    | "domainType" =>
      return { condition with
        domainType := ← document.asOption (Document.asNamed stage Party.name Party.all) }
    | "initiatorDomains" => return { condition with initiatorDomains := ← asStrings? document }
    | "excludedInitiatorDomains" =>
      return { condition with excludedInitiatorDomains := ← asStrings? document }
    | "requestDomains" => return { condition with requestDomains := ← asStrings? document }
    | "excludedRequestDomains" =>
      return { condition with excludedRequestDomains := ← asStrings? document }
    | "resourceTypes" =>
      return { condition with
        resourceTypes := ← asNames? stage ResourceType.name ResourceType.all document }
    | "excludedResourceTypes" =>
      return { condition with
        excludedResourceTypes := ← asNames? stage ResourceType.name ResourceType.all document }
    | "requestMethods" =>
      return { condition with
        requestMethods := ← asNames? stage RequestMethod.name RequestMethod.all document }
    | "excludedRequestMethods" =>
      return { condition with
        excludedRequestMethods := ← asNames? stage RequestMethod.name RequestMethod.all document }
    | _ => return condition

/-- How records are written. -/
def Record.schema : Schema Record where
  title := "struct DeclarativeRule"
  fields := ["id", "priority", "action", "condition"]
  required := ["id", "priority", "action", "condition"]
  assign stage field document record :=
    match field with
    | "id" => return { record with id := ← document.asUInt32 }
    | "priority" => return { record with priority := ← document.asUInt32 }
    | "action" => return { record with action := ← Action.read document }
    | "condition" => return { record with condition := ← Condition.schema.read stage {} document }
    | _ => return record

/-- Decodes a record. -/
def Record.read (stage : Stage) : Document → Decoded Record :=
  Record.schema.read stage { id := 0, priority := 0, action := .block, condition := {} }

/-- Decodes a ruleset. -/
def readRuleset (stage : Stage) : Document → Decoded (List Record) :=
  Document.asList (Record.read stage)

/-- Reads a ruleset from its text. -/
def rulesetOfText (text : String) : Decoded (List Record) :=
  Json.readText (readRuleset .streamed) text

end Blocklist.Declarative
