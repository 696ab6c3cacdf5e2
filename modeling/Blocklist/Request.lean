import Blocklist.Text.Case

/-!
What a request is: its resource type, its method, and its relation to the page that made it.
Each has a spelling in the rule engine; types and methods also have one in filter lists.
-/

namespace Blocklist

/-- The kind of resource a request asks for. -/
inductive ResourceType where
  | mainFrame | subFrame | stylesheet | script | image | font | object | xmlhttprequest
  | ping | cspReport | media | websocket | webtransport | webbundle | other
  deriving DecidableEq, Repr

namespace ResourceType

/-- All types, in the engine's order. -/
def all : List ResourceType :=
  [mainFrame, subFrame, stylesheet, script, image, font, object, xmlhttprequest, ping,
    cspReport, media, websocket, webtransport, webbundle, other]

/-- The types of whole documents. -/
def documents : List ResourceType := [mainFrame, subFrame]

/-- The engine's spelling. -/
def name : ResourceType → String
  | mainFrame => "main_frame"
  | subFrame => "sub_frame"
  | stylesheet => "stylesheet"
  | script => "script"
  | image => "image"
  | font => "font"
  | object => "object"
  | xmlhttprequest => "xmlhttprequest"
  | ping => "ping"
  | cspReport => "csp_report"
  | media => "media"
  | websocket => "websocket"
  | webtransport => "webtransport"
  | webbundle => "webbundle"
  | other => "other"

/-- The spelling as a modifier of a filter. -/
def modifier : ResourceType → String
  | mainFrame => "document"
  | subFrame => "subdocument"
  | type => type.name

/-- The type with an engine spelling. -/
def ofName? (name : String) : Option ResourceType :=
  all.find? (·.name == name)

/-- The type a modifier stands for. -/
def ofModifier? (name : String) : Option ResourceType :=
  all.find? (·.modifier == name)

end ResourceType

/-- The method of a request. -/
inductive RequestMethod where
  | connect | delete | get | head | options | patch | post | put | other
  deriving DecidableEq, Repr

namespace RequestMethod

/-- All methods, in the engine's order. -/
def all : List RequestMethod :=
  [connect, delete, get, head, options, patch, post, put, other]

/-- The spelling of a method. -/
def name : RequestMethod → String
  | connect => "connect"
  | delete => "delete"
  | get => "get"
  | head => "head"
  | options => "options"
  | patch => "patch"
  | post => "post"
  | put => "put"
  | other => "other"

/-- The method with an engine spelling. -/
def ofName? (name : String) : Option RequestMethod :=
  all.find? (·.name == name)

/-- The method a filter names, in any case of its letters; `other` cannot be named. -/
def ofFilter? (value : String) : Option RequestMethod :=
  match ofName? (String.ofList (Text.asciiLower value.toList)) with
  | some .other => none
  | method? => method?

end RequestMethod

/-- Whether a request stays with the site of the page that made it. -/
inductive Party where
  | first | third
  deriving DecidableEq, Repr

namespace Party

/-- Both relations, in the engine's order. -/
def all : List Party := [first, third]

/-- The engine's spelling. -/
def name : Party → String
  | first => "firstParty"
  | third => "thirdParty"

/-- The relation with an engine spelling. -/
def ofName? (name : String) : Option Party :=
  all.find? (·.name == name)

end Party

end Blocklist
