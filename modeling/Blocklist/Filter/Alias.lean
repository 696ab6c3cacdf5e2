import Blocklist.Feature
import Blocklist.Filter.Basic
import Blocklist.Request

/-!
Aliases of modifiers, and the expansion of a filter into filters that use none. Most filters
expand to one; a blocking filter for everything becomes three.
-/

namespace Blocklist

namespace Modifier

/-- Every alias with the modifier it stands for and whether it inverts it. -/
def aliases : List (String × String × Bool) :=
  [("1p", "third-party", true), ("first-party", "third-party", true),
    ("3p", "third-party", false), ("xhr", "xmlhttprequest", false),
    ("css", "stylesheet", false), ("frame", "subdocument", false), ("doc", "document", false),
    ("queryprune", "removeparam", false), ("from", "domain", false),
    ("ehide", "elemhide", false), ("ghide", "generichide", false),
    ("shide", "specifichide", false), ("match_case", "match-case", false)]

/-- The modifier a name stands for, and whether the name inverts it. -/
def resolve (name : String) : String × Bool :=
  (aliases.lookup name).getD (name, false)

/-- Names that expand to other modifiers than their own. -/
def shorthands : List String := ["all", "inline-script", "inline-font", "empty", "mp4"]

/-- Whether a name means something to the converter. -/
def isKnown (name : String) : Bool :=
  let canonical := (resolve name).1
  shorthands.contains name || canonical == "domain"
    || (ResourceType.ofModifier? canonical).isSome || (Feature.ofModifier? canonical).isSome

/-- Stands in for a ban of inline scripts. -/
def inlineScript : Modifier where
  name := "csp"
  value := some
    "script-src 'self' 'unsafe-eval' http: https: data: blob: mediastream: filesystem:"

/-- Stands in for a ban of inline fonts. -/
def inlineFont : Modifier where
  name := "csp"
  value := some
    "font-src 'self' 'unsafe-eval' http: https: data: blob: mediastream: filesystem:"

/-- The modifiers without aliases that one modifier means. `all` concerns the whole filter
and gives none.
-/
def expand (modifier : Modifier) : List Modifier :=
  match modifier.name with
  | "all" => []
  | "inline-script" => [inlineScript]
  | "inline-font" => [inlineFont]
  | "empty" => [{ name := "redirect", value := some "nooptext" }]
  | "mp4" => [{ name := "media" }, { name := "redirect", value := some "noopmp4-1s" }]
  | name =>
    let (canonical, inverts) := resolve name
    [{ name := canonical, value := modifier.value, negated := modifier.negated != inverts }]

end Modifier

namespace Filter

/-- Whether a filter is for everything. -/
def isForAll (filter : Filter) : Bool :=
  filter.modifiers.any (·.name == "all")

/-- The filters without aliases that a filter means. For everything means documents in an
exception; else documents and popups, and the two bans of inline content.
-/
def expand (filter : Filter) : List Filter :=
  let base := filter.modifiers.flatMap Modifier.expand
  let withModifiers (more : List Modifier) : Filter :=
    { filter with modifiers := base ++ more }
  if !filter.isForAll then [withModifiers []]
  else if filter.exception then [withModifiers [{ name := "document" }]]
  else
    [withModifiers [{ name := "document" }, { name := "popup" }],
      withModifiers [Modifier.inlineScript], withModifiers [Modifier.inlineFont]]

end Filter

end Blocklist
