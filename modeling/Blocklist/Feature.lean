/-!
Features a rule can switch on or off by a modifier, and sets of them. A set is a word with
one bit a feature, in the order of the declaration.
-/

namespace Blocklist

/-- A modifier that is neither a domain list nor a resource type. -/
inductive Feature where
  | thirdParty | matchCase | important | badfilter | popup
  | elemhide | generichide | specifichide | genericblock | jsinject | urlblock | content
  | redirect | removeparam | removeheader | csp | permissions | cookie
  | targets | method | denyallow
  | replace | hls | jsonprune | xmlprune | network | app | stealth | header | urltransform
  | redirectRule | referrerpolicy
  deriving DecidableEq, Repr

namespace Feature

/-- All features, in bit order. -/
def all : List Feature :=
  [thirdParty, matchCase, important, badfilter, popup, elemhide, generichide, specifichide,
    genericblock, jsinject, urlblock, content, redirect, removeparam, removeheader, csp,
    permissions, cookie, targets, method, denyallow, replace, hls, jsonprune, xmlprune, network,
    app, stealth, header, urltransform, redirectRule, referrerpolicy]

/-- The bit of a feature. -/
def index (feature : Feature) : Nat :=
  all.idxOf feature

/-- The modifier of a feature. -/
def name : Feature → String
  | thirdParty => "third-party"
  | matchCase => "match-case"
  | important => "important"
  | badfilter => "badfilter"
  | popup => "popup"
  | elemhide => "elemhide"
  | generichide => "generichide"
  | specifichide => "specifichide"
  | genericblock => "genericblock"
  | jsinject => "jsinject"
  | urlblock => "urlblock"
  | content => "content"
  | redirect => "redirect"
  | removeparam => "removeparam"
  | removeheader => "removeheader"
  | csp => "csp"
  | permissions => "permissions"
  | cookie => "cookie"
  | targets => "to"
  | method => "method"
  | denyallow => "denyallow"
  | replace => "replace"
  | hls => "hls"
  | jsonprune => "jsonprune"
  | xmlprune => "xmlprune"
  | network => "network"
  | app => "app"
  | stealth => "stealth"
  | header => "header"
  | urltransform => "urltransform"
  | redirectRule => "redirect-rule"
  | referrerpolicy => "referrerpolicy"

/-- The feature a modifier stands for. -/
def ofModifier? (name : String) : Option Feature :=
  all.find? (·.name == name)

/-- What an exception for a whole document switches off. -/
def documentParts : List Feature := [elemhide, content, urlblock, jsinject]

/-- Features that no declarative rule can express. -/
def unsupported : List Feature :=
  [replace, hls, jsonprune, xmlprune, network, app, stealth, header, urltransform, redirectRule,
    referrerpolicy]

/-- Features that change a request or a response, and so make no sense in an exception. -/
def blockingOnly : List Feature :=
  [redirect, removeparam, removeheader, csp, permissions, cookie]

/-- Features that may be written with a `~`. -/
def negatable : List Feature := [thirdParty, matchCase, popup]

end Feature

/-- A set of features. -/
structure FeatureSet where
  bits : BitVec 32
  deriving DecidableEq, Repr

namespace FeatureSet

/-- The set without a feature. -/
def empty : FeatureSet := ⟨0⟩

/-- Whether a feature is in the set. -/
def contains (set : FeatureSet) (feature : Feature) : Bool :=
  set.bits.getLsbD feature.index

/-- The set with one more feature. -/
def insert (set : FeatureSet) (feature : Feature) : FeatureSet :=
  ⟨set.bits ||| BitVec.twoPow 32 feature.index⟩

/-- The set without one feature. -/
def erase (set : FeatureSet) (feature : Feature) : FeatureSet :=
  ⟨set.bits &&& ~~~(BitVec.twoPow 32 feature.index)⟩

/-- The set with all of the given features as well. -/
def insertAll (set : FeatureSet) (features : List Feature) : FeatureSet :=
  features.foldl insert set

/-- The features of the set, in bit order. -/
def toList (set : FeatureSet) : List Feature :=
  Feature.all.filter set.contains

/-- The modifiers of the set, in bit order. -/
def names (set : FeatureSet) : List String :=
  set.toList.map Feature.name

/-- The features of the set that are among the given ones, in bit order. -/
def among (set : FeatureSet) (features : List Feature) : List Feature :=
  set.toList.filter features.contains

/-- Whether one of the given features is in the set. -/
def meets (set : FeatureSet) (features : List Feature) : Bool :=
  features.any set.contains

/-- Whether all of the given features are in the set. -/
def includes (set : FeatureSet) (features : List Feature) : Bool :=
  features.all set.contains

end FeatureSet

end Blocklist
