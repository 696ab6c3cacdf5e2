import Blocklist.Rule.Negation

/-!
Groups of rules by the way they are converted.
-/

namespace Blocklist

/-- How a rule is converted: alone, merged with others of its kind, or not at all. -/
inductive Group where
  | regular | removeParam | removeHeader | csp | badfilter
  deriving DecidableEq, Repr

namespace Group

/-- All groups, in order of conversion. -/
def all : List Group := [regular, removeParam, removeHeader, csp, badfilter]

/-- Features that decide a group; the first one a rule has wins. -/
def precedence : List (Feature × Group) :=
  [(.removeparam, removeParam), (.removeheader, removeHeader), (.csp, csp),
    (.badfilter, badfilter)]

end Group

namespace Rule

/-- The group of a rule. -/
def group (rule : Rule) : Group :=
  match Group.precedence.find? fun (feature, _) => rule.enabled.contains feature with
  | some (_, group) => group
  | none => .regular

/-- The rules of one group, in order. -/
def inGroup (group : Group) (rules : List Rule) : List Rule :=
  rules.filter (·.group == group)

/-- The rules that are left to convert: neither pure cancellations nor cancelled. -/
def uncancelled (negations rules : List Rule) : List Rule :=
  rules.filter fun rule => rule.group != .badfilter && !rule.isNegatedBy negations

/-- How many rules outside the badfilter group are cancelled. -/
def cancelledCount (negations rules : List Rule) : Nat :=
  rules.countP fun rule => rule.group != .badfilter && rule.isNegatedBy negations

end Rule

end Blocklist
