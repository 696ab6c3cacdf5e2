import Blocklist.Proofs.Conversion.Cancellation
import Blocklist.Proofs.Conversion.WellFormed
import Blocklist.Proofs.Rule.Order

/-! Verdicts on rules that differ in the order inside lists. Conversion looks at what such rules
share: it accepts both with the same action and the same condition up to order, or rejects both
for one reason. So the order of modifiers does not matter, as long as one of them at most carries
the value that the rule acts by.
-/

namespace Blocklist.Conversion

open Declarative

-----------------------------------------------------------------------------------------
-- Verdicts that are the same
-----------------------------------------------------------------------------------------

/-- Records that do the same with the same requests, under whichever ids. -/
structure SameRecord (record other : Record) : Prop where
  priority : record.priority = other.priority
  action : record.action = other.action
  condition : SameUpToOrder record.condition other.condition

/-- Rejections of one kind, with the same details and the same records. -/
inductive SameRejection : Rejection → Rejection → Prop
  | emptyResources (rule other : Rule) {record record' : Record} (same : SameRecord record record')
    : SameRejection (.emptyResources rule record) (.emptyResources other record')
  | emptyDomains (rule other : Rule) {record record' : Record} (same : SameRecord record record')
    : SameRejection (.emptyDomains rule record) (.emptyDomains other record')
  | unsupportedRegex (rule other : Rule) {record record' : Record}
      (same : SameRecord record record') (reason : String)
    : SameRejection (.unsupportedRegex rule record reason) (.unsupportedRegex other record' reason)
  | unsupportedModifier (rule other : Rule) (modifier : String)
    : SameRejection (.unsupportedModifier rule modifier) (.unsupportedModifier other modifier)
  | unacted {rejection other : Rejection} (same : SameReason rejection other)
    : SameRejection rejection other

/-- Two conversions that accept with the same record or reject alike. -/
abbrev SameVerdict : Except Rejection Record → Except Rejection Record → Prop :=
  Alike SameRejection SameRecord

-----------------------------------------------------------------------------------------
-- Rules that differ in the order inside lists
-----------------------------------------------------------------------------------------

variable {env : Environment} {rule other : Rule}

theorem isEmpty_of_rel {α : Type} {list list' : Option (List α)}
    (same : Option.Rel List.Perm list list')
    : list.any (·.isEmpty) = list'.any (·.isEmpty)
      ∧ list.all (·.isEmpty) = list'.all (·.isEmpty) := by
  cases same with
  | none => exact ⟨rfl, rfl⟩
  | some related => exact ⟨related.isEmpty_eq, related.isEmpty_eq⟩

/-- The check of a record asks which lists are empty, not in which order they are. -/
theorem accept_sameVerdict (same : rule.SameSpelling other) {record record' : Record}
    (records : SameRecord record record')
    : SameVerdict (accept env rule record) (accept env other record') := by
  have condition := records.condition
  simp only [accept, (isEmpty_of_rel condition.resourceTypes).1,
    (isEmpty_of_rel condition.initiatorDomains).2, same.domains.permitted.isEmpty_eq,
    condition.regexFilter, condition.isUrlFilterCaseSensitive]
  split
  · exact .error (.emptyResources rule other records)
  · split
    · exact .error (.emptyDomains rule other records)
    · split
      · exact .ok records
      · split
        · exact .error (.unsupportedRegex rule other records _)
        · exact .ok records

/-- Such rules cannot be expressed for one reason, or have the same action and condition. -/
theorem draft_alike (env : Environment) (same : rule.Rearranged other)
    : Alike SameRejection
        (fun drafted drafted' => drafted.1 = drafted'.1 ∧ SameUpToOrder drafted.2 drafted'.2)
        (draft env rule) (draft env other) := by
  simp only [draft, unsupportedModifier?_eq same.toSameSpelling]
  split
  · exact .error (.unsupportedModifier rule other _)
  · have acts := actionOf_alike env same.toSameSpelling (Or.inl same.header)
    generalize actionOf env rule = left, actionOf env other = right at acts
    cases acts with
    | error reason => exact .error (.unacted reason)
    | ok action => exact .ok ⟨action, conditionOf_sameUpToOrder env same.toSameSpelling⟩

theorem convertRule?_sameVerdict {pool pool' next next' : IdPool}
    {verdict verdict' : Except Rejection Record} (same : rule.Rearranged other)
    (converted : convertRule? env pool rule = some (verdict, next))
    (converted' : convertRule? env pool' other = some (verdict', next'))
    : SameVerdict verdict verdict' := by
  have drafts := draft_alike env same
  simp only [convertRule?] at converted converted'
  generalize draft env rule = left, draft env other = right at drafts converted converted'
  cases drafts with
  | error alike =>
      obtain ⟨rfl, -⟩ := Prod.mk.inj (Option.some.inj converted)
      obtain ⟨rfl, -⟩ := Prod.mk.inj (Option.some.inj converted')
      exact .error alike
  | ok alike =>
      -- the texts differ, so the ids do, and the check does not look at them
      obtain ⟨⟨id, _⟩, -, checked⟩ := Option.map_eq_some_iff.mp converted
      obtain ⟨⟨id', _⟩, -, checked'⟩ := Option.map_eq_some_iff.mp converted'
      obtain ⟨rfl, -⟩ := Prod.mk.inj checked
      obtain ⟨rfl, -⟩ := Prod.mk.inj checked'
      exact accept_sameVerdict same.toSameSpelling ⟨rfl, alike.1, alike.2⟩

-----------------------------------------------------------------------------------------
-- Filters with their modifiers in another order
-----------------------------------------------------------------------------------------

/-- The order of modifiers does not matter, if one of them at most carries a value for the
action. Either order makes a rule or neither does. The rules have the same features, kind and
group. The conversion of each gives a verdict unless no id is free for it, whatever the pool is,
and the verdicts are the same: the same record up to the order inside lists, or the same kind of
rejection.
-/
theorem conversion_unswayed_by_modifier_order {filter : Filter} {modifiers : List Modifier}
    (reordered : filter.modifiers.Perm modifiers) (single : filter.carriers.length ≤ 1)
    (origin place : Origin)
    : ((∃ rule, Rule.ofFilter filter origin = .ok rule)
          ↔ ∃ other, Rule.ofFilter { filter with modifiers } place = .ok other)
      ∧ ∀ rule other, Rule.ofFilter filter origin = .ok rule
        → Rule.ofFilter { filter with modifiers } place = .ok other
        → rule.enabled = other.enabled ∧ rule.disabled = other.disabled
          ∧ rule.exception = other.exception ∧ rule.group = other.group
          ∧ ∀ env pool pool',
              (convertRule? env pool rule = none → pool.allocate? rule.text = none)
              ∧ (convertRule? env pool' other = none → pool'.allocate? other.text = none)
              ∧ ∀ verdict verdict' next next',
                  convertRule? env pool rule = some (verdict, next)
                  → convertRule? env pool' other = some (verdict', next')
                  → SameVerdict verdict verdict' := by
  have alike := Rule.ofFilter_reordered reordered single origin place
  refine ⟨alike.succeeds_iff, ?_⟩
  intro rule other built built'
  have same := alike.related built built'
  refine ⟨same.features, same.disabled, same.exception, ?_, ?_⟩
  · simp only [Rule.group, same.features]
  · intro env pool pool'
    refine ⟨fun stuck => (convertRule?_eq_none stuck).2,
      fun stuck => (convertRule?_eq_none stuck).2, ?_⟩
    intro verdict verdict' next next' converted converted'
    exact convertRule?_sameVerdict same converted converted'

/-- A filter that removes a parameter from scripts and images of some pages. -/
def tracked : Filter where
  exception := false
  pattern := "||a^"
  modifiers :=
    [{ name := "script" }, { name := "removeparam", value := some "x" },
      { name := "domain", value := some "b.com|~c.com" }, { name := "image" },
      { name := "third-party", negated := true }, { name := "image" },
      { name := "domain", value := some "d.com" }]

/-- The rule of that filter. -/
def trackedRule : Rule where
  origin := {}
  text := "||a^$script,removeparam=x,domain=b.com|~c.com,image,~third-party,image,domain=d.com"
  pattern := "||a^"
  exception := false
  enabled := FeatureSet.empty.insert .removeparam
  disabled := FeatureSet.empty.insert .thirdParty
  advancedValue := some "x"
  domains := { permitted := ["b.com", "d.com"], restricted := ["c.com"] }
  types := { permitted := [.script, .image] }

/-- The rule of the same filter from its last modifier to its first. -/
def trackedBackRule : Rule :=
  { trackedRule with
    text := "||a^$domain=d.com,image,~third-party,image,domain=b.com|~c.com,removeparam=x,script"
    domains := { permitted := ["d.com", "b.com"], restricted := ["c.com"] }
    types := { permitted := [.image, .script] } }

/-- The record of that rule. -/
def trackedRecord : Record where
  id := IdPool.textId trackedRule.text
  priority := 1
  action := .redirect
    { transform := some { queryTransform := some { removeParams := some ["x"] } } }
  condition :=
    { urlFilter := some "||a^"
      domainType := some .first
      initiatorDomains := some ["b.com", "d.com"]
      excludedInitiatorDomains := some ["c.com"]
      resourceTypes := some [.script, .image] }

/-- The record of the rule with the modifiers turned round. -/
def trackedBackRecord : Record :=
  { trackedRecord with
    id := IdPool.textId trackedBackRule.text
    condition :=
      { trackedRecord.condition with
        initiatorDomains := some ["d.com", "b.com"]
        resourceTypes := some [.image, .script] } }

/-- Turned round, a filter gives the same record with its lists in another order and another id.
-/
theorem conversion_unswayed_by_turned_modifiers
    : Line.ofString trackedRule.text = .network tracked
      ∧ Line.ofString trackedBackRule.text
        = .network { tracked with modifiers := tracked.modifiers.reverse }
      ∧ tracked.carriers.length = 1
      ∧ convertRule? casedOnly {} trackedRule
        = some (.ok trackedRecord, ⟨[trackedRecord.id]⟩)
      ∧ convertRule? casedOnly {} trackedBackRule
        = some (.ok trackedBackRecord, ⟨[trackedBackRecord.id]⟩)
      ∧ trackedRecord ≠ trackedBackRecord ∧ SameRecord trackedRecord trackedBackRecord := by
  have single : tracked.carriers.length = 1 := by decide +kernel
  have built : Rule.ofFilter tracked {} = .ok trackedRule := by decide +kernel
  have built' : Rule.ofFilter { tracked with modifiers := tracked.modifiers.reverse } {}
      = .ok trackedBackRule := by decide +kernel
  have converted : convertRule? casedOnly {} trackedRule
      = some (.ok trackedRecord, ⟨[trackedRecord.id]⟩) := by decide +kernel
  have converted' : convertRule? casedOnly {} trackedBackRule
      = some (.ok trackedBackRecord, ⟨[trackedBackRecord.id]⟩) := by decide +kernel
  obtain ⟨-, rules⟩ := conversion_unswayed_by_modifier_order
    (List.reverse_perm tracked.modifiers).symm single.le {} {}
  obtain ⟨-, -, -, -, conversions⟩ := rules _ _ built built'
  obtain ⟨-, -, verdicts⟩ := conversions casedOnly {} {}
  have differs : trackedRecord ≠ trackedBackRecord := by
    intro equal
    exact absurd (congrArg Record.condition equal) (by decide)
  cases verdicts _ _ _ _ converted converted' with
  | ok same =>
      exact ⟨by decide +kernel, by decide +kernel, single, converted, converted', differs, same⟩

end Blocklist.Conversion
