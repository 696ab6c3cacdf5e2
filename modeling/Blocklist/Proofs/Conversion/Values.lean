import Blocklist.Proofs.Conversion.Cancellation
import Blocklist.Proofs.Conversion.WellFormed
import Blocklist.Proofs.Rule.Modifiers

/-! Where the values of actions come from. A rule has one value, which every modifier that
carries one overwrites, while the action goes by a fixed order of features. So a rule may act by
one modifier on the value of another; only the header to remove is kept apart.
-/

namespace Blocklist.Conversion

open Declarative

variable {env : Environment} {pool next : IdPool} {filter : Filter} {origin : Origin}
  {rule : Rule} {record : Record} {action : Action} {feature : Feature} {modifier : Modifier}

-----------------------------------------------------------------------------------------
-- Filters with one modifier
-----------------------------------------------------------------------------------------

/-- A filter has an action with one modifier alone. -/
def ActsAlone (env : Environment) (filter : Filter) (modifier : Modifier) (action : Action)
    : Prop :=
  ∃ rule, Rule.ofFilter { filter with modifiers := [modifier] } {} = .ok rule
    ∧ actionOf env rule = .ok action

/-- A filter has one action at most with a modifier alone. -/
theorem ActsAlone.unique {other : Action} (acts : ActsAlone env filter modifier action)
    (acts' : ActsAlone env filter modifier other)
    : action = other := by
  obtain ⟨rule, built, own⟩ := acts
  obtain ⟨rule', built', own'⟩ := acts'
  obtain rfl := Except.ok.inj (built.symm.trans built')
  exact Except.ok.inj (own.symm.trans own')

theorem not_mem_documentParts (listed : feature ∈ Feature.blockingOnly)
    : feature ∉ Feature.documentParts := by
  have apart : Feature.blockingOnly.all (!Feature.documentParts.contains ·) = true := by decide
  simpa using List.all_eq_true.mp apart feature listed

/-- The action of a feature is that of the rule, when no other one is on. -/
theorem firstAction_of_only {features : List Feature} (listed : feature ∈ features)
    (only : ∀ other ∈ features, rule.enabled.contains other = true ↔ other = feature)
    (acts : featureAction env rule feature = .ok (some action))
    : firstAction env rule features = .ok action := by
  induction features with
  | nil => cases listed
  | cons first features ih =>
      obtain ⟨here, later⟩ := List.forall_mem_cons.mp only
      rw [firstAction]
      by_cases own : first = feature
      · subst own
        simp [here.mpr rfl, acts]
      · have off : rule.enabled.contains first = false :=
          Bool.eq_false_iff.mpr (mt here.mp own)
        simp [off, ih ((List.mem_cons.mp listed).resolve_left (Ne.symm own)) later]

/-- A filter with one modifier acts by the feature of that modifier. -/
theorem actsAlone_of_featureAction {alone : Rule} (blocking : filter.exception = false)
    (listed : feature ∈ Feature.blockingOnly) (named : modifier.name = feature.name)
    (positive : modifier.negated = false)
    (built : Rule.ofFilter { filter with modifiers := [modifier] } {} = .ok alone)
    (acts : featureAction env alone feature = .ok (some action))
    : ActsAlone env filter modifier action := by
  have only : ∀ other ∈ Feature.blockingOnly,
      alone.enabled.contains other = true ↔ other = feature := by
    intro other among
    rw [Rule.ofFilter_contains_enabled built (not_mem_documentParts among)]
    simp only [Filter.Has, List.mem_singleton, exists_eq_left, Modifier.is_feature_iff named,
      positive, and_true]
    exact eq_comm
  have unexcepted : alone.exception = false :=
    (Rule.ofFilter_sameFilter built).exception.trans blocking
  refine ⟨alone, built, ?_⟩
  rw [actionOf, unexcepted]
  exact firstAction_of_only listed only acts

/-- A modifier that only carries its value makes a rule by itself, whatever the value is. -/
theorem exists_alone (filter : Filter) (listed : feature ∈ Feature.blockingOnly)
    (other : feature ≠ .removeheader) (value : Option String)
    : ∃ alone, Rule.ofFilter { filter with modifiers := [⟨feature.name, value, false⟩] } {}
        = .ok alone := by
  cases feature with
  | redirect | removeparam | csp | permissions | cookie => exact ⟨_, rfl⟩
  | removeheader => exact absurd rfl other
  | _ => exact absurd listed (by decide)

theorem actsAlone_of_value (blocking : filter.exception = false)
    (listed : feature ∈ Feature.blockingOnly) (other : feature ≠ .removeheader)
    (acts : featureAction env rule feature = .ok (some action))
    : ActsAlone env filter ⟨feature.name, rule.advancedValue, false⟩ action := by
  obtain ⟨alone, built⟩ := exists_alone filter listed other rule.advancedValue
  have carries : Modifier.isCarrier ⟨feature.name, rule.advancedValue, false⟩ = true :=
    (Modifier.isCarrier_iff rfl).mpr ⟨listed, rfl⟩
  have value : alone.advancedValue = rule.advancedValue := by
    rw [Rule.ofFilter_advancedValue built]
    simp [Filter.carriers, carries]
  have alike := featureAction_alike env value feature fun header => absurd header other
  exact actsAlone_of_featureAction blocking listed rfl rfl built (alike.eq_ok_iff.mpr acts)

theorem applyValue_header (rule : Rule) {value : String} {removal : HeaderRemoval}
    (filled : value ≠ "") (read : HeaderRemoval.ofValue value = .ok removal)
    : rule.applyValue .removeheader ⟨Feature.removeheader.name, some value, false⟩
      = .ok { rule with advancedValue := some value, headerRemoval := some removal } := by
  simp only [Rule.applyValue, read]
  rfl

/-- The removal of a header makes a rule by itself, if its value names a header. -/
theorem actsAlone_of_header (blocking : filter.exception = false) {value : String}
    {removal : HeaderRemoval} (filled : value ≠ "")
    (read : HeaderRemoval.ofValue value = .ok removal)
    : ActsAlone env filter ⟨Feature.removeheader.name, some value, false⟩
        (headerAction removal) := by
  have built : Rule.ofFilter
        { filter with modifiers := [⟨Feature.removeheader.name, some value, false⟩] } {}
      = .ok _ :=
    congrArg (· >>= pure) (applyValue_header _ filled read)
  have listed : .removeheader ∈ Feature.blockingOnly := by decide
  refine actsAlone_of_featureAction blocking listed rfl rfl built ?_
  simp only [featureAction, removeHeaderAction_eq, Option.map_some]

-----------------------------------------------------------------------------------------
-- Rules with any modifiers
-----------------------------------------------------------------------------------------

/-- A feature that is on has a carrier, so there is a last one, and its value is the rule's. -/
theorem exists_last_carrier (built : Rule.ofFilter filter origin = .ok rule)
    (listed : feature ∈ Feature.blockingOnly)
    (enabled : rule.enabled.contains feature = true)
    : ∃ last, filter.carriers.getLast? = some last ∧ rule.advancedValue = last.value := by
  obtain ⟨own, inside, named, positive⟩ :=
    (Rule.ofFilter_contains_enabled built (not_mem_documentParts listed)).mp enabled
  have carries : own ∈ filter.carriers :=
    List.mem_filter.mpr ⟨inside, (Modifier.isCarrier_iff named).mpr ⟨listed, positive⟩⟩
  cases last : filter.carriers.getLast? with
  | none => rw [List.getLast?_eq_none_iff.mp last] at carries; cases carries
  | some modifier =>
      rw [Rule.ofFilter_advancedValue built, last]
      exact ⟨modifier, rfl, rfl⟩

/-- A header that is removed is named by the value of its own modifier. -/
theorem exists_header_carrier (built : Rule.ofFilter filter origin = .ok rule)
    (blocking : filter.exception = false)
    (acts : featureAction env rule .removeheader = .ok (some action))
    : ∃ source ∈ filter.carriers, source.name = Feature.removeheader.name
        ∧ ActsAlone env filter ⟨Feature.removeheader.name, source.value, false⟩ action := by
  have removes : removeHeaderAction rule = some action := Except.ok.inj acts
  rw [removeHeaderAction_eq] at removes
  obtain ⟨removal, found, same⟩ := Option.map_eq_some_iff.mp removes
  rw [Rule.ofFilter_headerRemoval built] at found
  obtain ⟨source, carries, own⟩ := List.mem_filterMap.mp (List.mem_of_getLast? found)
  obtain ⟨⟨named, -⟩, value, given, filled, read⟩ := Modifier.header?_eq_some.mp own
  refine ⟨source, carries, named, ?_⟩
  rw [given, ← same]
  exact actsAlone_of_header blocking filled read

/-- The action of a rule that is no exception, with the modifier whose value it uses. The rule
blocks and no modifier has an action, or it acts by the first that has one. Cookies need no
value; else the action is that of the filter with this modifier alone, given the value of a
carrier. A removal of headers has a value of its own, and any other modifier has that of the last
carrier, be it its own or not.
-/
theorem accepted_action_uses_last_value (built : Rule.ofFilter filter origin = .ok rule)
    (blocking : filter.exception = false)
    (converted : convertRule? env pool rule = some (.ok record, next))
    : record.action = .block
        ∧ (∀ feature ∈ Feature.blockingOnly, filter.Has feature.name false
          → featureAction env rule feature = .ok none)
      ∨ ∃ feature, ActsBy env rule Feature.blockingOnly feature record.action
          ∧ filter.Has feature.name false
          ∧ (feature = .cookie → record.action = cookieAction)
          ∧ (feature ≠ .cookie → ∃ source ∈ filter.carriers,
              ActsAlone env filter ⟨feature.name, source.value, false⟩ record.action
              ∧ (feature = .removeheader → source.name = feature.name)
              ∧ (feature ≠ .removeheader → filter.carriers.getLast? = some source)) := by
  have unexcepted : rule.exception = false :=
    (Rule.ofFilter_sameFilter built).exception.trans blocking
  have on {feature : Feature} (listed : feature ∈ Feature.blockingOnly)
      : rule.enabled.contains feature = true ↔ filter.Has feature.name false :=
    Rule.ofFilter_contains_enabled built (not_mem_documentParts listed)
  obtain ⟨acts, -, -⟩ := convertRule?_record converted
  rw [actionOf, unexcepted] at acts
  rcases firstAction_cases acts with ⟨blocks, idle⟩ | ⟨feature, acting⟩
  · exact Or.inl ⟨blocks, fun feature listed has => idle feature listed ((on listed).mpr has)⟩
  · refine Or.inr ⟨feature, acting, (on acting.listed).mp acting.enabled, ?_, ?_⟩
    · intro cookies
      subst cookies
      exact (Option.some.inj (Except.ok.inj acting.acts)).symm
    · intro _
      by_cases header : feature = .removeheader
      · subst header
        obtain ⟨source, carries, named, alone⟩ := exists_header_carrier built blocking acting.acts
        exact ⟨source, carries, alone, fun _ => named, fun other => absurd rfl other⟩
      · obtain ⟨last, found, value⟩ := exists_last_carrier built acting.listed acting.enabled
        refine ⟨last, List.mem_of_getLast? found, ?_, fun removal => absurd removal header,
          fun _ => found⟩
        rw [← value]
        exact actsAlone_of_value blocking acting.listed header acting.acts

/-- A filter that removes a header and has two policies. -/
def headerAmongPolicies : Filter where
  exception := false
  pattern := "||a^"
  modifiers :=
    [{ name := "permissions", value := some "q" }, { name := "removeheader", value := some "etag" },
      { name := "csp", value := some "p" }]

/-- The rule of that filter. -/
def headerAmongPoliciesRule : Rule where
  origin := {}
  text := "||a^$permissions=q,removeheader=etag,csp=p"
  pattern := "||a^"
  exception := false
  enabled := FeatureSet.empty.insertAll [.permissions, .removeheader, .csp]
  advancedValue := some "p"
  headerRemoval := some { name := "etag", fromRequests := false }

/-- The record of that rule. -/
def headerAmongPoliciesRecord : Record where
  id := IdPool.textId headerAmongPoliciesRule.text
  priority := 1
  action := .modifyHeaders none (some [removal "etag"])
  condition :=
    { urlFilter := some "||a^"
      resourceTypes := some ResourceType.all }

/-- A header is removed by the value of its own modifier, also between others. -/
theorem accepted_action_uses_header_value
    : Line.ofString headerAmongPoliciesRule.text = .network headerAmongPolicies
      ∧ Rule.ofFilter headerAmongPolicies {} = .ok headerAmongPoliciesRule
      ∧ convertRule? casedOnly {} headerAmongPoliciesRule
        = some (.ok headerAmongPoliciesRecord, ⟨[headerAmongPoliciesRecord.id]⟩)
      ∧ ∃ source ∈ headerAmongPolicies.carriers, source.name = "removeheader"
          ∧ ActsAlone casedOnly headerAmongPolicies ⟨"removeheader", source.value, false⟩
              headerAmongPoliciesRecord.action := by
  have built : Rule.ofFilter headerAmongPolicies {} = .ok headerAmongPoliciesRule := by
    decide +kernel
  have converted : convertRule? casedOnly {} headerAmongPoliciesRule
      = some (.ok headerAmongPoliciesRecord, ⟨[headerAmongPoliciesRecord.id]⟩) := by
    decide +kernel
  have only : ∀ feature ∈ Feature.blockingOnly,
      featureAction casedOnly headerAmongPoliciesRule feature
        = .ok (some headerAmongPoliciesRecord.action)
      → feature = .removeheader := by
    decide +kernel
  obtain ⟨blocks, -⟩ | ⟨feature, acting, -, -, valued⟩ :=
    accepted_action_uses_last_value built rfl converted
  · cases blocks
  · obtain rfl := only feature acting.listed acting.acts
    obtain ⟨source, carries, alone, named, -⟩ := valued (by decide)
    exact ⟨by decide +kernel, built, converted, source, carries, named rfl, alone⟩

/-- A filter with two policies. -/
def policies : Filter where
  exception := false
  pattern := "||a^"
  modifiers := [{ name := "csp", value := some "p" }, { name := "permissions", value := some "q" }]

/-- The rule of that filter. -/
def policiesRule : Rule where
  origin := {}
  text := "||a^$csp=p,permissions=q"
  pattern := "||a^"
  exception := false
  enabled := FeatureSet.empty.insertAll [.csp, .permissions]
  advancedValue := some "q"

/-- The addition of a content policy. -/
def contentPolicy (value : String) : Action :=
  .modifyHeaders none
    (some [{ header := "Content-Security-Policy", operation := .append, value := some value }])

/-- The record of that rule, which has the name of the one policy and the text of the other. -/
def policiesRecord : Record where
  id := IdPool.textId policiesRule.text
  priority := 1
  action := contentPolicy "q"
  condition :=
    { urlFilter := some "||a^"
      resourceTypes := some ResourceType.all }

/-- An action may use a value that none of the modifiers it was made for has. -/
theorem accepted_action_uses_foreign_value
    : Line.ofString policiesRule.text = .network policies
      ∧ policies ∈ policies.expand
      ∧ Rule.ofFilter policies {} = .ok policiesRule
      ∧ convertRule? casedOnly {} policiesRule
        = some (.ok policiesRecord, ⟨[policiesRecord.id]⟩)
      ∧ ¬∀ (filter : Filter) (origin : Origin) (rule : Rule) (env : Environment)
            (pool next : IdPool) (record : Record) (feature : Feature),
          Rule.ofFilter filter origin = .ok rule → filter.exception = false
          → convertRule? env pool rule = some (.ok record, next)
          → ActsBy env rule Feature.blockingOnly feature record.action → feature ≠ .cookie
          → ∃ own ∈ filter.modifiers, own.Is feature.name false
              ∧ ActsAlone env filter own record.action := by
  have built : Rule.ofFilter policies {} = .ok policiesRule := by decide +kernel
  have converted : convertRule? casedOnly {} policiesRule
      = some (.ok policiesRecord, ⟨[policiesRecord.id]⟩) := by decide +kernel
  refine ⟨by decide +kernel, by decide +kernel, built, converted, ?_⟩
  have acting : ActsBy casedOnly policiesRule Feature.blockingOnly .csp policiesRecord.action :=
    ⟨by decide, by decide, rfl, by decide⟩
  intro faithful
  obtain ⟨own, listed, ⟨named, -⟩, acts⟩ := faithful _ _ _ _ _ _ _ .csp built rfl converted
    acting (by decide)
  have only : ∀ own ∈ policies.modifiers, own.name = Feature.csp.name
      → own = ⟨"csp", some "p", false⟩ := by decide
  rw [only own listed named] at acts
  have proper : ActsAlone casedOnly policies ⟨"csp", some "p", false⟩ (contentPolicy "p") :=
    ⟨_, rfl, rfl⟩
  exact absurd (acts.unique proper) (by decide)

end Blocklist.Conversion
