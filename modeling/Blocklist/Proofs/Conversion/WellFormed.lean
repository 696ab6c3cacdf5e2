import Blocklist.Proofs.Conversion.Outcomes
import Blocklist.Proofs.Host.Label
import Blocklist.Proofs.Text

/-! Accepted records are well formed. The engine refuses a whole ruleset for one record with an
empty list, an empty filter or an expression it cannot take, so no accepted record may have one.
-/

namespace Blocklist.Conversion

open Declarative

-----------------------------------------------------------------------------------------
-- Lists that are set
-----------------------------------------------------------------------------------------

/-- A list that may be unset, but is not empty. -/
def Filled {α : Type} (list? : Option (List α)) : Prop :=
  list? ≠ some []

/-- All lists of a condition that are set have something in them. -/
structure FilledCondition (condition : Condition) : Prop where
  initiatorDomains : Filled condition.initiatorDomains
  excludedInitiatorDomains : Filled condition.excludedInitiatorDomains
  requestDomains : Filled condition.requestDomains
  excludedRequestDomains : Filled condition.excludedRequestDomains
  resourceTypes : Filled condition.resourceTypes
  excludedResourceTypes : Filled condition.excludedResourceTypes
  requestMethods : Filled condition.requestMethods
  excludedRequestMethods : Filled condition.excludedRequestMethods

/-- All lists of an action that are set have something in them. -/
def FilledAction : Action → Prop
  | .modifyHeaders request response => Filled request ∧ Filled response
  | .redirect target => Filled (Merge.removedParams? target)
  | _ => True

theorem Filled.unset {α : Type} : Filled (none : Option (List α)) :=
  nofun

theorem Filled.of_ne_nil {α : Type} {values : List α} (filled : values ≠ [])
    : Filled (some values) :=
  fun empty => filled (Option.some.inj empty)

theorem nonEmpty?_filled {α : Type} (values : List α)
    : Filled (nonEmpty? values) := by
  rw [nonEmpty?]
  split
  · exact .unset
  · rename_i filled
    exact .of_ne_nil (mt List.isEmpty_iff.mpr filled)

theorem namedTypes?_filled (rule : Rule)
    : Filled (namedTypes? rule) := by
  rw [namedTypes?]
  split
  · exact .unset
  · split
    · rename_i named
      exact .of_ne_nil fun none => by simp [none] at named
    · split
      · exact .of_ne_nil (by decide)
      · split
        · exact .of_ne_nil (by decide)
        · exact .unset

/-- Whole pages are among types they are added to. -/
theorem mainFrame_mem_withPages (types : List ResourceType)
    : .mainFrame ∈ if types.contains .mainFrame then types else types ++ [.mainFrame] := by
  split
  · rename_i listed
    exact List.contains_iff_mem.mp listed
  · exact List.mem_append_right types List.mem_cons_self

theorem types?_filled (rule : Rule)
    : Filled (types? rule) := by
  rw [types?]
  split
  · exact namedTypes?_filled rule
  · exact .of_ne_nil (List.ne_nil_of_mem (mainFrame_mem_withPages _))

theorem mainFrame_mem_excludedTypes? {rule : Rule} {types : List ResourceType}
    (excluded : excludedTypes? rule = some types)
    : .mainFrame ∈ types := by
  rw [excludedTypes?] at excluded
  split at excluded
  · cases excluded
  · obtain rfl := Option.some.inj excluded
    exact mainFrame_mem_withPages rule.types.restricted

theorem excludedTypes?_filled (rule : Rule)
    : Filled (excludedTypes? rule) := by
  intro empty
  exact absurd (mainFrame_mem_excludedTypes? empty) List.not_mem_nil

theorem conditionOf_filled (env : Environment) (rule : Rule)
    : FilledCondition (conditionOf env rule) where
  initiatorDomains := nonEmpty?_filled _
  excludedInitiatorDomains := nonEmpty?_filled _
  requestDomains := nonEmpty?_filled _
  excludedRequestDomains := nonEmpty?_filled _
  resourceTypes := types?_filled rule
  excludedResourceTypes := excludedTypes?_filled rule
  requestMethods := nonEmpty?_filled _
  excludedRequestMethods := nonEmpty?_filled _

theorem featureAction_filled {env : Environment} {rule : Rule} {feature : Feature}
    {action : Action} (acts : featureAction env rule feature = .ok (some action))
    : FilledAction action := by
  cases feature with
  | redirect =>
      simp only [featureAction, redirectAction] at acts
      split at acts
      · cases acts
      · split at acts
        · cases acts
        · split at acts
          · cases acts
          · obtain rfl := Option.some.inj (Except.ok.inj acts)
            exact Filled.unset
  | removeparam =>
      simp only [featureAction, removeParamAction] at acts
      split at acts
      · cases acts
      · obtain rfl := Option.some.inj (Except.ok.inj acts)
        exact Filled.unset
      · split at acts
        · cases acts
        · obtain rfl := Option.some.inj (Except.ok.inj acts)
          exact Filled.of_ne_nil (List.cons_ne_nil _ [])
  | removeheader =>
      have named : removeHeaderAction rule = some action := Except.ok.inj acts
      rw [removeHeaderAction] at named
      split at named
      · obtain rfl := Option.some.inj named
        exact ⟨.of_ne_nil (List.cons_ne_nil _ []), .unset⟩
      · obtain ⟨header, -, rfl⟩ := Option.map_eq_some_iff.mp named
        exact ⟨.unset, .of_ne_nil (List.cons_ne_nil _ [])⟩
  | csp =>
      obtain ⟨value, -, rfl⟩ := Option.map_eq_some_iff.mp (Except.ok.inj acts)
      exact ⟨.unset, .of_ne_nil (List.cons_ne_nil _ [])⟩
  | permissions =>
      obtain ⟨value, -, rfl⟩ := Option.map_eq_some_iff.mp (Except.ok.inj acts)
      exact ⟨.unset, .of_ne_nil (List.cons_ne_nil _ [])⟩
  | cookie =>
      obtain rfl := Option.some.inj (Except.ok.inj acts)
      exact ⟨.of_ne_nil (List.cons_ne_nil _ []), .of_ne_nil (List.cons_ne_nil _ [])⟩
  | _ => cases acts

theorem actionOf_filled {env : Environment} {rule : Rule} {action : Action}
    (acts : actionOf env rule = .ok action)
    : FilledAction action := by
  rw [actionOf] at acts
  split at acts
  · obtain rfl := Except.ok.inj acts
    rw [exceptionAction]
    split <;> trivial
  · rcases firstAction_eq_ok acts with rfl | ⟨feature, -, -, own⟩
    · trivial
    · exact featureAction_filled own

-----------------------------------------------------------------------------------------
-- The filter of a condition
-----------------------------------------------------------------------------------------

/-- The anchor and wildcard that the engine refuses at the beginning of a filter. -/
def anchoredWildcard : List Char := ['|', '|', '*']

theorem not_isLabelChar_of_mem_anchoredWildcard
    : ∀ c ∈ anchoredWildcard, Host.isLabelChar c = false := by
  have apart : anchoredWildcard.all (fun c => !Host.isLabelChar c) = true := by decide
  intro c member
  simpa using List.all_eq_true.mp apart c member

theorem urlPattern_eq_empty_iff (pattern : String)
    : urlPattern pattern = "" ↔ pattern = "" := by
  rw [urlPattern]
  split
  · rename_i rest anchored
    have begins := Text.after?_eq_some.mp anchored
    rw [← String.toList_eq_nil_iff, ← String.toList_eq_nil_iff, String.toList_ofList, begins]
    simp
  · exact Iff.rfl

/-- The anchor is dropped before a wildcard, and what follows begins with the wildcard. -/
theorem not_prefix_urlPattern (pattern : String)
    : ¬anchoredWildcard <+: (urlPattern pattern).toList := by
  rw [urlPattern]
  split
  · simp [anchoredWildcard, List.cons_prefix_cons]
  · rename_i plain
    rintro ⟨rest, begins⟩
    have anchored := Text.after?_eq_some.mpr begins.symm
    rw [anchoredWildcard, plain] at anchored
    cases anchored

theorem regexFilter?_isSome (env : Environment) (rule : Rule)
    : (regexFilter? env rule).isSome = true ↔ Pattern.isRegex rule.pattern = true := by
  cases shape : Pattern.isRegex rule.pattern <;> simp [regexFilter?, shape]

theorem urlFilter?_isSome (env : Environment) (rule : Rule)
    : (urlFilter? env rule).isSome = true
      ↔ rule.pattern ≠ "" ∧ Pattern.isRegex rule.pattern = false := by
  cases shape : Pattern.isRegex rule.pattern <;> simp [urlFilter?, shape]

/-- A filter is filled and has no anchor before a wildcard; the ASCII form changes neither. -/
theorem urlFilter?_eq_some {env : Environment} {rule : Rule} {filter : String}
    (plain : urlFilter? env rule = some filter)
    : filter ≠ "" ∧ ¬anchoredWildcard <+: filter.toList := by
  have set : (urlFilter? env rule).isSome = true := by rw [plain]; rfl
  obtain ⟨written, -⟩ := (urlFilter?_isSome env rule).mp set
  rw [urlFilter?] at plain
  split at plain
  · cases plain
  · obtain rfl := Option.some.inj plain
    rw [Ne, Host.toAscii_eq_empty_iff, urlPattern_eq_empty_iff,
      Host.prefix_toAscii_iff _ not_isLabelChar_of_mem_anchoredWildcard]
    exact ⟨written, not_prefix_urlPattern rule.pattern⟩

-----------------------------------------------------------------------------------------
-- The check of a record
-----------------------------------------------------------------------------------------

/-- What the check of a record found out, verdict by verdict. -/
inductive Checked (env : Environment) (rule : Rule) (record : Record)
    : Except Rejection Record → Prop where
  | emptyResources (types : record.condition.resourceTypes = some [])
      : Checked env rule record (.error (.emptyResources rule record))
  | emptyDomains (asked : rule.domains.permitted ≠ [])
      (domains : ∀ domains ∈ record.condition.initiatorDomains, domains = [])
      : Checked env rule record (.error (.emptyDomains rule record))
  | unsupportedRegex {pattern reason : String}
      (expression : record.condition.regexFilter = some pattern)
      (defect : env.regexDefect? pattern
        (record.condition.isUrlFilterCaseSensitive == some true) = some reason)
      : Checked env rule record (.error (.unsupportedRegex rule record reason))
  | accepted
      (domains : rule.domains.permitted ≠ [] → record.condition.initiatorDomains ≠ none)
      (regex : ∀ pattern ∈ record.condition.regexFilter,
        env.regexDefect? pattern (record.condition.isUrlFilterCaseSensitive == some true) = none)
      : Checked env rule record (.ok record)

theorem checked_accept (env : Environment) (rule : Rule) (record : Record)
    : Checked env rule record (accept env rule record) := by
  simp only [accept]
  split
  · rename_i types
    refine .emptyResources ?_
    simpa [Option.any_eq_true_iff_get, Option.eq_some_iff_get_eq] using types
  · split
    · rename_i domains
      simp only [Bool.and_eq_true, Bool.not_eq_true', List.isEmpty_eq_false_iff] at domains
      obtain ⟨asked, empty⟩ := domains
      refine .emptyDomains asked ?_
      intro domains set
      simpa [Option.mem_def.mp set] using empty
    · rename_i domains
      have given : rule.domains.permitted ≠ [] → record.condition.initiatorDomains ≠ none := by
        intro asked unset
        simp [asked, unset] at domains
      split
      · rename_i unset
        exact .accepted given (by simp [unset])
      · rename_i pattern expression
        split
        · rename_i defect
          exact .unsupportedRegex expression defect
        · rename_i taken
          exact .accepted given (by simpa [expression] using taken)

/-- What the engine asks of a record, and what the record owes to its rule. -/
structure WellFormed (env : Environment) (rule : Rule) (record : Record) : Prop where
  regexFilter : record.condition.regexFilter.isSome = true ↔ Pattern.isRegex rule.pattern = true
  urlFilter : record.condition.urlFilter.isSome = true
    ↔ rule.pattern ≠ "" ∧ Pattern.isRegex rule.pattern = false
  oneFilter : record.condition.regexFilter = none ∨ record.condition.urlFilter = none
  filter : ∀ filter ∈ record.condition.urlFilter,
    filter ≠ "" ∧ ¬['|', '|', '*'] <+: filter.toList
  regex : ∀ pattern ∈ record.condition.regexFilter,
    env.regexDefect? pattern (rule.enabled.contains .matchCase) = none
  condition : FilledCondition record.condition
  action : FilledAction record.action
  initiators : rule.domains.permitted ≠ []
    → record.condition.initiatorDomains
      = some ((rule.domains.permitted.filter fun domain =>
          !Pattern.hasWildcard domain && !Pattern.isRegex domain).map
            (Host.toAscii env.encodeLabel?))
  pages : ∀ types ∈ record.condition.excludedResourceTypes, .mainFrame ∈ types

theorem conditionOf_caseSensitive (env : Environment) (rule : Rule)
    : ((conditionOf env rule).isUrlFilterCaseSensitive == some true)
      = rule.enabled.contains .matchCase := by
  cases cased : rule.enabled.contains .matchCase <;> simp [conditionOf, cased]

theorem filters_exclusive (env : Environment) (rule : Rule)
    : regexFilter? env rule = none ∨ urlFilter? env rule = none := by
  cases shape : Pattern.isRegex rule.pattern <;> simp [regexFilter?, urlFilter?, shape]

theorem initiators_of_set {env : Environment} {rule : Rule}
    (set : (conditionOf env rule).initiatorDomains ≠ none)
    : (conditionOf env rule).initiatorDomains
      = some ((rule.domains.permitted.filter isPlainDomain).map
          (Host.toAscii env.encodeLabel?)) := by
  simp only [conditionOf, asciiDomains?, nonEmpty?] at set ⊢
  split
  · rename_i empty
    rw [if_pos empty] at set
    exact absurd rfl set
  · rfl

/-- The rule of a draft has no permitted domain that the engine can compare, when its condition
has none.
-/
theorem not_plain_of_unset {env : Environment} {rule : Rule}
    (unset : ∀ domains ∈ (conditionOf env rule).initiatorDomains, domains = [])
    : ∀ domain ∈ rule.domains.permitted,
        Pattern.hasWildcard domain = true ∨ Pattern.isRegex domain = true := by
  have none : rule.domains.permitted.filter isPlainDomain = [] := by
    by_contra some
    simp [conditionOf, asciiDomains?, nonEmpty?, some] at unset
  intro domain listed
  have shape := List.filter_eq_nil_iff.mp none domain listed
  simpa [isPlainDomain, Classical.or_iff_not_imp_left] using shape

/-- A record of a rule that passes its check is well formed. -/
theorem wellFormed_of_accepted {env : Environment} {rule : Rule} {id : UInt32} {action : Action}
    (acts : actionOf env rule = .ok action)
    (domains : rule.domains.permitted ≠ [] → (conditionOf env rule).initiatorDomains ≠ none)
    (regex : ∀ pattern ∈ (conditionOf env rule).regexFilter,
      env.regexDefect? pattern
        ((conditionOf env rule).isUrlFilterCaseSensitive == some true) = none)
    : WellFormed env rule ⟨id, rule.priority, action, conditionOf env rule⟩ where
  regexFilter := regexFilter?_isSome env rule
  urlFilter := urlFilter?_isSome env rule
  oneFilter := filters_exclusive env rule
  filter _ plain := urlFilter?_eq_some plain
  regex := conditionOf_caseSensitive env rule ▸ regex
  condition := conditionOf_filled env rule
  action := actionOf_filled acts
  initiators asked := initiators_of_set (domains asked)
  pages _ excluded := mainFrame_mem_excludedTypes? excluded

/-- A conversion ends with a rejection that is bound to no record, or with the check of the
record that the rule has.
-/
theorem convertRule?_checked {env : Environment} {pool next : IdPool} {rule : Rule}
    {result : Except Rejection Record}
    (converted : convertRule? env pool rule = some (result, next))
    : (∃ rejection, result = .error rejection ∧ rejection.recordId? = none)
      ∨ ∃ id action, actionOf env rule = .ok action
          ∧ Checked env rule ⟨id, rule.priority, action, conditionOf env rule⟩ result := by
  rcases convertRule?_eq_some converted with
    ⟨rejection, refused, unbound, -⟩ | ⟨id, action, -, -, acts, rfl⟩
  · exact Or.inl ⟨rejection, refused, unbound⟩
  · exact Or.inr ⟨id, action, acts, checked_accept env rule _⟩

/-- Every accepted record is well formed, whatever the environment takes and whichever ids are
taken. No rule fails for want of resource types, and one that fails for want of domains has
permitted domains, all of them wildcards or expressions.
-/
theorem conversion_wellFormed (env : Environment) (pool : IdPool) (rule : Rule)
    : (∀ record next, convertRule? env pool rule = some (.ok record, next)
        → WellFormed env rule record)
      ∧ (∀ other record next,
        convertRule? env pool rule ≠ some (.error (.emptyResources other record), next))
      ∧ ∀ other record next,
        convertRule? env pool rule = some (.error (.emptyDomains other record), next)
        → rule.domains.permitted ≠ []
          ∧ ∀ domain ∈ rule.domains.permitted,
              Pattern.hasWildcard domain = true ∨ Pattern.isRegex domain = true := by
  refine ⟨?_, ?_, ?_⟩
  · intro record next converted
    rcases convertRule?_checked converted with
      ⟨rejection, refused, -⟩ | ⟨id, action, acts, checked⟩
    · cases refused
    · cases checked with
      | accepted domains regex => exact wellFormed_of_accepted acts domains regex
  · intro other record next converted
    rcases convertRule?_checked converted with
      ⟨rejection, refused, unbound⟩ | ⟨id, action, -, checked⟩
    · cases refused
      cases unbound
    · cases checked with
      | emptyResources types => exact types?_filled rule types
  · intro other record next converted
    rcases convertRule?_checked converted with
      ⟨rejection, refused, unbound⟩ | ⟨id, action, -, checked⟩
    · cases refused
      cases unbound
    · cases checked with
      | emptyDomains asked domains => exact ⟨asked, not_plain_of_unset domains⟩

/-- An environment that takes expressions only when letters count by case. -/
def casedOnly : Environment :=
  ⟨{}, fun _ cased => if cased then none else some "letters of either case",
    fun name => .ok name, fun _ => none⟩

/-- A rule with an expression that asks for pages by name, by wildcard and by expression. -/
def casedExpression : Rule where
  origin := {}
  text := "/Ad[0-9]/$match-case,domain=a.*|b.com|/c/,~image"
  pattern := "/Ad[0-9]/"
  exception := false
  enabled := FeatureSet.empty.insert .matchCase
  domains := { permitted := ["a.*", "b.com", "/c/"] }
  types := { restricted := [.image] }

/-- The record of that rule. -/
def casedRecord : Record where
  id := IdPool.textId casedExpression.text
  priority := 1
  action := .block
  condition :=
    { regexFilter := some "Ad[0-9]"
      isUrlFilterCaseSensitive := some true
      initiatorDomains := some ["b.com"]
      excludedResourceTypes := some [.image, .mainFrame] }

/-- The record keeps the one domain that can be compared, and excludes whole pages. -/
theorem conversion_wellFormed_of_casedExpression
    : convertRule? casedOnly {} casedExpression = some (.ok casedRecord, ⟨[casedRecord.id]⟩)
      ∧ WellFormed casedOnly casedExpression casedRecord := by
  have converted : convertRule? casedOnly {} casedExpression
      = some (.ok casedRecord, ⟨[casedRecord.id]⟩) := by decide +kernel
  obtain ⟨accepted, -, -⟩ := conversion_wellFormed casedOnly {} casedExpression
  exact ⟨converted, accepted _ _ converted⟩

end Blocklist.Conversion
