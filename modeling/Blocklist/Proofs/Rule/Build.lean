import Blocklist.Proofs.Feature
import Blocklist.Rule.Build

/-! What taking in modifiers does to a rule. A modifier says something by itself, whatever the
rule is: it switches a feature on or off, adds to a list, or replaces a value. So the modifiers
of a filter can be taken in when each can, and what they do is a plain fold.
-/

namespace Blocklist

@[simp]
theorem Sided.append_empty {α : Type} (list : Sided α) : list.append {} = list := by
  simp [append]

-----------------------------------------------------------------------------------------
-- What a modifier says
-----------------------------------------------------------------------------------------

namespace Modifier

/-- A modifier has a name and is written with a `~` or without. -/
def Is (modifier : Modifier) (name : String) (negated : Bool) : Prop :=
  modifier.name = name ∧ modifier.negated = negated

instance (modifier : Modifier) (name : String) (negated : Bool)
    : Decidable (modifier.Is name negated) :=
  inferInstanceAs (Decidable (_ ∧ _))

/-- The features that a modifier switches on. In exceptions whole documents stand for all that
filtering does there.
-/
def features (modifier : Modifier) (exception : Bool) : List Feature :=
  if modifier.negated then []
  else (Feature.ofModifier? modifier.name).toList
    ++ if exception && modifier.name == ResourceType.mainFrame.modifier then
        Feature.documentParts
      else []

/-- The features that a modifier switches off. -/
def withoutFeatures (modifier : Modifier) : List Feature :=
  if modifier.negated then (Feature.ofModifier? modifier.name).toList else []

/-- What a reader finds in the value of a modifier that must have one. -/
def listed? {α : Type} (modifier : Modifier) (read : String → Except RuleFault α) : Option α :=
  (modifier.requireValue >>= read).toOption

/-- The domains of pages that a modifier names. -/
def domains (modifier : Modifier) : Sided String :=
  if modifier.name = "domain" then (modifier.listed? readDomains).getD {} else {}

/-- The domains of requests that a modifier names. -/
def targets (modifier : Modifier) : Sided String :=
  if modifier.Is Feature.targets.name false then (modifier.listed? readDomains).getD {} else {}

/-- The domains of requests that a modifier lets through. -/
def denyallow (modifier : Modifier) : List String :=
  if modifier.Is Feature.denyallow.name false then (modifier.listed? readPlainDomains).getD []
  else []

/-- The methods that a modifier names. -/
def methods (modifier : Modifier) : Sided RequestMethod :=
  if modifier.Is Feature.method.name false then (modifier.listed? readMethods).getD {} else {}

/-- Whether a modifier writes the value that a rule acts by. -/
def isCarrier (modifier : Modifier) : Bool :=
  Feature.blockingOnly.any fun feature => modifier.Is feature.name false

/-- The header that a modifier removes. An empty value names none. -/
def header? (modifier : Modifier) : Option HeaderRemoval :=
  if modifier.Is Feature.removeheader.name false then
    (modifier.value.filter (· ≠ "")).bind fun value => (HeaderRemoval.ofValue value).toOption
  else none

variable {modifier : Modifier} {feature : Feature}

theorem is_feature_iff (named : modifier.name = feature.name) (other : Feature) (negated : Bool)
    : modifier.Is other.name negated ↔ feature = other ∧ modifier.negated = negated := by
  rw [Is, named, Feature.name_inj]

theorem isCarrier_iff (named : modifier.name = feature.name)
    : modifier.isCarrier = true ↔ feature ∈ Feature.blockingOnly ∧ modifier.negated = false := by
  simp only [isCarrier, is_feature_iff named, List.any_eq_true, decide_eq_true_eq]
  constructor
  · intro ⟨_, listed, same, positive⟩
    exact ⟨same ▸ listed, positive⟩
  · intro ⟨listed, positive⟩
    exact ⟨feature, listed, rfl, positive⟩

theorem header?_eq_some {removal : HeaderRemoval}
    : modifier.header? = some removal
      ↔ modifier.Is Feature.removeheader.name false
        ∧ ∃ value, modifier.value = some value ∧ value ≠ ""
            ∧ HeaderRemoval.ofValue value = .ok removal := by
  have read (value : String)
      : (HeaderRemoval.ofValue value).toOption = some removal
        ↔ HeaderRemoval.ofValue value = .ok removal := by
    cases HeaderRemoval.ofValue value <;> simp [Except.toOption]
  simp [header?, Option.bind_eq_some_iff, Option.filter_eq_some_iff, read, and_assoc]

end Modifier

-----------------------------------------------------------------------------------------
-- One modifier
-----------------------------------------------------------------------------------------

namespace Rule

/-- A rule with what a modifier says, as far as that can be read. -/
def take (rule : Rule) (modifier : Modifier) : Rule :=
  { rule with
    enabled := rule.enabled.insertAll (modifier.features rule.exception)
    disabled := rule.disabled.insertAll modifier.withoutFeatures
    advancedValue := if modifier.isCarrier then modifier.value else rule.advancedValue
    domains := rule.domains.append modifier.domains
    targets := rule.targets.append modifier.targets
    denyallow := rule.denyallow ++ modifier.denyallow
    types := (ResourceType.ofModifier? modifier.name).elim rule.types
      (rule.types.insert modifier.negated)
    methods := rule.methods.append modifier.methods
    headerRemoval := modifier.header?.or rule.headerRemoval }

variable {modifier : Modifier} {feature : Feature}

/-- A modifier can be taken in by every rule or is at fault for every rule, and where it is taken
in, the rule says what the modifier says.
-/
def Takes (modifier : Modifier) (step : Rule → Except RuleFault Rule) : Prop :=
  ∃ outcome : Except RuleFault Unit,
    ∀ rule : Rule, step rule = (fun _ => rule.take modifier) <$> outcome

/-- A step that never fails. -/
theorem takes_of_ok {step : Rule → Except RuleFault Rule}
    (same : ∀ rule : Rule, step rule = .ok (rule.take modifier))
    : Takes modifier step :=
  ⟨.ok (), same⟩

theorem takes_of_error {step : Rule → Except RuleFault Rule} (fault : RuleFault)
    (fails : ∀ rule : Rule, step rule = .error fault)
    : Takes modifier step :=
  ⟨.error fault, fails⟩

/-- A step that reads a list fails by the list alone. -/
theorem takes_of_read {α : Type} (read : String → Except RuleFault α) (otherwise : α)
    {put : Rule → α → Rule}
    (same : ∀ rule : Rule, rule.take modifier = put rule ((modifier.listed? read).getD otherwise))
    : Takes modifier fun rule => do
        let list ← read (← modifier.requireValue)
        return put rule list := by
  simp only [Modifier.listed?] at same
  cases given : modifier.requireValue with
  | error fault => exact takes_of_error fault fun rule => rfl
  | ok value =>
      cases found : read value with
      | error fault =>
          refine takes_of_error fault fun rule => ?_
          simp [bind, Except.bind, found]
      | ok list =>
          refine takes_of_ok fun rule => ?_
          rw [same, given]
          simp [bind, Except.bind, found, Except.toOption, pure, Except.pure]

/-- A modifier that switches no feature on leaves the parts of a rule that features have. -/
theorem take_of_off (off : ∀ feature : Feature, ¬modifier.Is feature.name false) (rule : Rule)
    : rule.take modifier
      = { rule with
          enabled := rule.enabled.insertAll (modifier.features rule.exception)
          disabled := rule.disabled.insertAll modifier.withoutFeatures
          domains := rule.domains.append modifier.domains
          types := (ResourceType.ofModifier? modifier.name).elim rule.types
            (rule.types.insert modifier.negated) } := by
  simp [take, Modifier.targets, Modifier.denyallow, Modifier.methods, Modifier.isCarrier,
    Modifier.header?, off]

/-- A modifier that switches one feature on leaves the parts of a rule that others have. -/
theorem take_of_feature (named : modifier.name = feature.name) (positive : modifier.negated = false)
    (rule : Rule)
    : rule.take modifier
      = { rule with
          enabled := rule.enabled.insert feature
          advancedValue :=
            if feature ∈ Feature.blockingOnly then modifier.value else rule.advancedValue
          targets := rule.targets.append
            (if feature = .targets then (modifier.listed? readDomains).getD {} else {})
          denyallow := rule.denyallow
            ++ if feature = .denyallow then (modifier.listed? readPlainDomains).getD [] else []
          methods := rule.methods.append
            (if feature = .method then (modifier.listed? readMethods).getD {} else {})
          headerRemoval :=
            if feature = .removeheader then modifier.header?.or rule.headerRemoval
            else rule.headerRemoval } := by
  have untyped : ResourceType.ofModifier? modifier.name = none :=
    named ▸ feature.type_ofModifier?_name
  have found := Feature.ofModifier?_eq_some_iff.mpr named
  have undocumented : modifier.name ≠ ResourceType.mainFrame.modifier :=
    named ▸ feature.name_ne_modifier .mainFrame
  have elsewhere : modifier.name ≠ "domain" := named ▸ feature.name_ne_domain
  have value : modifier.isCarrier = decide (feature ∈ Feature.blockingOnly) := by
    rw [Bool.eq_iff_iff, Modifier.isCarrier_iff named]
    simp [positive]
  by_cases removal : feature = .removeheader <;>
    simp [take, Modifier.features, Modifier.withoutFeatures, Modifier.domains, Modifier.targets,
      Modifier.denyallow, Modifier.methods, Modifier.header?, Modifier.is_feature_iff named,
      positive, untyped, found, undocumented, elsewhere, value, removal]

/-- A modifier with a `~` switches its feature off, if that may be. -/
theorem applyFeature_takes_of_negated (named : modifier.name = feature.name)
    (negated : modifier.negated = true)
    : Takes modifier fun rule => rule.applyFeature feature modifier := by
  have off (other : Feature) : ¬modifier.Is other.name false := by
    simp [Modifier.is_feature_iff named, negated]
  have untyped : ResourceType.ofModifier? modifier.name = none :=
    named ▸ feature.type_ofModifier?_name
  have found := Feature.ofModifier?_eq_some_iff.mpr named
  have elsewhere : modifier.name ≠ "domain" := named ▸ feature.name_ne_domain
  simp only [applyFeature, negated, Bool.not_true, Bool.false_eq_true, if_false]
  split
  · refine takes_of_ok fun rule => ?_
    simp [take_of_off off, Modifier.features, Modifier.withoutFeatures, Modifier.domains, negated,
      untyped, found, elsewhere]
  · exact takes_of_error _ fun rule => rfl

/-- A feature is switched on with the value that its modifier has, by cases on the feature. -/
theorem applyFeature_takes_of_positive (named : modifier.name = feature.name)
    (positive : modifier.negated = false)
    : Takes modifier fun rule => rule.applyFeature feature modifier := by
  have same := take_of_feature named positive
  simp only [applyFeature, positive, Bool.not_false, if_true]
  cases feature with
  | targets =>
      refine takes_of_read readDomains {} fun rule => ?_
      simp [same, Feature.blockingOnly]
  | denyallow =>
      refine takes_of_read readPlainDomains [] fun rule => ?_
      simp [same, Feature.blockingOnly]
  | method =>
      refine takes_of_read readMethods {} fun rule => ?_
      simp [same, Feature.blockingOnly]
  | removeheader =>
      have own : modifier.Is Feature.removeheader.name false := ⟨named, positive⟩
      simp only [applyValue]
      -- a value that is unset or empty is kept, but only a filled one is read, and may be at fault
      split
      · rename_i unset
        refine takes_of_ok fun rule => ?_
        simp [same, Feature.blockingOnly, Modifier.header?, own, unset, pure, Except.pure]
      · rename_i empty
        refine takes_of_ok fun rule => ?_
        simp [same, Feature.blockingOnly, Modifier.header?, own, empty, Option.filter, pure,
          Except.pure]
      · rename_i value filled given
        cases read : HeaderRemoval.ofValue value with
        | error fault => exact takes_of_error fault fun rule => rfl
        | ok removal =>
            have removes : modifier.header? = some removal :=
              Modifier.header?_eq_some.mpr ⟨own, value, given, filled, read⟩
            refine takes_of_ok fun rule => ?_
            simp [same, Feature.blockingOnly, removes, given]
  | _ =>
      refine takes_of_ok fun rule => ?_
      simp [applyValue, same, Feature.blockingOnly, pure, Except.pure]

theorem applyType_eq_take {type : ResourceType}
    (typed : ResourceType.ofModifier? modifier.name = some type) (rule : Rule)
    : rule.applyType type modifier.negated = rule.take modifier := by
  have named := ResourceType.ofModifier?_eq_some.mp typed
  have off (feature : Feature) : ¬modifier.Is feature.name false :=
    fun own => feature.name_ne_modifier type (own.1.symm.trans named)
  have unfeatured : Feature.ofModifier? modifier.name = none := by
    rw [named]
    cases type <;> decide
  have elsewhere : modifier.name ≠ "domain" := named ▸ type.modifier_ne_domain
  have document : modifier.name = ResourceType.mainFrame.modifier ↔ type = .mainFrame :=
    named ▸ ResourceType.modifier_inj
  simp only [take_of_off off, applyType, Modifier.features, Modifier.withoutFeatures,
    Modifier.domains, elsewhere, unfeatured, typed]
  cases modifier.negated <;> cases rule.exception <;> by_cases page : type = .mainFrame <;>
    simp [document, page]

/-- Domains of pages are added to those of the rule, whatever the sign. -/
theorem take_of_domain (paged : modifier.name = "domain") (rule : Rule)
    : rule.take modifier
      = { rule with
          domains := rule.domains.append ((modifier.listed? readDomains).getD {}) } := by
  have off (feature : Feature) : ¬modifier.Is feature.name false :=
    fun own => feature.name_ne_domain (own.1.symm.trans paged)
  have unfeatured : Feature.ofModifier? "domain" = none := by decide
  have untyped : ResourceType.ofModifier? "domain" = none := by decide
  simp [take_of_off off, Modifier.features, Modifier.withoutFeatures, Modifier.domains, paged,
    unfeatured, untyped, ResourceType.mainFrame.modifier_ne_domain.symm]

/-- Every modifier does to a rule what it says by itself, by cases on what its name stands for.
-/
theorem apply_takes (modifier : Modifier) : Takes modifier fun rule => rule.apply modifier := by
  by_cases paged : modifier.name = "domain"
  · simp only [apply, paged, if_true]
    exact takes_of_read readDomains {} (take_of_domain paged)
  · simp only [apply, paged, if_false]
    cases typed : ResourceType.ofModifier? modifier.name with
    | some type => exact takes_of_ok fun rule => congrArg Except.ok (applyType_eq_take typed rule)
    | none =>
        cases found : Feature.ofModifier? modifier.name with
        | some feature =>
            have named := Feature.ofModifier?_eq_some_iff.mp found
            cases negated : modifier.negated with
            | true => exact applyFeature_takes_of_negated named negated
            | false => exact applyFeature_takes_of_positive named negated
        | none => exact takes_of_error _ fun rule => rfl

end Rule

/-- A modifier is usable when some rule takes it in; then every rule does. -/
def Modifier.IsUsable (modifier : Modifier) : Prop :=
  ∃ rule next : Rule, rule.apply modifier = .ok next

namespace Rule

variable {rule next : Rule} {modifier : Modifier} {feature : Feature}

/-- Taking in a modifier fails by the modifier alone, and else says what the modifier says. -/
theorem apply_eq_ok_iff
    : rule.apply modifier = .ok next ↔ modifier.IsUsable ∧ next = rule.take modifier := by
  obtain ⟨outcome, step⟩ := apply_takes modifier
  cases outcome with
  | error fault =>
      have fails (rule next : Rule) : rule.apply modifier ≠ .ok next := by
        intro applied
        cases applied.symm.trans (step rule)
      constructor
      · intro applied
        exact absurd applied (fails rule next)
      · intro ⟨⟨rule, next, applied⟩, _⟩
        exact absurd applied (fails rule next)
  | ok =>
      constructor
      · intro applied
        exact ⟨⟨rule, next, applied⟩, Except.ok.inj (applied.symm.trans (step rule))⟩
      · intro ⟨_, taken⟩
        exact taken ▸ step rule

/-- A usable modifier with a `~` stands for a feature that may be switched off. -/
theorem mem_negatable_of_usable (usable : modifier.IsUsable) (named : modifier.name = feature.name)
    (negated : modifier.negated = true)
    : feature ∈ Feature.negatable := by
  obtain ⟨rule, next, applied⟩ := usable
  have untyped : ResourceType.ofModifier? modifier.name = none :=
    named ▸ feature.type_ofModifier?_name
  have found := Feature.ofModifier?_eq_some_iff.mpr named
  have elsewhere : modifier.name ≠ "domain" := named ▸ feature.name_ne_domain
  simp only [apply, elsewhere, untyped, found, applyFeature, negated, if_false] at applied
  split at applied
  · rename_i negatable
    cases negatable
  · split at applied
    · rename_i negatable
      exact List.contains_iff_mem.mp negatable
    · cases applied

-----------------------------------------------------------------------------------------
-- All modifiers of a filter
-----------------------------------------------------------------------------------------

/-- Modifiers are taken in when each is usable, by induction on them. -/
theorem foldlM_apply_eq_ok_iff {modifiers : List Modifier} {built : Rule}
    : modifiers.foldlM apply rule = .ok built
      ↔ (∀ modifier ∈ modifiers, modifier.IsUsable) ∧ built = modifiers.foldl take rule := by
  induction modifiers generalizing rule with
  | nil => simp [pure, Except.pure, eq_comm]
  | cons modifier modifiers ih =>
      have first : (modifier :: modifiers).foldlM apply rule = .ok built
          ↔ ∃ next, rule.apply modifier = .ok next ∧ modifiers.foldlM apply next = .ok built := by
        rw [List.foldlM_cons]
        cases rule.apply modifier <;> simp [bind, Except.bind]
      simp only [first, apply_eq_ok_iff, ih, List.forall_mem_cons, List.foldl_cons]
      constructor
      · intro ⟨next, ⟨usable, taken⟩, later, same⟩
        exact ⟨⟨usable, later⟩, taken ▸ same⟩
      · intro ⟨⟨usable, later⟩, same⟩
        exact ⟨_, ⟨usable, rfl⟩, later, same⟩

/-- Two rules that come from the same filter at the same place. -/
structure SameFilter (rule other : Rule) : Prop where
  origin : other.origin = rule.origin
  text : other.text = rule.text
  pattern : other.pattern = rule.pattern
  exception : other.exception = rule.exception

theorem foldl_take_sameFilter (rule : Rule) (modifiers : List Modifier)
    : SameFilter rule (modifiers.foldl take rule) :=
  List.foldlRecOn modifiers take ⟨rfl, rfl, rfl, rfl⟩
    fun _ same _ _ => ⟨same.origin, same.text, same.pattern, same.exception⟩

variable {filter : Filter} {origin : Origin}

/-- A filter makes a rule when all its modifiers are usable, and the rule says what they say. -/
theorem ofFilter_eq_ok_iff
    : ofFilter filter origin = .ok rule
      ↔ (∀ modifier ∈ filter.modifiers, modifier.IsUsable)
        ∧ rule = filter.modifiers.foldl take (start filter origin) :=
  foldlM_apply_eq_ok_iff

theorem ofFilter_sameFilter (built : ofFilter filter origin = .ok rule)
    : SameFilter (start filter origin) rule := by
  rw [(ofFilter_eq_ok_iff.mp built).2]
  exact foldl_take_sameFilter (start filter origin) filter.modifiers

/-- A rule has the origin that was given to its filter. -/
theorem ofFilter_origin (built : ofFilter filter origin = .ok rule) : rule.origin = origin :=
  (ofFilter_sameFilter built).origin

end Rule

end Blocklist
