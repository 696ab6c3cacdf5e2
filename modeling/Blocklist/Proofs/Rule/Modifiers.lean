import Blocklist.Proofs.Rule.Build

/-! The rule of a filter, part by part, from the modifiers of the filter: the features that are
on and off, the types and the entries of each list, the value it acts by and the header it
removes. Of all these only the value and the header hang on the order of modifiers.
-/

namespace Blocklist

/-- A filter has a modifier of a name, written with a `~` or without. -/
def Filter.Has (filter : Filter) (name : String) (negated : Bool) : Prop :=
  ∃ modifier ∈ filter.modifiers, modifier.Is name negated

instance (filter : Filter) (name : String) (negated : Bool)
    : Decidable (filter.Has name negated) :=
  inferInstanceAs (Decidable (∃ modifier ∈ _, _))

/-- The modifiers of a filter that write the value its rule acts by. -/
def Filter.carriers (filter : Filter) : List Modifier :=
  filter.modifiers.filter Modifier.isCarrier

-----------------------------------------------------------------------------------------
-- Sides of a list
-----------------------------------------------------------------------------------------

namespace Sided

variable {α : Type}

/-- One side of a list. -/
def side (list : Sided α) (isRestricted : Bool) : List α :=
  if isRestricted then list.restricted else list.permitted

theorem side_append (list more : Sided α) (isRestricted : Bool)
    : (list.append more).side isRestricted = list.side isRestricted ++ more.side isRestricted := by
  cases isRestricted <;> rfl

section Insert

variable [DecidableEq α] {list : Sided α} {isRestricted which : Bool} {entry other : α}

theorem mem_side_insert
    : other ∈ (list.insert isRestricted entry).side which
      ↔ other ∈ list.side which ∨ entry = other ∧ isRestricted = which := by
  cases isRestricted <;> cases which <;>
    grind [insert, side]

theorem nodup_side_insert (distinct : (list.side which).Nodup)
    : ((list.insert isRestricted entry).side which).Nodup := by
  have added (side : List α) (distinct : side.Nodup)
      : (if entry ∈ side then side else side ++ [entry]).Nodup := by
    split
    · exact distinct
    · rename_i fresh
      exact List.nodup_append.mpr ⟨distinct, by simp, by grind⟩
  cases isRestricted <;> cases which
  · exact added _ distinct
  · exact distinct
  · exact distinct
  · exact added _ distinct

end Insert

end Sided

namespace Modifier

variable {modifier : Modifier} {feature : Feature}

theorem mem_features {exception : Bool}
    : feature ∈ modifier.features exception
      ↔ modifier.Is feature.name false
        ∨ feature ∈ Feature.documentParts ∧ exception = true
          ∧ modifier.Is ResourceType.mainFrame.modifier false := by
  simp only [features, Is]
  cases modifier.negated with
  | true => simp
  | false =>
      by_cases document : exception = true ∧ modifier.name = ResourceType.mainFrame.modifier <;>
        simp [document, Feature.ofModifier?_eq_some_iff]

theorem mem_withoutFeatures
    : feature ∈ modifier.withoutFeatures ↔ modifier.Is feature.name true := by
  simp only [withoutFeatures, Is]
  cases modifier.negated <;> simp [Feature.ofModifier?_eq_some_iff]

end Modifier

namespace Rule

variable {filter : Filter} {origin : Origin} {rule : Rule} {feature : Feature}

-----------------------------------------------------------------------------------------
-- Parts of a rule
-----------------------------------------------------------------------------------------

/-- What each modifier keeps and some bring about holds of a rule when it held before or one of
its modifiers brings it about, by induction on the modifiers.
-/
theorem ofFilter_iff (holds : Rule → Prop) {adds : Modifier → Prop}
    (step : ∀ {rule : Rule} {modifier}, rule.exception = filter.exception
      → (holds (rule.take modifier) ↔ holds rule ∨ adds modifier))
    (built : ofFilter filter origin = .ok rule)
    : holds rule ↔ holds (start filter origin) ∨ ∃ modifier ∈ filter.modifiers, adds modifier := by
  rw [(ofFilter_eq_ok_iff.mp built).2]
  -- what a modifier brings about may hang on the kind of filter, which no modifier changes
  have own : (start filter origin).exception = filter.exception := rfl
  generalize start filter origin = rule at own
  induction filter.modifiers generalizing rule with
  | nil => simp
  | cons modifier modifiers ih =>
      refine (ih (rule.take modifier) own).trans ?_
      rw [step own, List.exists_mem_cons_iff, or_assoc]

/-- A list that each modifier adds to holds what all of them add, in order. -/
theorem ofFilter_list {α : Type} (entries : Rule → List α) {adds : Modifier → List α}
    (step : ∀ rule modifier, entries (take rule modifier) = entries rule ++ adds modifier)
    (built : ofFilter filter origin = .ok rule)
    : entries rule = entries (start filter origin) ++ filter.modifiers.flatMap adds := by
  rw [(ofFilter_eq_ok_iff.mp built).2]
  generalize start filter origin = rule
  induction filter.modifiers generalizing rule with
  | nil => simp
  | cons modifier modifiers ih =>
      rw [List.foldl_cons, ih, step, List.flatMap_cons, List.append_assoc]

theorem ofFilter_sided {α : Type} (list : Rule → Sided α) {adds : Modifier → Sided α}
    (step : ∀ rule modifier, list (take rule modifier) = (list rule).append (adds modifier))
    (fresh : list (start filter origin) = {}) (built : ofFilter filter origin = .ok rule)
    (isRestricted : Bool)
    : (list rule).side isRestricted
      = filter.modifiers.flatMap fun modifier => (adds modifier).side isRestricted := by
  have all := ofFilter_list (fun rule => (list rule).side isRestricted)
    (fun rule modifier => (step rule modifier) ▸ Sided.side_append ..) built
  rw [all, fresh]
  cases isRestricted <;> rfl

/-- The last modifier that writes a value decides on it; without one it stays as it was. -/
theorem ofFilter_last {α : Type} (value : Rule → α) {writes : Modifier → Option α}
    (step : ∀ rule modifier, value (take rule modifier) = (writes modifier).getD (value rule))
    (built : ofFilter filter origin = .ok rule)
    : value rule
      = ((filter.modifiers.filterMap writes).getLast?).getD (value (start filter origin)) := by
  rw [(ofFilter_eq_ok_iff.mp built).2]
  generalize start filter origin = rule
  induction filter.modifiers generalizing rule with
  | nil => rfl
  | cons modifier modifiers ih =>
      rw [List.foldl_cons, ih, step]
      cases written : writes modifier with
      | none => rw [List.filterMap_cons_none written, Option.getD_none]
      | some own =>
          rw [List.filterMap_cons_some written, List.getLast?_cons, Option.getD_some]
          rfl

-----------------------------------------------------------------------------------------
-- Features and types
-----------------------------------------------------------------------------------------

/-- The features that are on have a modifier of their own, or are among those that an exception
for whole documents switches on.
-/
theorem ofFilter_contains_enabled_iff (built : ofFilter filter origin = .ok rule)
    : rule.enabled.contains feature = true
      ↔ filter.Has feature.name false
        ∨ feature ∈ Feature.documentParts ∧ filter.exception = true
          ∧ filter.Has ResourceType.mainFrame.modifier false := by
  have step {rule : Rule} {modifier : Modifier} (own : rule.exception = filter.exception)
      : (rule.take modifier).enabled.contains feature = true
        ↔ rule.enabled.contains feature = true ∨ feature ∈ modifier.features filter.exception := by
    simp [take, own]
  rw [ofFilter_iff (fun rule => rule.enabled.contains feature = true) step built]
  simp only [Modifier.mem_features, start, FeatureSet.contains_empty, Filter.Has]
  grind

/-- A feature that no exception for documents switches on is on by its own modifier only. -/
theorem ofFilter_contains_enabled (built : ofFilter filter origin = .ok rule)
    (plain : feature ∉ Feature.documentParts)
    : rule.enabled.contains feature = true ↔ filter.Has feature.name false := by
  simp [ofFilter_contains_enabled_iff built, plain]

theorem ofFilter_contains_disabled (built : ofFilter filter origin = .ok rule)
    : rule.disabled.contains feature = true ↔ filter.Has feature.name true := by
  have step {rule : Rule} {modifier : Modifier} (_ : rule.exception = filter.exception)
      : (rule.take modifier).disabled.contains feature = true
        ↔ rule.disabled.contains feature = true ∨ modifier.Is feature.name true := by
    simp [take, Modifier.mem_withoutFeatures]
  rw [ofFilter_iff (fun rule => rule.disabled.contains feature = true) step built]
  simp [start, Filter.Has]

/-- The types of a rule, permitted or restricted, are those its filter names. -/
theorem ofFilter_mem_types (built : ofFilter filter origin = .ok rule) (type : ResourceType)
    (negated : Bool)
    : type ∈ rule.types.side negated ↔ filter.Has type.modifier negated := by
  have step {rule : Rule} {modifier : Modifier} (_ : rule.exception = filter.exception)
      : type ∈ (rule.take modifier).types.side negated
        ↔ type ∈ rule.types.side negated ∨ modifier.Is type.modifier negated := by
    cases typed : ResourceType.ofModifier? modifier.name with
    | none =>
        have other : modifier.name ≠ type.modifier := by
          intro named
          rw [ResourceType.ofModifier?_eq_some.mpr named] at typed
          cases typed
        simp [take, typed, Modifier.Is, other]
    | some own =>
        have same : modifier.name = type.modifier ↔ own = type := by
          rw [ResourceType.ofModifier?_eq_some.mp typed, ResourceType.modifier_inj]
        simp [take, typed, Modifier.Is, same, Sided.mem_side_insert]
  have fresh : type ∉ (start filter origin).types.side negated := by
    cases negated <;> exact List.not_mem_nil
  rw [ofFilter_iff (fun rule => type ∈ rule.types.side negated) step built]
  simp [fresh, Filter.Has]

/-- A type is listed once on each side, however often it is named. -/
theorem ofFilter_nodup_types (built : ofFilter filter origin = .ok rule) (negated : Bool)
    : (rule.types.side negated).Nodup := by
  have fresh : ((start filter origin).types.side negated).Nodup := by
    cases negated <;> exact List.nodup_nil
  rw [(ofFilter_eq_ok_iff.mp built).2]
  refine List.foldlRecOn (motive := fun rule => (rule.types.side negated).Nodup)
    filter.modifiers take fresh ?_
  intro rule distinct modifier _
  cases typed : ResourceType.ofModifier? modifier.name with
  | none => simpa [take, typed] using distinct
  | some own => simpa [take, typed] using Sided.nodup_side_insert distinct

-----------------------------------------------------------------------------------------
-- The value and the header
-----------------------------------------------------------------------------------------

/-- A rule acts by the value of the last carrier of its filter. -/
theorem ofFilter_advancedValue (built : ofFilter filter origin = .ok rule)
    : rule.advancedValue = filter.carriers.getLast?.bind Modifier.value := by
  have step (rule : Rule) (modifier : Modifier)
      : (rule.take modifier).advancedValue
        = (if modifier.isCarrier then some modifier.value else none).getD rule.advancedValue := by
    cases own : modifier.isCarrier <;> simp [take, own]
  have written : filter.modifiers.filterMap
        (fun modifier => if modifier.isCarrier then some modifier.value else none)
      = filter.carriers.map Modifier.value := by
    rw [Filter.carriers, ← List.filterMap_eq_map, List.filterMap_filter]
    rfl
  rw [ofFilter_last Rule.advancedValue step built, written, List.getLast?_map]
  cases filter.carriers.getLast? <;> rfl

/-- A rule removes the header that the last of its carriers to name one names. -/
theorem ofFilter_headerRemoval (built : ofFilter filter origin = .ok rule)
    : rule.headerRemoval = (filter.carriers.filterMap Modifier.header?).getLast? := by
  have step (rule : Rule) (modifier : Modifier)
      : (rule.take modifier).headerRemoval
        = (modifier.header?.map some).getD rule.headerRemoval := by
    cases own : modifier.header? <;> simp [take, own]
  have carries (modifier : Modifier)
      : (if modifier.isCarrier then modifier.header? else none) = modifier.header? := by
    cases own : modifier.header? with
    | none => simp
    | some removal =>
        obtain ⟨⟨named, positive⟩, -⟩ := Modifier.header?_eq_some.mp own
        simp [(Modifier.isCarrier_iff named).mpr ⟨by decide, positive⟩]
  have named : filter.carriers.filterMap Modifier.header?
      = filter.modifiers.filterMap Modifier.header? := by
    simp only [Filter.carriers, List.filterMap_filter, carries]
  have written : filter.modifiers.filterMap (·.header?.map some)
      = (filter.modifiers.filterMap Modifier.header?).map some :=
    List.map_filterMap.symm
  rw [ofFilter_last Rule.headerRemoval step built, named, written, List.getLast?_map]
  cases (filter.modifiers.filterMap Modifier.header?).getLast? <;> rfl

end Rule

end Blocklist
