import Blocklist.Proofs.Feature
import Blocklist.Rule.Negation
import Mathlib.Data.List.Perm.Basic

/-! What a rule spells out: its pattern, its features and the entries of its lists. Badfilter
rules cancel the rules that spell out the same, whatever the order inside lists.
-/

namespace Blocklist

/-- The same entries on each side of two lists, as often and in any order. -/
structure Sided.Perm {α : Type} (left right : Sided α) : Prop where
  permitted : left.permitted.Perm right.permitted
  restricted : left.restricted.Perm right.restricted

namespace Sided

variable {α : Type} {left right : Sided α}

theorem Perm.refl (list : Sided α) : list.Perm list :=
  ⟨.rfl, .rfl⟩

theorem Perm.symm (same : left.Perm right) : right.Perm left :=
  ⟨same.permitted.symm, same.restricted.symm⟩

theorem Perm.append {more others : Sided α} (first : left.Perm right)
    (second : more.Perm others)
    : (left.append more).Perm (right.append others) :=
  ⟨first.permitted.append second.permitted, first.restricted.append second.restricted⟩

theorem insert_perm [DecidableEq α] (same : left.Perm right) (isRestricted : Bool) (entry : α)
    : (left.insert isRestricted entry).Perm (right.insert isRestricted entry) := by
  have added {side other : List α} (sides : side.Perm other)
      : (if entry ∈ side then side else side ++ [entry]).Perm
          (if entry ∈ other then other else other ++ [entry]) := by
    simp only [sides.mem_iff]
    split
    · exact sides
    · exact sides.append_right _
  cases isRestricted with
  | true => exact ⟨same.permitted, added same.restricted⟩
  | false => exact ⟨added same.permitted, same.restricted⟩

theorem ofMarked_perm {entries others : List (Bool × α)} (same : entries.Perm others)
    : (ofMarked entries).Perm (ofMarked others) :=
  ⟨(same.filter _).map _, (same.filter _).map _⟩

theorem sameEntries_iff [BEq α] [LawfulBEq α]
    : left.sameEntries right = true ↔ left.Perm right := by
  simp only [sameEntries, Bool.and_eq_true, List.isPerm_iff]
  exact ⟨fun same => ⟨same.1, same.2⟩, fun same => ⟨same.permitted, same.restricted⟩⟩

end Sided

namespace Rule

/-- Two rules spell out the same, up to the order inside lists and up to badfilter. The header
that a rule removes is not among what is compared.
-/
structure SameSpelling (rule other : Rule) : Prop where
  pattern : rule.pattern = other.pattern
  exception : rule.exception = other.exception
  enabled : ∀ feature, feature ≠ .badfilter
    → rule.enabled.contains feature = other.enabled.contains feature
  disabled : rule.disabled = other.disabled
  advancedValue : rule.advancedValue = other.advancedValue
  domains : rule.domains.Perm other.domains
  targets : rule.targets.Perm other.targets
  denyallow : rule.denyallow.Perm other.denyallow
  types : rule.types.Perm other.types
  methods : rule.methods.Perm other.methods

theorem SameSpelling.symm {rule other : Rule} (same : rule.SameSpelling other)
    : other.SameSpelling rule where
  pattern := same.pattern.symm
  exception := same.exception.symm
  enabled := fun feature differs => (same.enabled feature differs).symm
  disabled := same.disabled.symm
  advancedValue := same.advancedValue.symm
  domains := same.domains.symm
  targets := same.targets.symm
  denyallow := same.denyallow.symm
  types := same.types.symm
  methods := same.methods.symm

/-- A rule cancels another one when it alone is a badfilter rule and both spell out the same.
-/
theorem negates_iff {negation rule : Rule}
    : negation.negates rule = true
      ↔ negation.isBadfilter = true ∧ rule.isBadfilter = false
        ∧ negation.SameSpelling rule := by
  simp only [negates, Bool.and_eq_true, beq_iff_eq, Bool.not_eq_true', List.isPerm_iff,
    Sided.sameEntries_iff, and_assoc]
  constructor
  · intro ⟨bad, plain, pattern, exception, enabled, disabled, value, domains, targets, denyallow,
      types, methods⟩
    exact ⟨bad, plain, pattern, exception, (FeatureSet.erase_eq_iff plain).mp enabled, disabled,
      value, domains, targets, denyallow, types, methods⟩
  · intro ⟨bad, plain, same⟩
    exact ⟨bad, plain, same.pattern, same.exception,
      (FeatureSet.erase_eq_iff plain).mpr same.enabled, same.disabled, same.advancedValue,
      same.domains, same.targets, same.denyallow, same.types, same.methods⟩

end Rule

end Blocklist
