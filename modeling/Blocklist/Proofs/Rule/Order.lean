import Blocklist.Proofs.Alike
import Blocklist.Proofs.Rule.Modifiers
import Blocklist.Proofs.Rule.Spelling
import Mathlib.Data.List.Nodup

/-! Modifiers in another order. A rule lists what its modifiers list in their order, but which
features it has, which entries and how often does not hang on it. Its value and its header do,
unless one modifier at most can write them.
-/

namespace Blocklist

theorem Sided.perm_of_sides {α : Type} {left right : Sided α}
    (same : ∀ isRestricted, (left.side isRestricted).Perm (right.side isRestricted))
    : left.Perm right :=
  ⟨same false, same true⟩

namespace Filter

variable {filter : Filter} {modifiers : List Modifier}

theorem has_congr (reordered : filter.modifiers.Perm modifiers) (name : String) (negated : Bool)
    : filter.Has name negated ↔ Has { filter with modifiers } name negated := by
  simp only [Has, reordered.mem_iff]

/-- A single carrier has no other order. -/
theorem carriers_eq (reordered : filter.modifiers.Perm modifiers)
    (single : filter.carriers.length ≤ 1)
    : filter.carriers = carriers { filter with modifiers } := by
  have same : filter.carriers.Perm (carriers { filter with modifiers }) :=
    reordered.filter Modifier.isCarrier
  cases found : filter.carriers with
  | nil => exact (found ▸ same).nil_eq
  | cons carrier more =>
      have none : more = [] := by simpa [found] using single
      subst none
      exact List.singleton_perm.mp (found ▸ same)

end Filter

namespace Rule

/-- Two rules that differ in the order inside their lists at most, and in where they come from.
-/
structure Rearranged (rule other : Rule) : Prop extends SameSpelling rule other where
  features : rule.enabled = other.enabled
  header : rule.headerRemoval = other.headerRemoval

variable {filter : Filter} {modifiers : List Modifier} {origin place : Origin} {rule other : Rule}

theorem sided_perm {α : Type} (list : Rule → Sided α) {adds : Modifier → Sided α}
    (step : ∀ rule modifier, list (take rule modifier) = (list rule).append (adds modifier))
    (fresh : ∀ filter origin, list (start filter origin) = {})
    (reordered : filter.modifiers.Perm modifiers) (built : ofFilter filter origin = .ok rule)
    (built' : ofFilter { filter with modifiers } place = .ok other)
    : (list rule).Perm (list other) := by
  refine Sided.perm_of_sides fun isRestricted => ?_
  rw [ofFilter_sided list step (fresh _ _) built, ofFilter_sided list step (fresh _ _) built']
  exact reordered.flatMap_right _

/-- Each part of a rule is that of the other one, by what it owes to the modifiers. -/
theorem rearranged_of_reordered (reordered : filter.modifiers.Perm modifiers)
    (single : filter.carriers.length ≤ 1) (built : ofFilter filter origin = .ok rule)
    (built' : ofFilter { filter with modifiers } place = .ok other)
    : Rearranged rule other := by
  have same := ofFilter_sameFilter built
  have same' := ofFilter_sameFilter built'
  have carriers := Filter.carriers_eq reordered single
  have features : rule.enabled = other.enabled := by
    refine FeatureSet.ext_contains fun feature => ?_
    rw [Bool.eq_iff_iff, ofFilter_contains_enabled_iff built, ofFilter_contains_enabled_iff built',
      Filter.has_congr reordered, Filter.has_congr reordered]
  exact {
    pattern := same.pattern.trans same'.pattern.symm
    exception := same.exception.trans same'.exception.symm
    features
    enabled := fun feature _ => congrArg (·.contains feature) features
    disabled := by
      refine FeatureSet.ext_contains fun feature => ?_
      rw [Bool.eq_iff_iff, ofFilter_contains_disabled built, ofFilter_contains_disabled built',
        Filter.has_congr reordered]
    advancedValue := by
      rw [ofFilter_advancedValue built, ofFilter_advancedValue built', carriers]
    header := by
      rw [ofFilter_headerRemoval built, ofFilter_headerRemoval built', carriers]
    domains := sided_perm domains (fun _ _ => rfl) (fun _ _ => rfl) reordered built built'
    targets := sided_perm targets (fun _ _ => rfl) (fun _ _ => rfl) reordered built built'
    methods := sided_perm methods (fun _ _ => rfl) (fun _ _ => rfl) reordered built built'
    denyallow := by
      rw [ofFilter_list denyallow (fun _ _ => rfl) built,
        ofFilter_list denyallow (fun _ _ => rfl) built']
      exact reordered.flatMap_right _
    types := by
      -- which of two mentions of a type is kept hangs on the order, that one is kept does not
      refine Sided.perm_of_sides fun negated => ?_
      rw [List.perm_ext_iff_of_nodup (ofFilter_nodup_types built negated)
        (ofFilter_nodup_types built' negated)]
      intro type
      rw [ofFilter_mem_types built, ofFilter_mem_types built', Filter.has_congr reordered]
  }

/-- A filter and the same one with its modifiers in another order both make a rule or neither
does, and the rules differ in the order inside lists at most.
-/
theorem ofFilter_reordered (reordered : filter.modifiers.Perm modifiers)
    (single : filter.carriers.length ≤ 1) (origin place : Origin)
    : AlikeInSuccess Rearranged (ofFilter filter origin)
        (ofFilter { filter with modifiers } place) := by
  by_cases usable : ∀ modifier ∈ filter.modifiers, modifier.IsUsable
  · have usable' : ∀ modifier ∈ modifiers, modifier.IsUsable :=
      fun modifier listed => usable modifier (reordered.mem_iff.mpr listed)
    have built : ofFilter filter origin = .ok _ := ofFilter_eq_ok_iff.mpr ⟨usable, rfl⟩
    have built' : ofFilter { filter with modifiers } place = .ok _ :=
      ofFilter_eq_ok_iff.mpr ⟨usable', rfl⟩
    rw [built, built']
    exact .ok (rearranged_of_reordered reordered single built built')
  · cases built : ofFilter filter origin with
    | ok rule => exact absurd (ofFilter_eq_ok_iff.mp built).1 usable
    | error fault =>
        cases built' : ofFilter { filter with modifiers } place with
        | ok other =>
            have usable' := (ofFilter_eq_ok_iff.mp built').1
            exact absurd
              (fun modifier listed => usable' modifier (reordered.mem_iff.mp listed)) usable
        | error fault' => exact .error trivial

end Rule

end Blocklist
