import Blocklist.Proofs.Conversion.Increments

/-! What becomes of badfilter rules. Those of the badfilter group are consumed: they cancel
other rules and leave no trace of their own. One that also removes parameters or headers or
adds a policy is in the group of that feature, nothing cancels it, and it is converted.
-/

namespace Blocklist

/-- Features whose groups a badfilter rule falls into before its own. -/
def Group.claimingFeatures : List Feature := [.removeparam, .removeheader, .csp]

/-- A badfilter rule is in the badfilter group unless another feature claims it first. -/
theorem Rule.group_eq_badfilter_iff (rule : Rule)
    : rule.group = .badfilter
      ↔ rule.isBadfilter = true ∧ rule.enabled.meets Group.claimingFeatures = false := by
  simp only [group, Group.precedence, isBadfilter, FeatureSet.meets, Group.claimingFeatures,
    List.find?_cons, List.find?_nil, List.any_cons, List.any_nil]
  cases rule.enabled.contains .removeparam <;> cases rule.enabled.contains .removeheader <;>
    cases rule.enabled.contains .csp <;> cases rule.enabled.contains .badfilter <;> decide

/-- Badfilter rules are not cancelled themselves. -/
theorem Rule.isNegatedBy_of_isBadfilter {rule : Rule} (bad : rule.isBadfilter = true)
    (negations : List Rule)
    : rule.isNegatedBy negations = false := by
  simp [isNegatedBy, negates, bad]

namespace ScannedUnit

/-- The unit without its badfilter rules; what they cancel is kept in mind. -/
def withoutBadfilters (unit : ScannedUnit) : ScannedUnit :=
  { unit with rules := unit.rules.filter (!·.isBadfilter) }

/-- The unit without the badfilter rules that no other feature claims. -/
def withoutConsumed (unit : ScannedUnit) : ScannedUnit :=
  { unit with
    rules := unit.rules.filter fun rule =>
      !(rule.isBadfilter && !rule.enabled.meets Group.claimingFeatures) }

theorem uncancelled_withoutConsumed (negations : List Rule) (unit : ScannedUnit)
    : Rule.uncancelled negations unit.withoutConsumed.rules
      = Rule.uncancelled negations unit.rules := by
  rw [Rule.uncancelled, Rule.uncancelled, withoutConsumed, List.filter_filter]
  apply List.filter_congr
  intro rule _
  by_cases consumed : rule.group = .badfilter
  · simp [consumed]
  · have claimed := mt rule.group_eq_badfilter_iff.mpr consumed
    have kept : (rule.isBadfilter && !rule.enabled.meets Group.claimingFeatures) = false := by
      simpa using claimed
    rw [kept, Bool.not_false, Bool.and_true]

end ScannedUnit

namespace Conversion

open Declarative

/-- The badfilter rules in the queue of a unit are those that another feature claims. -/
theorem queue_badfilters (negations : List Rule) (unit : ScannedUnit)
    : ((queue negations unit).filter Rule.isBadfilter).Perm
        (unit.rules.filter fun rule =>
          rule.isBadfilter && rule.enabled.meets Group.claimingFeatures) := by
  refine ((queue_perm negations unit).filter Rule.isBadfilter).trans (.of_eq ?_)
  rw [Rule.uncancelled, List.filter_filter]
  apply List.filter_congr
  intro rule _
  cases bad : rule.isBadfilter with
  | false => rfl
  | true =>
      have claimed : (rule.group != .badfilter) = rule.enabled.meets Group.claimingFeatures := by
        rw [Bool.eq_iff_iff, bne_iff_ne, Ne, rule.group_eq_badfilter_iff]
        simp [bad]
      simp [claimed, Rule.isNegatedBy_of_isBadfilter bad]

/-- Units count by what is left to convert of them. -/
theorem convertUnits_map (change : ScannedUnit → ScannedUnit) {negations : List Rule}
    (rejections : ∀ unit, (change unit).rejections = unit.rejections)
    (left : ∀ unit, Rule.uncancelled negations (change unit).rules
      = Rule.uncancelled negations unit.rules)
    (env : Environment) (pool : IdPool) (units : List ScannedUnit)
    : convertUnits env negations pool (units.map change)
      = convertUnits env negations pool units := by
  induction units generalizing pool with
  | nil => rfl
  | cons unit units ih =>
      have first : convertUnit env negations pool (change unit)
          = convertUnit env negations pool unit := by
        simp only [convertUnit, rejections, left]
      simp only [List.map_cons, convertUnits, first, ih]

/-- Nothing of a run depends on the badfilter rules that no other feature claims. -/
theorem run_withoutConsumed (env : Environment) (pool : IdPool) (units : List ScannedUnit)
    : run env pool (units.map ScannedUnit.withoutConsumed) = run env pool units := by
  have negations : pooledNegations (units.map ScannedUnit.withoutConsumed)
      = pooledNegations units := by
    rw [pooledNegations, pooledNegations, List.flatMap_map]
    rfl
  have left := ScannedUnit.uncancelled_withoutConsumed (pooledNegations units)
  have converted :=
    convertUnits_map ScannedUnit.withoutConsumed (fun _ => rfl) left env pool units
  simp only [run, negations, converted]

/-- Badfilter rules that no other feature claims are consumed: a run over units without them
has the same result and leaves the same pool. The other badfilter rules are converted, and
they alone: of the rules of a run that have an outcome, these are the badfilter rules. The
source map and the excluded entries stand where the accepted rules do, and the rejections of
the others are reported.
-/
theorem run_unchanged_without_consumed_badfilters (env : Environment) (pool : IdPool)
    (units : List ScannedUnit)
    : run env pool (units.map ScannedUnit.withoutConsumed) = run env pool units
      ∧ ∀ output final, run env pool units = (.ok output, final)
        → ∃ outcomes : List Outcome,
          Conversions env pool (outcomes.map Outcome.rule) outcomes final
          ∧ (output.sources.map SourceEntry.place
              ++ (output.limitations.flatMap Limitation.excluded).map SourceEntry.place).Perm
            ((outcomes.filter (·.record?.isSome)).map Outcome.place)
          ∧ (outcomes.filterMap Outcome.rejection?).Sublist output.rejections
          ∧ ((outcomes.map Outcome.rule).filter Rule.isBadfilter).Perm
            ((units.flatMap ScannedUnit.rules).filter fun rule =>
              rule.isBadfilter && rule.enabled.meets [.removeparam, .removeheader, .csp]) := by
  refine ⟨run_withoutConsumed env pool units, ?_⟩
  intro output final done
  obtain ⟨outcomes, batch, produced⟩ := run_eq_ok done
  refine ⟨outcomes.flatten, ?_, produced.accepted_perm, produced.refused_sublist, ?_⟩
  · rw [produced.series.rules_eq]
    exact produced.series
  · rw [produced.series.rules_eq, List.filter_flatMap, List.filter_flatMap]
    exact List.Perm.flatMap_left units fun unit _ => queue_badfilters _ unit

/-- A rule with its badfilter rule, and a badfilter rule that adds a policy. -/
def badfiltersOfTwoGroups : UnitText :=
  ⟨0, "||b^\n||b^$badfilter\n||a^$csp=x,badfilter", none, fun _ => true⟩

/-- The badfilter rule without another feature can go. The other one is converted, and the
policy of the output stands where its line does.
-/
theorem run_unchanged_without_one_of_two_badfilters
    : ∃ unit output final, unit = badfiltersOfTwoGroups.scan
        ∧ unit.rules.map Rule.text = ["||b^", "||b^$badfilter", "||a^$csp=x,badfilter"]
        ∧ unit.withoutConsumed.rules.map Rule.text = ["||b^", "||a^$csp=x,badfilter"]
        ∧ run unlimited .empty [unit.withoutConsumed] = run unlimited .empty [unit]
        ∧ run unlimited .empty [unit] = (.ok output, final)
        ∧ output.sources.map SourceEntry.place = [(0, 20)]
        ∧ ∃ outcomes : List Outcome,
            Conversions unlimited .empty (outcomes.map Outcome.rule) outcomes final
            ∧ (outcomes.filter (·.record?.isSome)).map Outcome.place = [(0, 20)]
            ∧ ((outcomes.map Outcome.rule).filter Rule.isBadfilter).map Rule.text
              = ["||a^$csp=x,badfilter"] := by
  obtain ⟨output, final, done, placed⟩ := exists_output (show
      (run unlimited .empty [badfiltersOfTwoGroups.scan]).1.toOption.map (fun output =>
        (output.sources.map SourceEntry.place,
          (output.limitations.flatMap Limitation.excluded).map SourceEntry.place))
      = some ([(0, 20)], []) by decide +kernel)
  obtain ⟨sources, excluded⟩ := Prod.mk.inj placed
  obtain ⟨same, converted⟩ :=
    run_unchanged_without_consumed_badfilters unlimited .empty [badfiltersOfTwoGroups.scan]
  obtain ⟨outcomes, series, accepted, -, badfilters⟩ := converted output final done
  rw [sources, excluded] at accepted
  have claimed : (([badfiltersOfTwoGroups.scan].flatMap ScannedUnit.rules).filter fun rule =>
      rule.isBadfilter && rule.enabled.meets [.removeparam, .removeheader, .csp]).map Rule.text
      = ["||a^$csp=x,badfilter"] := by decide +kernel
  have texts := badfilters.map Rule.text
  rw [claimed] at texts
  exact ⟨_, output, final, rfl, by decide +kernel, by decide +kernel, same, done, sources,
    outcomes, series, List.perm_singleton.mp accepted.symm, List.perm_singleton.mp texts⟩

/-- A rule that removes a parameter, and the badfilter rule that cancels it. -/
def cancelledRemoval : UnitText :=
  ⟨0, "||a^$removeparam=x\n||a^$removeparam=x,badfilter", none, fun _ => true⟩

/-- The badfilter rule takes the place of the rule it cancels: its own line removes the
parameter. Without it nothing is left.
-/
theorem run_changed_without_badfilter_of_other_group
    : unlimited.settings.fault? = none
      ∧ (run unlimited .empty [cancelledRemoval.scan]).1.toOption.map (fun output =>
          (output.records.map Record.action, output.sources.map SourceEntry.place))
        = some ([.redirect
            { transform := some { queryTransform := some { removeParams := some ["x"] } } }],
            [(0, 19)])
      ∧ (run unlimited .empty ([cancelledRemoval.scan].map
          ScannedUnit.withoutBadfilters)).1.toOption.map Output.records = some []
      ∧ run unlimited .empty ([cancelledRemoval.scan].map ScannedUnit.withoutBadfilters)
        ≠ run unlimited .empty [cancelledRemoval.scan] := by
  have kept : (run unlimited .empty [cancelledRemoval.scan]).1.toOption.map (fun output =>
        (output.records.map Record.action, output.sources.map SourceEntry.place))
      = some ([.redirect
          { transform := some { queryTransform := some { removeParams := some ["x"] } } }],
          [(0, 19)]) := by decide +kernel
  have gone : (run unlimited .empty ([cancelledRemoval.scan].map
      ScannedUnit.withoutBadfilters)).1.toOption.map Output.records = some [] := by decide +kernel
  refine ⟨rfl, kept, gone, fun same => ?_⟩
  rw [same] at gone
  obtain ⟨output, listed, empty⟩ := Option.map_eq_some_iff.mp gone
  rw [listed, Option.map_some, empty] at kept
  cases kept

end Conversion

end Blocklist
