import Blocklist.Proofs.Conversion.Ids
import Blocklist.Proofs.Scan

/-! Accounts of a run. Every rule that is left to convert ends in one place: in the source
map, in a limitation, or in a rejection; and no rejection is lost or moved by the quotas.
-/

namespace Blocklist.Conversion

open Declarative

theorem Outcome.rejection?_isSome (outcome : Outcome)
    : outcome.rejection?.isSome = !outcome.record?.isSome := by
  obtain ⟨rule, result⟩ := outcome
  cases result <;> rfl

/-- The id that a rejection is bound to was taken for its rule. -/
theorem Outcome.id?_of_rejection {outcome : Outcome} {rejection : Rejection} {id : UInt32}
    (rejected : outcome.rejection? = some rejection) (bound : rejection.recordId? = some id)
    : outcome.id? = some id ∧ outcome.record? = none := by
  obtain ⟨rule, result⟩ := outcome
  cases result with
  | ok record => cases rejected
  | error other =>
      obtain rfl := Option.some.inj rejected
      exact ⟨bound, rfl⟩

theorem Outcome.id?_of_record {outcome : Outcome} {record : Record}
    (accepted : outcome.record? = some record)
    : outcome.id? = some record.id := by
  obtain ⟨rule, result⟩ := outcome
  cases result with
  | ok other =>
      obtain rfl := Option.some.inj accepted
      rfl
  | error rejection => cases accepted

/-- A rejection of a series is bound to no record of a faithful batch. Witness: its id was
taken for a rejected rule, the id of a record for an accepted one, and no id is taken twice.
-/
theorem Faithful.unbound {env : Environment} {pool final : IdPool} {rules : List Rule}
    {outcomes : List Outcome} {batch : Batch} (faithful : Faithful outcomes batch)
    (series : Conversions env pool rules outcomes final) {rejection : Rejection}
    (member : rejection ∈ outcomes.filterMap Outcome.rejection?)
    : Quota.isBound batch.records rejection = false := by
  obtain ⟨refused, known, rejected⟩ := List.mem_filterMap.mp member
  cases bound : rejection.recordId? with
  | none => simp [Quota.isBound, bound]
  | some id =>
      obtain ⟨taken, unaccepted⟩ := Outcome.id?_of_rejection rejected bound
      simp only [Quota.isBound, bound, Option.any_some, List.any_eq_false, beq_iff_eq]
      intro record listed same
      have used := faithful.ids.subset (List.mem_map_of_mem listed)
      obtain ⟨own, inside, link⟩ := List.mem_map.mp used
      obtain ⟨outcome, held, accepted⟩ := List.mem_filterMap.mp inside
      have again : outcome.id? = some id := by
        rw [Outcome.id?_of_record accepted, link, same]
      have equal := eq_of_filterMap_nodup series.ids.1 known held taken again
      rw [equal, accepted] at unaccepted
      cases unaccepted

/-- Rejections that are bound to no record, or come from the series, are bound to no record of
a faithful batch.
-/
theorem Faithful.all_unbound {env : Environment} {pool final : IdPool} {rules : List Rule}
    {outcomes : List Outcome} {batch : Batch} (faithful : Faithful outcomes batch)
    (series : Conversions env pool rules outcomes final) {rejections : List Rejection}
    (known : ∀ rejection ∈ rejections, rejection.recordId? = none
      ∨ rejection ∈ outcomes.filterMap Outcome.rejection?)
    : ∀ rejection ∈ rejections, Quota.isBound batch.records rejection = false := by
  intro rejection member
  rcases known rejection member with unbound | refused
  · simp [Quota.isBound, unbound]
  · exact faithful.unbound series refused

theorem scanned_unbound {sources : List UnitText} {units : List ScannedUnit}
    (scanned : units = sources.map UnitText.scan)
    : ∀ unit ∈ units, ∀ rejection ∈ unit.rejections, rejection.recordId? = none := by
  intro unit member rejection listed
  rw [scanned] at member
  obtain ⟨source, -, rfl⟩ := List.mem_map.mp member
  exact ScannedUnit.scan_rejections listed

/-- The rejections of scanned units are bound to no record, or come from their outcomes. -/
theorem allRejections_known {units : List ScannedUnit} {outcomes : List (List Outcome)}
    (scanned : ∀ unit ∈ units, ∀ rejection ∈ unit.rejections, rejection.recordId? = none)
    {rejection : Rejection} (member : rejection ∈ allRejections units outcomes)
    : rejection.recordId? = none
      ∨ rejection ∈ outcomes.flatten.filterMap Outcome.rejection? := by
  obtain ⟨⟨unit, own⟩, paired, listed⟩ := List.mem_flatMap.mp member
  obtain ⟨known, share⟩ := List.of_mem_zip paired
  rcases List.mem_append.mp listed with early | refused
  · exact Or.inl (scanned unit known rejection early)
  · obtain ⟨outcome, inside, rejected⟩ := List.mem_filterMap.mp refused
    exact Or.inr (List.mem_filterMap.mpr
      ⟨outcome, List.mem_flatten.mpr ⟨own, share, inside⟩, rejected⟩)

/-- The rejections of outcomes that are shared out among units are among all rejections. -/
theorem refused_sublist_allRejections {units : List ScannedUnit} {outcomes : List (List Outcome)}
    (paired : units.length = outcomes.length)
    : (outcomes.flatten.filterMap Outcome.rejection?).Sublist (allRejections units outcomes) := by
  induction outcomes generalizing units with
  | nil => exact List.nil_sublist _
  | cons own outcomes ih =>
      obtain ⟨unit, later, rfl⟩ := List.exists_cons_of_length_eq_add_one paired
      rw [List.flatten_cons, List.filterMap_append, allRejections, List.zip_cons_cons,
        List.flatMap_cons]
      exact (List.sublist_append_right _ _).append (ih (Nat.succ.inj paired))

section

variable {env : Environment} {pool final : IdPool} {units : List ScannedUnit}
  {output : Output} {outcomes : List (List Outcome)} {batch : Batch}

/-- No rejection of scanned units is bound to a record that is left. -/
theorem Produced.unbound (produced : Produced env pool units output final outcomes batch)
    (scanned : ∀ unit ∈ units, ∀ rejection ∈ unit.rejections, rejection.recordId? = none)
    : ∀ rejection ∈ batch.rejections, Quota.isBound batch.records rejection = false := by
  apply produced.faithful.all_unbound produced.series
  rw [produced.rejections]
  exact fun rejection => allRejections_known scanned

/-- The quotas change no rejection of scanned units. -/
theorem Produced.rejections_eq (produced : Produced env pool units output final outcomes batch)
    (scanned : ∀ unit ∈ units, ∀ rejection ∈ unit.rejections, rejection.recordId? = none)
    : output.rejections = allRejections units outcomes := by
  have distinct := produced.faithful.distinct produced.series
  rw [produced.output, ← produced.rejections]
  exact Quota.apply_rejections _ _ distinct (produced.unbound scanned)

/-- The rejections of the outcomes come through the quotas, whatever the units brought along. -/
theorem Produced.refused_sublist (produced : Produced env pool units output final outcomes batch)
    : (outcomes.flatten.filterMap Outcome.rejection?).Sublist output.rejections := by
  have distinct := produced.faithful.distinct produced.series
  have paired : units.length = outcomes.length := by
    simpa using (congrArg List.length produced.shares).symm
  have listed := refused_sublist_allRejections paired
  have unbound : (outcomes.flatten.filterMap Outcome.rejection?).filter
        (!Quota.isBound batch.records ·)
      = outcomes.flatten.filterMap Outcome.rejection? := by
    rw [List.filter_eq_self]
    intro rejection member
    rw [produced.faithful.unbound produced.series member, Bool.not_false]
  rw [← produced.rejections] at listed
  rw [produced.output, Quota.apply_rejections_eq _ _ _ distinct, ← unbound]
  exact (listed.filter _).trans (List.sublist_append_right _ _)

/-- What is left of the source map and what was excluded name the places of all accepted
rules.
-/
theorem Produced.accepted_perm (produced : Produced env pool units output final outcomes batch)
    : (output.sources.map SourceEntry.place
        ++ (output.limitations.flatMap Limitation.excluded).map SourceEntry.place).Perm
        ((outcomes.flatten.filter (·.record?.isSome)).map Outcome.place) := by
  have distinct := produced.faithful.distinct produced.series
  have parted := ofRecord_perm distinct fun entry member => by
    obtain ⟨record, listed, link, -⟩ := produced.faithful.traced entry member
    exact ⟨record, listed, link⟩
  rw [← List.map_append, produced.output]
  have account := Quota.apply_account env.settings batch.sources batch.rejections distinct
  exact ((account.trans parted).map SourceEntry.place).trans produced.faithful.places

/-- The rules that are left to convert stand where the outcomes of a run stand. -/
theorem Produced.places (produced : Produced env pool units output final outcomes batch)
    : ((units.flatMap fun unit => Rule.uncancelled (pooledNegations units) unit.rules).map
        Rule.place).Perm (outcomes.flatten.map Outcome.place) := by
  have queued := List.Perm.flatMap_left units fun unit _ =>
    queue_perm (pooledNegations units) unit
  have listed : outcomes.flatten.map Outcome.place
      = (units.flatMap (queue (pooledNegations units))).map Rule.place := by
    rw [← produced.series.rules_eq, List.map_map]
    rfl
  rw [listed]
  exact (queued.map Rule.place).symm

end

/-- Accounts of a run over scanned units. The rules that are neither in the badfilter group
nor negated stand exactly where the source map, the excluded entries and the rejected rules
point, each as often. The rejections are, unit by unit, those of the scan and then those of
the conversions, in the order of groups and rules.
-/
theorem run_accounts_for_every_rule {env : Environment} {pool final : IdPool}
    {sources : List UnitText} {units : List ScannedUnit} {output : Output}
    (scanned : units = sources.map UnitText.scan)
    (done : run env pool units = (.ok output, final))
    : ∃ outcomes : List (List Outcome),
        outcomes.map (·.map Outcome.rule) = units.map (queue (pooledNegations units))
        ∧ Conversions env pool (units.flatMap (queue (pooledNegations units)))
            outcomes.flatten final
        ∧ output.rejections
          = (units.zip outcomes).flatMap (fun (unit, own) =>
              unit.rejections ++ own.filterMap Outcome.rejection?)
        ∧ (((units.flatMap ScannedUnit.rules).filter fun rule =>
              rule.group ≠ .badfilter
              ∧ ∀ negation ∈ pooledNegations units, ¬negation.negates rule).map
            Rule.place).Perm
          (output.sources.map SourceEntry.place
            ++ (output.limitations.flatMap Limitation.excluded).map SourceEntry.place
            ++ (outcomes.flatten.filter (·.rejection?.isSome)).map Outcome.place) := by
  obtain ⟨outcomes, batch, produced⟩ := run_eq_ok done
  refine ⟨outcomes, produced.shares, produced.series, produced.rejections_eq ?_, ?_⟩
  · intro unit member rejection listed
    rw [scanned] at member
    obtain ⟨source, -, rfl⟩ := List.mem_map.mp member
    exact ScannedUnit.scan_rejections listed
  · have left : ((units.flatMap ScannedUnit.rules).filter fun rule =>
          rule.group ≠ .badfilter
          ∧ ∀ negation ∈ pooledNegations units, ¬negation.negates rule)
        = units.flatMap fun unit => Rule.uncancelled (pooledNegations units) unit.rules := by
      rw [List.filter_flatMap]
      apply List.flatMap_congr
      intro unit _
      apply List.filter_congr
      intro rule _
      rw [Bool.eq_iff_iff]
      simp [Rule.isNegatedBy]
    have parts := (List.filter_append_perm (fun outcome : Outcome => outcome.record?.isSome)
      outcomes.flatten).symm.map Outcome.place
    simp only [← Outcome.rejection?_isSome, List.map_append] at parts
    rw [left]
    exact (produced.places.trans parts).trans
      (produced.accepted_perm.symm.append_right _)

/-- An engine with room for one record. -/
def roomForOne : Environment :=
  ⟨{ maxRules := some 1 }, fun _ _ => none, fun name => .ok name, fun _ => none⟩

/-- Rules of every fate: merged, over the quota, rejected by the scan, rejected by the
conversion, negated in another unit, and a negation.
-/
def rulesOfEveryFate : List UnitText :=
  [⟨0, "||a^$removeparam=x\n||b^\n||c^$domain=*.d\n||e^$from=\n||a^$removeparam=y", none,
      fun _ => true⟩,
    ⟨1, "||b^$badfilter\n||f^\n||g^", none, fun _ => true⟩]

/-- Two rules in one record, two over the quota and one rejected are five, and the scan
rejects one more line.
-/
theorem run_accounts_for_every_rule_of_every_fate
    : ∃ units output final,
        units = rulesOfEveryFate.map UnitText.scan
        ∧ run roomForOne .empty units = (.ok output, final)
        ∧ output.sources.map SourceEntry.place = [(0, 0), (0, 51)]
        ∧ (output.limitations.flatMap Limitation.excluded).map SourceEntry.place
            = [(1, 15), (1, 20)]
        ∧ ∃ outcomes : List (List Outcome),
            outcomes.map (·.map Outcome.rule) = units.map (queue (pooledNegations units))
            ∧ Conversions roomForOne .empty (units.flatMap (queue (pooledNegations units)))
                outcomes.flatten final
            ∧ output.rejections
              = (units.zip outcomes).flatMap (fun (unit, own) =>
                  unit.rejections ++ own.filterMap Outcome.rejection?)
            ∧ (((units.flatMap ScannedUnit.rules).filter fun rule =>
                  rule.group ≠ .badfilter
                  ∧ ∀ negation ∈ pooledNegations units, ¬negation.negates rule).map
                Rule.place).Perm
              ([(0, 0), (0, 51)] ++ [(1, 15), (1, 20)]
                ++ (outcomes.flatten.filter (·.rejection?.isSome)).map Outcome.place) := by
  have ends : (run roomForOne .empty (rulesOfEveryFate.map UnitText.scan)).1.toOption.map
        (fun output => (output.sources.map SourceEntry.place,
          (output.limitations.flatMap Limitation.excluded).map SourceEntry.place))
      = some ([(0, 0), (0, 51)], [(1, 15), (1, 20)]) := by
    decide +kernel
  cases reached : run roomForOne .empty (rulesOfEveryFate.map UnitText.scan) with
  | mk result final =>
      rw [reached] at ends
      cases result with
      | error fault => cases ends
      | ok output =>
          obtain ⟨sources, excluded⟩ := Prod.mk.inj (Option.some.inj ends)
          obtain ⟨outcomes, shares, series, rejections, account⟩ :=
            run_accounts_for_every_rule rfl reached
          rw [sources, excluded] at account
          exact ⟨_, output, final, rfl, reached, sources, excluded, outcomes, shares, series,
            rejections, account⟩

end Blocklist.Conversion
