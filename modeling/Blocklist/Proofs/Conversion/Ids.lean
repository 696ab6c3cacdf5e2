import Blocklist.Proofs.Conversion.Units
import Blocklist.Proofs.Quota.Apply

/-! Ids of a whole run. A run with valid settings gives an output unless some text leads to
no free id; the ids of the output are new, distinct, in range, and covered by its source map.
-/

namespace Blocklist.Conversion

open Declarative

/-- Ids pass the check after `seen` when they are in range, distinct, and not seen before. -/
theorem idFaultAfter?_eq_none (seen : List UInt32) (records : List Record)
    : idFaultAfter? seen records = none
      ↔ (∀ record ∈ records, record.hasValidId) ∧ (records.map Record.id).Nodup
        ∧ ∀ record ∈ records, record.id ∉ seen := by
  induction records generalizing seen with
  | nil => simp [idFaultAfter?]
  | cons record records ih =>
      rw [idFaultAfter?]
      split
      · rename_i invalid
        simp_all
      · split
        · rename_i valid known
          simp_all
        · rename_i valid fresh
          have inRange : record.hasValidId = true := by simpa using valid
          have unseen : record.id ∉ seen := by simpa using fresh
          rw [ih]
          simp only [List.mem_cons, not_or, forall_eq_or_imp, List.map_cons, List.nodup_cons,
            List.mem_map, not_exists, not_and, inRange, unseen, not_false_eq_true, true_and]
          constructor
          · rintro ⟨range, distinct, apart⟩
            exact ⟨range, ⟨fun other member => (apart other member).1, distinct⟩,
              fun other member => (apart other member).2⟩
          · rintro ⟨range, ⟨own, distinct⟩, apart⟩
            exact ⟨range, distinct, fun other member => ⟨own other member, apart other member⟩⟩

theorem idFault?_eq_none {records : List Record}
    : idFault? records = none
      ↔ (∀ record ∈ records, record.hasValidId) ∧ (records.map Record.id).Nodup := by
  simp [idFault?, idFaultAfter?_eq_none]

-----------------------------------------------------------------------------------------
-- Ids of a faithful batch
-----------------------------------------------------------------------------------------

section

variable {env : Environment} {pool final : IdPool} {rules : List Rule}
  {outcomes : List Outcome} {batch : Batch}

theorem Faithful.distinct (faithful : Faithful outcomes batch)
    (series : Conversions env pool rules outcomes final)
    : (batch.records.map Record.id).Nodup :=
  series.distinct.sublist faithful.ids

/-- The ids of a faithful batch are in range, were free before the series, and are taken
after it.
-/
theorem Faithful.fresh (faithful : Faithful outcomes batch)
    (series : Conversions env pool rules outcomes final) {record : Record}
    (member : record ∈ batch.records)
    : minId ≤ record.id ∧ record.id ≤ maxId ∧ record.id ∉ pool.taken
      ∧ record.id ∈ final.taken := by
  have used : record.id ∈ outcomes.filterMap Outcome.id? :=
    (accepted_ids_sublist outcomes).subset (faithful.ids.subset (List.mem_map_of_mem member))
  obtain ⟨least, greatest, free⟩ := series.ids.2 record.id used
  refine ⟨least, greatest, free, ?_⟩
  rw [series.taken]
  exact List.mem_append_left _ (List.mem_reverse.mpr used)

/-- The quotas leave a faithful batch with ids that pass the check. -/
theorem Faithful.idFault?_apply (faithful : Faithful outcomes batch)
    (series : Conversions env pool rules outcomes final) (settings : Settings)
    : idFault? (Quota.apply settings batch.records batch.sources batch.rejections).records
      = none := by
  have distinct := faithful.distinct series
  have left := Quota.apply_records settings batch.sources batch.rejections distinct
  refine idFault?_eq_none.mpr ⟨fun record member => ?_, distinct.sublist (left.map _)⟩
  obtain ⟨least, greatest, -⟩ := faithful.fresh series (left.subset member)
  simp [Record.hasValidId, least, greatest]

theorem Faithful.finish (faithful : Faithful outcomes batch)
    (series : Conversions env pool rules outcomes final) (settings : Settings)
    : finish settings batch
      = .ok (Quota.apply settings batch.records batch.sources batch.rejections) := by
  simp only [Conversion.finish, faithful.idFault?_apply series settings]

end

-----------------------------------------------------------------------------------------
-- Whole runs
-----------------------------------------------------------------------------------------

/-- A batch and the series behind an output: the units were converted in order, each has its
share of the outcomes, the batch is made of these shares and accounts for all of them, and the
quotas made the output.
-/
structure Produced (env : Environment) (pool : IdPool) (units : List ScannedUnit)
    (output : Output) (final : IdPool) (outcomes : List (List Outcome)) (batch : Batch)
    : Prop where
  series : Conversions env pool (units.flatMap (queue (pooledNegations units)))
    outcomes.flatten final
  shares : outcomes.map (·.map Outcome.rule) = units.map (queue (pooledNegations units))
  faithful : Faithful outcomes.flatten batch
  rejections : batch.rejections = allRejections units outcomes
  assembled : batch = Batch.ofUnits units outcomes
  output : output = Quota.apply env.settings batch.records batch.sources batch.rejections

/-- All that a run can do: refuse its settings, get stuck at a rule, or produce an output. -/
theorem run_cases (env : Environment) (pool : IdPool) (units : List ScannedUnit)
    : (∃ fault, env.settings.fault? = some fault
        ∧ run env pool units = (.error (.settings fault), pool))
      ∨ env.settings.fault? = none
        ∧ ((∃ text final, run env pool units = (.error (.noFreeId text), final)
              ∧ Stuck env pool (units.flatMap (queue (pooledNegations units))) text final)
          ∨ ∃ output final outcomes batch, run env pool units = (.ok output, final)
              ∧ Produced env pool units output final outcomes batch) := by
  cases valid : env.settings.fault? with
  | some fault => exact Or.inl ⟨fault, rfl, by simp only [run, valid]⟩
  | none =>
      refine Or.inr ⟨rfl, ?_⟩
      have given := convertUnits_gives env (pooledNegations units) pool units
      cases reached : convertUnits env (pooledNegations units) pool units with
      | mk result final =>
          rw [reached] at given
          cases result with
          | error fault =>
              obtain ⟨text, rfl, stuck⟩ := given
              exact Or.inl ⟨text, final, by simp only [run, valid, reached, Except.bind], stuck⟩
          | ok batch =>
              obtain ⟨_, series, faithful, outcomes, rfl, shares, rejected, assembled⟩ := given
              refine Or.inr ⟨_, final, outcomes, batch, ?_, series, shares, faithful, rejected,
                assembled, rfl⟩
              simp only [run, valid, reached, Except.bind, faithful.finish series env.settings]

theorem run_eq_ok {env : Environment} {pool final : IdPool} {units : List ScannedUnit}
    {output : Output} (done : run env pool units = (.ok output, final))
    : ∃ outcomes batch, Produced env pool units output final outcomes batch := by
  rcases run_cases env pool units with
    ⟨fault, -, refused⟩ | ⟨-, ⟨text, reached, stuck, -⟩ | ⟨other, reached, outcomes, batch, same,
      produced⟩⟩
  · rw [refused] at done
    cases done
  · rw [stuck] at done
    cases done
  · rw [same] at done
    obtain ⟨ok, rfl⟩ := Prod.mk.inj done
    obtain rfl := Except.ok.inj ok
    exact ⟨outcomes, batch, produced⟩

/-- A view of the output of a run tells that there is one. -/
theorem exists_output {α : Type} {reached : Except RunFault Output × IdPool}
    {view : Output → α} {seen : α} (ends : reached.1.toOption.map view = some seen)
    : ∃ output final, reached = (.ok output, final) ∧ view output = seen := by
  obtain ⟨result, final⟩ := reached
  cases result with
  | error fault => cases ends
  | ok output => exact ⟨output, final, rfl, Option.some.inj ends⟩

theorem Produced.distinct {env : Environment} {pool final : IdPool}
    {units : List ScannedUnit} {output : Output} {outcomes : List (List Outcome)}
    {batch : Batch} (produced : Produced env pool units output final outcomes batch)
    : (output.records.map Record.id).Nodup := by
  have whole := produced.faithful.distinct produced.series
  rw [produced.output]
  exact whole.sublist ((Quota.apply_records _ _ _ whole).map Record.id)

/-- Runs and their ids. Settings at fault end a run before any id is taken. Otherwise a run
gives an output, unless it gets stuck at a rule because no salt leads to a free id. The ids
of the output are distinct, in range, new to the pool before the run, in the pool after it,
and each is linked by the source map.
-/
theorem run_ids_distinct_and_covered (env : Environment) (pool : IdPool)
    (units : List ScannedUnit)
    : (∀ fault, env.settings.fault? = some fault
        → run env pool units = (.error (.settings fault), pool))
      ∧ (env.settings.fault? = none
        → (∃ text final, run env pool units = (.error (.noFreeId text), final)
              ∧ Stuck env pool (units.flatMap (queue (pooledNegations units))) text final)
          ∨ ∃ output final, run env pool units = (.ok output, final)
              ∧ (output.records.map Record.id).Nodup
              ∧ ∀ record ∈ output.records,
                  2 ≤ record.id.toNat ∧ record.id.toNat ≤ 2147483647
                  ∧ pool.contains record.id = false ∧ final.contains record.id = true
                  ∧ ∃ entry ∈ output.sources, entry.id = record.id) := by
  rcases run_cases env pool units with
    ⟨fault, invalid, refused⟩ | ⟨valid, stuck | ⟨output, final, outcomes, batch, same, produced⟩⟩
  · refine ⟨fun other found => ?_, fun valid => ?_⟩
    · obtain rfl := Option.some.inj (found.symm.trans invalid)
      exact refused
    · rw [invalid] at valid
      cases valid
  · exact ⟨fun other found => by simp [valid] at found, fun _ => Or.inl stuck⟩
  · refine ⟨fun other found => by simp [valid] at found, fun _ => Or.inr ?_⟩
    refine ⟨output, final, same, produced.distinct, fun record member => ?_⟩
    have distinct := produced.faithful.distinct produced.series
    rw [produced.output] at member ⊢
    have known := (Quota.apply_records _ _ _ distinct).subset member
    obtain ⟨least, greatest, free, taken⟩ := produced.faithful.fresh produced.series known
    obtain ⟨entry, sourced, link⟩ := produced.faithful.linked record known
    refine ⟨UInt32.le_iff_toNat_le.mp least, UInt32.le_iff_toNat_le.mp greatest, ?_, ?_, entry,
      ?_, link⟩
    · simpa [IdPool.contains] using free
    · exact IdPool.contains_iff.mpr taken
    · rw [Quota.apply_sources _ _ _ distinct]
      exact List.mem_flatMap.mpr ⟨record, member, SourceEntry.mem_ofRecord.mpr ⟨sourced, link⟩⟩

end Blocklist.Conversion
