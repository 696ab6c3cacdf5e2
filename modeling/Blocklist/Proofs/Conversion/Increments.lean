import Blocklist.Proofs.Conversion.Accounting

/-! Runs in a row. Without quotas, units that do not cancel rules of one another can be
converted in two runs that share a pool, with the result of one run over all of them.
-/

namespace Blocklist.Conversion

open Declarative

-----------------------------------------------------------------------------------------
-- Parts of a run
-----------------------------------------------------------------------------------------

theorem Batch.append_assoc (batch middle more : Batch)
    : (batch.append middle).append more = batch.append (middle.append more) := by
  simp only [append, List.append_assoc]

theorem followedBy_empty (pool : IdPool) (rest : IdPool → Except RunFault Batch × IdPool)
    : followedBy (.ok {}, pool) rest = rest pool := by
  rw [followedBy]
  cases rest pool with
  | mk result final => cases result <;> rfl

theorem followedBy_assoc (part : Except RunFault Batch × IdPool)
    (rest more : IdPool → Except RunFault Batch × IdPool)
    : followedBy (followedBy part rest) more
      = followedBy part fun next => followedBy (rest next) more := by
  obtain ⟨result, pool⟩ := part
  cases result with
  | error fault => rfl
  | ok batch =>
      simp only [followedBy]
      obtain ⟨result, next⟩ := rest pool
      cases result with
      | error fault => rfl
      | ok middle =>
          simp only [Except.map]
          obtain ⟨result, final⟩ := more next
          cases result with
          | error fault => rfl
          | ok last => simp only [Batch.append_assoc]

/-- Units are converted after one another, whether listed together or not. -/
theorem convertUnits_append (env : Environment) (negations : List Rule) (pool : IdPool)
    (units others : List ScannedUnit)
    : convertUnits env negations pool (units ++ others)
      = followedBy (convertUnits env negations pool units)
          fun next => convertUnits env negations next others := by
  induction units generalizing pool with
  | nil => exact (followedBy_empty pool (convertUnits env negations · others)).symm
  | cons unit units ih =>
      have step (list : List ScannedUnit)
          : convertUnits env negations pool (unit :: list)
            = followedBy (convertUnit env negations pool unit)
                fun next => convertUnits env negations next list := rfl
      rw [List.cons_append, step, step, followedBy_assoc]
      congr 1
      funext next
      exact ih next

theorem convertUnits_congr {negations others : List Rule} {units : List ScannedUnit}
    (same : ∀ unit ∈ units,
      Rule.uncancelled negations unit.rules = Rule.uncancelled others unit.rules)
    (env : Environment) (pool : IdPool)
    : convertUnits env negations pool units = convertUnits env others pool units := by
  induction units generalizing pool with
  | nil => rfl
  | cons unit units ih =>
      obtain ⟨first, later⟩ := List.forall_mem_cons.mp same
      have converted : convertUnit env negations pool unit = convertUnit env others pool unit := by
        simp only [convertUnit, first]
      simp only [convertUnits, converted, ih later]

theorem uncancelled_congr {negations others rules : List Rule}
    (same : ∀ rule ∈ rules, rule.isNegatedBy negations = rule.isNegatedBy others)
    : Rule.uncancelled negations rules = Rule.uncancelled others rules := by
  apply List.filter_congr
  intro rule member
  rw [same rule member]

theorem isNegatedBy_append (rule : Rule) (negations others : List Rule)
    : rule.isNegatedBy (negations ++ others)
      = (rule.isNegatedBy negations || rule.isNegatedBy others) :=
  List.any_append

theorem isNegatedBy_eq_false {rule : Rule} {negations : List Rule}
    : rule.isNegatedBy negations = false
      ↔ ∀ negation ∈ negations, negation.negates rule = false := by
  simp [Rule.isNegatedBy]

theorem pooledNegations_append (units others : List ScannedUnit)
    : pooledNegations (units ++ others) = pooledNegations units ++ pooledNegations others :=
  List.flatMap_append

/-- No badfilter rule on one side cancels a rule on the other. -/
def Apart (units others : List ScannedUnit) : Prop :=
  (∀ negation ∈ pooledNegations units, ∀ unit ∈ others, ∀ rule ∈ unit.rules,
      negation.negates rule = false)
    ∧ ∀ negation ∈ pooledNegations others, ∀ unit ∈ units, ∀ rule ∈ unit.rules,
        negation.negates rule = false

instance (units others : List ScannedUnit) : Decidable (Apart units others) :=
  inferInstanceAs (Decidable ((∀ negation ∈ _, ∀ unit ∈ _, ∀ rule ∈ _, _) ∧ _))

/-- Units apart from one another are converted as if each side had its own negations only. -/
theorem convertUnits_apart {units others : List ScannedUnit} (apart : Apart units others)
    (env : Environment) (pool : IdPool)
    : convertUnits env (pooledNegations (units ++ others)) pool (units ++ others)
      = followedBy (convertUnits env (pooledNegations units) pool units)
          fun next => convertUnits env (pooledNegations others) next others := by
  have left : ∀ unit ∈ units,
      Rule.uncancelled (pooledNegations (units ++ others)) unit.rules
        = Rule.uncancelled (pooledNegations units) unit.rules := by
    intro unit known
    apply uncancelled_congr
    intro rule member
    have none : rule.isNegatedBy (pooledNegations others) = false :=
      isNegatedBy_eq_false.mpr fun negation listed => apart.2 negation listed unit known rule member
    rw [pooledNegations_append, isNegatedBy_append, none, Bool.or_false]
  have right : ∀ unit ∈ others,
      Rule.uncancelled (pooledNegations (units ++ others)) unit.rules
        = Rule.uncancelled (pooledNegations others) unit.rules := by
    intro unit known
    apply uncancelled_congr
    intro rule member
    have none : rule.isNegatedBy (pooledNegations units) = false :=
      isNegatedBy_eq_false.mpr fun negation listed => apart.1 negation listed unit known rule member
    rw [pooledNegations_append, isNegatedBy_append, none, Bool.false_or]
  rw [convertUnits_append, convertUnits_congr left]
  congr 1
  funext next
  exact convertUnits_congr right env next

-----------------------------------------------------------------------------------------
-- Outputs without quotas
-----------------------------------------------------------------------------------------

/-- Every source entry of a batch links one of its records. -/
def Batch.Linked (batch : Batch) : Prop :=
  ∀ entry ∈ batch.sources, ∃ record ∈ batch.records, record.id = entry.id

theorem Faithful.entries_linked {outcomes : List Outcome} {batch : Batch}
    (faithful : Faithful outcomes batch)
    : batch.Linked := by
  intro entry member
  obtain ⟨record, known, link, -⟩ := faithful.traced entry member
  exact ⟨record, known, link⟩

/-- Records find their entries in the source map of their own part only. Witness: an entry of
the other part links a record there, and no id is given away twice.
-/
theorem Batch.ofRecord_append {batch more : Batch} (linked : batch.Linked)
    (follow : more.Linked) (distinct : ((batch.append more).records.map Record.id).Nodup)
    : (∀ record ∈ batch.records,
        SourceEntry.ofRecord (batch.append more).sources record.id
          = SourceEntry.ofRecord batch.sources record.id)
      ∧ ∀ record ∈ more.records,
          SourceEntry.ofRecord (batch.append more).sources record.id
            = SourceEntry.ofRecord more.sources record.id := by
  rw [Batch.append, List.map_append, List.nodup_append] at distinct
  obtain ⟨-, -, apart⟩ := distinct
  refine ⟨?_, ?_⟩
  · intro record member
    have none : SourceEntry.ofRecord more.sources record.id = [] := by
      rw [SourceEntry.ofRecord_eq_nil]
      intro entry listed link
      obtain ⟨other, known, same⟩ := follow entry listed
      exact apart record.id (List.mem_map_of_mem member) other.id (List.mem_map_of_mem known)
        (link.symm.trans same.symm)
    rw [Batch.append, SourceEntry.ofRecord_append, none, List.append_nil]
  · intro record member
    have none : SourceEntry.ofRecord batch.sources record.id = [] := by
      rw [SourceEntry.ofRecord_eq_nil]
      intro entry listed link
      obtain ⟨other, known, same⟩ := linked entry listed
      exact apart other.id (List.mem_map_of_mem known) record.id (List.mem_map_of_mem member)
        (same.trans link)
    rw [Batch.append, SourceEntry.ofRecord_append, none, List.nil_append]

/-- The output of a batch without quotas: the source map is rebuilt record by record. -/
def Batch.output (batch : Batch) : Output where
  records := batch.records
  sources := batch.records.flatMap fun record => SourceEntry.ofRecord batch.sources record.id
  rejections := batch.rejections
  limitations := []

/-- A part of a run that went through: its batch accounts for the outcomes of its rules, and
rejects nothing else that is bound to a record.
-/
structure Through (env : Environment) (pool : IdPool) (rules : List Rule)
    (outcomes : List Outcome) (batch : Batch) (final : IdPool) : Prop where
  series : Conversions env pool rules outcomes final
  faithful : Faithful outcomes batch
  rejected : ∀ rejection ∈ batch.rejections, rejection.recordId? = none
    ∨ rejection ∈ outcomes.filterMap Outcome.rejection?

namespace Through

variable {env : Environment} {pool next final : IdPool} {rules later : List Rule}
  {outcomes others : List Outcome} {batch more : Batch}

theorem append (first : Through env pool rules outcomes batch next)
    (second : Through env next later others more final)
    : Through env pool (rules ++ later) (outcomes ++ others) (batch.append more) final where
  series := first.series.append second.series
  faithful := first.faithful.append second.faithful
  rejected := by
    intro rejection member
    rw [List.filterMap_append, List.mem_append]
    rcases List.mem_append.mp member with left | right
    · exact (first.rejected rejection left).imp_right Or.inl
    · exact (second.rejected rejection right).imp_right Or.inr

theorem finish_uncapped (through : Through env pool rules outcomes batch final)
    {settings : Settings} (noRules : settings.maxRules = none)
    (noRegex : settings.maxRegexRules = none)
    : finish settings batch = .ok batch.output := by
  rw [through.faithful.finish through.series, Quota.apply_uncapped batch.sources noRules noRegex
    (through.faithful.distinct through.series)
    (through.faithful.all_unbound through.series through.rejected)]
  rfl

theorem linked (through : Through env pool rules outcomes batch final) : batch.Linked :=
  through.faithful.entries_linked

theorem output_append (first : Through env pool rules outcomes batch next)
    (second : Through env next later others more final)
    : (batch.append more).output
      = ⟨batch.output.records ++ more.output.records,
          batch.output.sources ++ more.output.sources,
          batch.output.rejections ++ more.output.rejections, []⟩ := by
  have distinct := (first.append second).faithful.distinct (first.append second).series
  obtain ⟨left, right⟩ := Batch.ofRecord_append first.linked second.linked distinct
  simp only [Batch.append] at left right
  simp only [Batch.output, Batch.append, List.flatMap_append, List.flatMap_congr left,
    List.flatMap_congr right]

end Through

-----------------------------------------------------------------------------------------
-- Runs in a row
-----------------------------------------------------------------------------------------

/-- Converting scanned units goes through, unless it gets stuck at a rule. -/
theorem convertUnits_cases (env : Environment) (negations : List Rule) (pool : IdPool)
    {sources : List UnitText} {units : List ScannedUnit}
    (scanned : units = sources.map UnitText.scan)
    : (∃ text final, convertUnits env negations pool units = (.error (.noFreeId text), final)
        ∧ Stuck env pool (units.flatMap (queue negations)) text final)
      ∨ ∃ outcomes batch final, convertUnits env negations pool units = (.ok batch, final)
          ∧ Through env pool (units.flatMap (queue negations)) outcomes batch final := by
  have given := convertUnits_gives env negations pool units
  cases reached : convertUnits env negations pool units with
  | mk result final =>
      rw [reached] at given
      cases result with
      | error fault =>
          obtain ⟨text, rfl, stuck⟩ := given
          exact Or.inl ⟨text, final, rfl, stuck⟩
      | ok batch =>
          obtain ⟨_, series, faithful, shares, rfl, -, rejected, -⟩ := given
          refine Or.inr ⟨_, batch, final, rfl, series, faithful, ?_⟩
          rw [rejected]
          exact fun rejection => allRejections_known (scanned_unbound scanned)

section

variable {env : Environment} {pool final : IdPool} {units : List ScannedUnit}

theorem run_of_error (valid : env.settings.fault? = none) {fault : RunFault}
    (reached : convertUnits env (pooledNegations units) pool units = (.error fault, final))
    : run env pool units = (.error fault, final) := by
  simp only [run, valid, reached, Except.bind]

theorem run_of_ok (valid : env.settings.fault? = none) {batch : Batch} {output : Output}
    (reached : convertUnits env (pooledNegations units) pool units = (.ok batch, final))
    (finished : finish env.settings batch = .ok output)
    : run env pool units = (.ok output, final) := by
  simp only [run, valid, reached, Except.bind, finished]

end

/-- A run over units that are apart is two runs in a row. Without quotas on rules and on
regular expressions, converting all units gives the records, source entries and rejections of
the first run followed by those of a second run that starts with the pool the first one left,
and leaves the same pool. It gets stuck where one of the two does. The quota of unsafe rules
may be set, as it counts only together with that of rules.
-/
theorem run_append_eq_runs_in_a_row (env : Environment) (pool : IdPool)
    {sources more : List UnitText} {units others : List ScannedUnit}
    (scanned : units = sources.map UnitText.scan) (followed : others = more.map UnitText.scan)
    (valid : env.settings.fault? = none) (noRules : env.settings.maxRules = none)
    (noRegex : env.settings.maxRegexRules = none) (apart : Apart units others)
    : (∃ text middle, run env pool units = (.error (.noFreeId text), middle)
        ∧ Stuck env pool (units.flatMap (queue (pooledNegations units))) text middle
        ∧ run env pool (units ++ others) = (.error (.noFreeId text), middle))
      ∨ ∃ first middle, run env pool units = (.ok first, middle)
          ∧ ((∃ text final, run env middle others = (.error (.noFreeId text), final)
                ∧ Stuck env middle (others.flatMap (queue (pooledNegations others))) text final
                ∧ run env pool (units ++ others) = (.error (.noFreeId text), final))
            ∨ ∃ second final, run env middle others = (.ok second, final)
                ∧ run env pool (units ++ others)
                  = (.ok ⟨first.records ++ second.records, first.sources ++ second.sources,
                      first.rejections ++ second.rejections, []⟩, final)) := by
  have whole := convertUnits_apart apart env pool
  rcases convertUnits_cases env (pooledNegations units) pool scanned with
    ⟨text, middle, reached, stuck⟩ | ⟨outcomes, batch, middle, reached, first⟩
  · rw [reached] at whole
    exact Or.inl ⟨text, middle, run_of_error valid reached, stuck, run_of_error valid whole⟩
  · rw [reached] at whole
    refine Or.inr ⟨batch.output, middle,
      run_of_ok valid reached (first.finish_uncapped noRules noRegex), ?_⟩
    rcases convertUnits_cases env (pooledNegations others) middle followed with
      ⟨text, final, went, stuck⟩ | ⟨later, next, final, went, second⟩
    · rw [followedBy, went] at whole
      exact Or.inl ⟨text, final, run_of_error valid went, stuck, run_of_error valid whole⟩
    · rw [followedBy, went] at whole
      refine Or.inr ⟨next.output, final,
        run_of_ok valid went (second.finish_uncapped noRules noRegex), ?_⟩
      rw [← first.output_append second]
      exact run_of_ok valid whole ((first.append second).finish_uncapped noRules noRegex)

/-- An engine with a quota of unsafe rules alone, which counts for nothing. -/
def unlimited : Environment :=
  ⟨{ maxUnsafeRules := some 0 }, fun _ _ => none, fun name => .ok name, fun _ => none⟩

/-- A unit that cancels one of its own rules. -/
def earlierUnit : UnitText :=
  ⟨0, "||a^$removeparam=x\n||b^\n||c^\n||b^$badfilter", none, fun _ => true⟩

/-- A unit that repeats two of the rules left there, one of them to be merged with another. -/
def laterUnit : UnitText :=
  ⟨1, "||c^\n||a^$removeparam=x\n||d^$domain=*.d\n||a^$removeparam=y", none, fun _ => true⟩

/-- Repeated rules get other ids in the second run, and the same ones in a single run. -/
theorem run_append_eq_runs_with_repeated_rules
    : Apart [earlierUnit.scan] [laterUnit.scan]
      ∧ ∃ first middle second final,
          run unlimited .empty [earlierUnit.scan] = (.ok first, middle)
          ∧ run unlimited middle [laterUnit.scan] = (.ok second, final)
          ∧ first.records.map Record.id = [1559411457, 162349722]
          ∧ second.records.map Record.id = [2106684557, 219588325]
          ∧ run unlimited .empty ([earlierUnit.scan] ++ [laterUnit.scan])
            = (.ok ⟨first.records ++ second.records, first.sources ++ second.sources,
                first.rejections ++ second.rejections, []⟩, final) := by
  have scanned : [earlierUnit.scan] = [earlierUnit].map UnitText.scan := rfl
  have followed : [laterUnit.scan] = [laterUnit].map UnitText.scan := rfl
  have apart : Apart [earlierUnit.scan] [laterUnit.scan] := by decide +kernel
  have ids : (run unlimited .empty [earlierUnit.scan]).1.toOption.map (·.records.map Record.id)
      = some [1559411457, 162349722] := by
    decide +kernel
  have later : (run unlimited (run unlimited .empty [earlierUnit.scan]).2
      [laterUnit.scan]).1.toOption.map (·.records.map Record.id)
        = some [2106684557, 219588325] := by
    decide +kernel
  rcases run_append_eq_runs_in_a_row unlimited .empty scanned followed rfl rfl rfl apart with
    ⟨text, middle, stuck, -⟩ | ⟨first, middle, ran, ⟨text, final, stuck, -⟩ | ⟨second, final,
      next, whole⟩⟩
  · rw [stuck] at ids
    cases ids
  · rw [ran, stuck] at later
    cases later
  · rw [ran, next] at later
    rw [ran] at ids
    exact ⟨apart, first, middle, second, final, ran, next, Option.some.inj ids,
      Option.some.inj later, whole⟩

end Blocklist.Conversion
