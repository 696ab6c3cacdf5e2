import Blocklist.Proofs.Conversion.Increments
import Blocklist.Proofs.Conversion.Pruning

/-! Runs over the same units in another order. Without quotas each unit yields the same
records and rejections wherever it stands, since neither merging nor cancelling looks at ids
or at the order of the units.
-/

namespace Blocklist

open Declarative

/-- What a record says under any id: its priority, action and condition, and where its lines
stand, in the order of the source map.
-/
structure Unlabelled where
  priority : UInt32
  action : Action
  condition : Condition
  places : List (Nat × Nat)
  deriving DecidableEq

/-- A record without its id, by the source map that it belongs to. -/
def Declarative.Record.unlabelled (sources : List SourceEntry) (record : Record)
    : Unlabelled where
  priority := record.priority
  action := record.action
  condition := record.condition
  places := (SourceEntry.ofRecord sources record.id).map SourceEntry.place

/-- A rejection without the id of the record it is bound to. -/
def Rejection.unlabelled (rejection : Rejection) : Rejection :=
  rejection.relabel fun _ => 0

section

variable {rename : UInt32 → UInt32}

theorem Declarative.Record.unlabelled_relabel (injective : Function.Injective rename)
    (sources : List SourceEntry) (record : Record)
    : (record.relabel rename).unlabelled (sources.map (SourceEntry.relabel rename))
      = record.unlabelled sources := by
  have places : (SourceEntry.ofRecord (sources.map (SourceEntry.relabel rename))
        (record.relabel rename).id).map SourceEntry.place
      = (SourceEntry.ofRecord sources record.id).map SourceEntry.place := by
    rw [Record.relabel, SourceEntry.ofRecord_relabel injective, List.map_map]
    rfl
  simp only [unlabelled, places]
  rfl

theorem Rejection.unlabelled_relabel (rejection : Rejection)
    : (rejection.relabel rename).unlabelled = rejection.unlabelled :=
  rejection.relabel_relabel rename fun _ => 0

end

namespace Conversion

-----------------------------------------------------------------------------------------
-- What batches yield
-----------------------------------------------------------------------------------------

/-- Records and rejections without their ids. -/
structure Yield where
  records : List Unlabelled
  rejections : List Rejection

namespace Batch

/-- What a batch holds apart from ids. -/
def yield (batch : Batch) : Yield where
  records := batch.records.map (Record.unlabelled batch.sources)
  rejections := batch.rejections.map Rejection.unlabelled

theorem yield_relabel {rename : UInt32 → UInt32} (injective : Function.Injective rename)
    (batch : Batch)
    : (batch.relabel rename).yield = batch.yield := by
  simp only [yield, relabel, List.map_map, Function.comp_def,
    Record.unlabelled_relabel injective, Rejection.unlabelled_relabel]

/-- Parts that link their own records only yield one after the other. -/
theorem yield_append {batch more : Batch} (linked : batch.Linked) (follow : more.Linked)
    (distinct : ((batch.append more).records.map Record.id).Nodup)
    : (batch.append more).yield
      = ⟨batch.yield.records ++ more.yield.records,
          batch.yield.rejections ++ more.yield.rejections⟩ := by
  obtain ⟨left, right⟩ := ofRecord_append linked follow distinct
  have first : batch.records.map (Record.unlabelled (batch.append more).sources)
      = batch.records.map (Record.unlabelled batch.sources) := by
    apply List.map_congr_left
    intro record member
    rw [Record.unlabelled, Record.unlabelled, left record member]
  have second : more.records.map (Record.unlabelled (batch.append more).sources)
      = more.records.map (Record.unlabelled more.sources) := by
    apply List.map_congr_left
    intro record member
    rw [Record.unlabelled, Record.unlabelled, right record member]
  have records : (batch.append more).records = batch.records ++ more.records := rfl
  have rejections : (batch.append more).rejections = batch.rejections ++ more.rejections := rfl
  simp only [yield, records, rejections, List.map_append, first, second]

theorem Linked.append {batch more : Batch} (linked : batch.Linked) (follow : more.Linked)
    : (batch.append more).Linked := by
  intro entry member
  rcases List.mem_append.mp member with left | right
  · obtain ⟨record, known, link⟩ := linked entry left
    exact ⟨record, List.mem_append_left _ known, link⟩
  · obtain ⟨record, known, link⟩ := follow entry right
    exact ⟨record, List.mem_append_right _ known, link⟩

/-- Outcomes with distinct ids link their own records, group by group. -/
theorem ofGroups_linked {outcomes : List Outcome}
    (distinct : (outcomes.filterMap Outcome.id?).Nodup) (groups : List Group)
    : (ofGroups outcomes groups).Linked := by
  induction groups with
  | nil =>
      intro entry member
      cases member
  | cons group groups ih =>
      have part : (outcomes.filter (·.rule.group == group)).Sublist outcomes :=
        List.filter_sublist
      have apart := (distinct.sublist (part.filterMap Outcome.id?)).sublist
        (accepted_ids_sublist _)
      have grouped : ∀ outcome ∈ outcomes.filter (·.rule.group == group),
          outcome.rule.group = group := by
        intro outcome member
        simpa using (List.mem_filter.mp member).2
      exact (assemble_faithful grouped apart).entries_linked.append ih

theorem ofUnit_linked (unit : ScannedUnit) {outcomes : List Outcome}
    (distinct : (outcomes.filterMap Outcome.id?).Nodup)
    : (ofUnit unit outcomes).Linked :=
  ofGroups_linked distinct Group.all

end Batch

-----------------------------------------------------------------------------------------
-- What a unit yields
-----------------------------------------------------------------------------------------

/-- Outcomes of rules that were converted in order, under some pool. -/
structure OutcomesOf (env : Environment) (rules : List Rule) (outcomes : List Outcome)
    : Prop where
  rules : outcomes.map Outcome.rule = rules
  converted : ∀ outcome ∈ outcomes,
    outcome.relabel (fun _ => 0) = preview env outcome.rule
  distinct : (outcomes.filterMap Outcome.id?).Nodup

/-- What a unit comes to under some pool. -/
def Yields (env : Environment) (negations : List Rule) (unit : ScannedUnit) (result : Yield)
    : Prop :=
  ∃ outcomes, OutcomesOf env (queue negations unit) outcomes
    ∧ result = (Batch.ofUnit unit outcomes).yield

section

variable {env : Environment} {negations : List Rule}

/-- A unit yields the same under every pool. Witness: its outcomes under one pool are those
under another with their ids renamed.
-/
theorem yields_unique : Relator.RightUnique (Yields env negations) := by
  rintro unit _ _ ⟨outcomes, first, rfl⟩ ⟨others, second, rfl⟩
  have alike : outcomes.map (Outcome.relabel fun _ => 0)
      = others.map (Outcome.relabel fun _ => 0) := by
    rw [map_preview first.converted, map_preview second.converted, first.rules, second.rules]
  obtain ⟨rename, injective, rfl⟩ := exists_relabel alike first.distinct second.distinct
  have groups := Batch.yield_relabel injective (Batch.ofGroups outcomes Group.all)
  rw [← Batch.ofGroups_relabel injective] at groups
  have parts (outcomes : List Outcome)
      : (Batch.ofUnit unit outcomes).yield
        = ⟨(Batch.ofGroups outcomes Group.all).yield.records,
            unit.rejections.map Rejection.unlabelled
              ++ (Batch.ofGroups outcomes Group.all).yield.rejections⟩ := by
    simp only [Batch.ofUnit, Batch.append, Batch.yield, List.nil_append, List.map_append]
  rw [parts, parts, groups]

/-- Units yield one after the other, by induction on them. -/
theorem ofUnits_yields {units : List ScannedUnit} {shares : List (List Outcome)}
    (own : List.Forall₂ (fun unit => OutcomesOf env (queue negations unit)) units shares)
    (distinct : ((Batch.ofUnits units shares).records.map Record.id).Nodup)
    : (Batch.ofUnits units shares).Linked
      ∧ ∃ results, List.Forall₂ (Yields env negations) units results
          ∧ (Batch.ofUnits units shares).yield
            = ⟨results.flatMap Yield.records, results.flatMap Yield.rejections⟩ := by
  induction own with
  | nil => exact ⟨List.forall_mem_nil _, [], .nil, rfl⟩
  | @cons unit share units shares first later ih =>
      have step : Batch.ofUnits (unit :: units) (share :: shares)
          = (Batch.ofUnit unit share).append (Batch.ofUnits units shares) := rfl
      rw [step] at distinct ⊢
      have below : ((Batch.ofUnits units shares).records.map Record.id).Nodup := by
        rw [Batch.append, List.map_append] at distinct
        exact (List.nodup_append.mp distinct).2.1
      obtain ⟨follow, results, yields, same⟩ := ih below
      have linked := Batch.ofUnit_linked unit first.distinct
      refine ⟨linked.append follow, (Batch.ofUnit unit share).yield :: results,
        .cons ⟨share, first, rfl⟩ yields, ?_⟩
      rw [Batch.yield_append linked follow distinct, same]
      rfl

end

-----------------------------------------------------------------------------------------
-- Units in another order
-----------------------------------------------------------------------------------------

/-- Whether a rule is cancelled does not depend on the order of the negations. -/
theorem isNegatedBy_perm {negations others : List Rule} (reordered : negations.Perm others)
    (rule : Rule)
    : rule.isNegatedBy others = rule.isNegatedBy negations := by
  rw [Bool.eq_iff_iff]
  simp only [Rule.isNegatedBy, List.any_eq_true, reordered.mem_iff]

theorem pooledNegations_perm {units others : List ScannedUnit} (reordered : units.Perm others)
    : (pooledNegations units).Perm (pooledNegations others) :=
  reordered.flatMap_right ScannedUnit.negations

theorem queue_perm_negations {negations others : List Rule} (reordered : negations.Perm others)
    : queue others = queue negations := by
  funext unit
  simp only [queue, isNegatedBy_perm reordered]

section

variable {env : Environment} {pool final : IdPool} {units : List ScannedUnit}
  {output : Output} {outcomes : List (List Outcome)} {batch : Batch}

theorem Produced.outcomesOf (produced : Produced env pool units output final outcomes batch)
    : List.Forall₂ (fun unit => OutcomesOf env (queue (pooledNegations units) unit)) units
        outcomes := by
  have length : units.length = outcomes.length := by
    simpa using (congrArg List.length produced.shares).symm
  rw [List.forall₂_iff_get]
  refine ⟨length, ?_⟩
  intro position known listed
  have inside : outcomes.get ⟨position, listed⟩ ∈ outcomes := List.get_mem _ _
  refine ⟨?_, ?_, ?_⟩
  · have own := congrArg (·[position]?) produced.shares
    simpa [known, listed] using own
  · intro outcome member
    exact produced.series.preview outcome (List.mem_flatten.mpr ⟨_, inside, member⟩)
  · have part := (List.sublist_flatten_of_mem inside).filterMap Outcome.id?
    exact produced.series.ids.1.sublist part

/-- Without quotas an output says what its units yield. -/
theorem Produced.yields (produced : Produced env pool units output final outcomes batch)
    (scanned : ∀ unit ∈ units, ∀ rejection ∈ unit.rejections, rejection.recordId? = none)
    (noRules : env.settings.maxRules = none) (noRegex : env.settings.maxRegexRules = none)
    : ∃ results, List.Forall₂ (Yields env (pooledNegations units)) units results
        ∧ output.records.map (Record.unlabelled output.sources) = results.flatMap Yield.records
        ∧ output.rejections.map Rejection.unlabelled = results.flatMap Yield.rejections := by
  have distinct := produced.faithful.distinct produced.series
  have apart := distinct
  rw [produced.assembled] at apart
  obtain ⟨-, results, yields, same⟩ := ofUnits_yields produced.outcomesOf apart
  rw [← produced.assembled] at same
  have uncapped : output = batch.output := by
    rw [produced.output, Quota.apply_uncapped batch.sources noRules noRegex distinct
      (produced.unbound scanned)]
    rfl
  have records : output.records.map (Record.unlabelled output.sources) = batch.yield.records := by
    rw [uncapped]
    apply List.map_congr_left
    intro record member
    have own : SourceEntry.ofRecord batch.output.sources record.id
        = SourceEntry.ofRecord batch.sources record.id :=
      Quota.ofRecord_entriesOf batch.sources distinct member
    rw [Record.unlabelled, Record.unlabelled, own]
  have rejections : output.rejections.map Rejection.unlabelled = batch.yield.rejections := by
    rw [uncapped]
    rfl
  rw [records, rejections, same]
  exact ⟨results, yields, rfl, rfl⟩

end

/-- The order of units sways nothing but ids and the order of the output. Take scanned units and
the same units in another order, and settings without quotas on rules and on regular
expressions. Then each badfilter rule cancels the same rules in either order. Unless one of the
two runs gets stuck at a rule, both give an output, and up to order their records have the same
priorities, actions, conditions and lists of places, and their rejections are the same without
ids. The quota of unsafe rules may be set, as it counts only together with that of rules.
-/
theorem run_unswayed_by_unit_order (env : Environment) (pool pool' : IdPool)
    {sources : List UnitText} {units others : List ScannedUnit}
    (scanned : units = sources.map UnitText.scan) (reordered : units.Perm others)
    (valid : env.settings.fault? = none) (noRules : env.settings.maxRules = none)
    (noRegex : env.settings.maxRegexRules = none)
    : (∀ unit ∈ units,
        Rule.uncancelled (pooledNegations others) unit.rules
          = Rule.uncancelled (pooledNegations units) unit.rules)
      ∧ ((∃ text final, run env pool units = (.error (.noFreeId text), final)
            ∧ Stuck env pool (units.flatMap (queue (pooledNegations units))) text final)
        ∨ (∃ text final, run env pool' others = (.error (.noFreeId text), final)
            ∧ Stuck env pool' (others.flatMap (queue (pooledNegations others))) text final)
        ∨ ∃ output final output' final', run env pool units = (.ok output, final)
            ∧ run env pool' others = (.ok output', final')
            ∧ (output.records.map (Record.unlabelled output.sources)).Perm
                (output'.records.map (Record.unlabelled output'.sources))
            ∧ (output.rejections.map Rejection.unlabelled).Perm
                (output'.rejections.map Rejection.unlabelled)) := by
  have negations := pooledNegations_perm reordered
  refine ⟨fun unit _ => uncancelled_congr fun rule _ => isNegatedBy_perm negations rule, ?_⟩
  have unbound := scanned_unbound scanned
  have moved : ∀ unit ∈ others, ∀ rejection ∈ unit.rejections, rejection.recordId? = none :=
    fun unit member => unbound unit (reordered.mem_iff.mpr member)
  rcases run_cases env pool units with
    ⟨fault, invalid, -⟩ | ⟨-, stuck | ⟨output, final, outcomes, batch, done, first⟩⟩
  · rw [valid] at invalid
    cases invalid
  · exact Or.inl stuck
  rcases run_cases env pool' others with
    ⟨fault, invalid, -⟩ | ⟨-, stuck | ⟨output', final', outcomes', batch', again, second⟩⟩
  · rw [valid] at invalid
    cases invalid
  · exact Or.inr (Or.inl stuck)
  obtain ⟨results, yields, records, rejections⟩ := first.yields unbound noRules noRegex
  obtain ⟨results', yields', records', rejections'⟩ := second.yields moved noRules noRegex
  have alike : Yields env (pooledNegations others) = Yields env (pooledNegations units) := by
    funext unit result
    simp only [Yields, queue_perm_negations negations]
  rw [alike] at yields'
  have permuted : results.Perm results' := List.rel_perm_imp yields_unique yields yields' reordered
  refine Or.inr (Or.inr ⟨output, final, output', final', done, again, ?_, ?_⟩)
  · rw [records, records']
    exact permuted.flatMap_right Yield.records
  · rw [rejections, rejections']
    exact permuted.flatMap_right Yield.rejections

/-- Two units with a rule in common. The second cancels a rule of the first and has one that is
rejected.
-/
def overlappingUnits : List UnitText :=
  [⟨0, "||a^\n||b^\n||c^$removeparam=x\n||c^$removeparam=y", none, fun _ => true⟩,
    ⟨1, "||b^$badfilter\n||a^\n||d^$domain=*.d", none, fun _ => true⟩]

/-- In the other order the common rule gets its ids the other way round, and the cancelled rule
stays cancelled.
-/
theorem run_unswayed_by_order_of_overlapping_units
    : ∃ units output final output' final',
        units = overlappingUnits.map UnitText.scan
        ∧ run unlimited .empty units = (.ok output, final)
        ∧ run unlimited .empty units.reverse = (.ok output', final')
        ∧ output.sources.map (fun entry => (entry.id, entry.place))
          = [(1440734956, 0, 0), (1713749785, 0, 10), (1713749785, 0, 29), (1972920625, 1, 15)]
        ∧ output'.sources.map (fun entry => (entry.id, entry.place))
          = [(1440734956, 1, 15), (1972920625, 0, 0), (1713749785, 0, 10), (1713749785, 0, 29)]
        ∧ (output.records.map (Record.unlabelled output.sources)).Perm
            (output'.records.map (Record.unlabelled output'.sources))
        ∧ (output.rejections.map Rejection.unlabelled).Perm
            (output'.rejections.map Rejection.unlabelled) := by
  obtain ⟨output, final, done, sources⟩ := exists_output (show
      (run unlimited .empty (overlappingUnits.map UnitText.scan)).1.toOption.map
        (fun output => output.sources.map fun entry => (entry.id, entry.place))
      = some [(1440734956, 0, 0), (1713749785, 0, 10), (1713749785, 0, 29),
          (1972920625, 1, 15)] by decide +kernel)
  obtain ⟨output', final', again, sources'⟩ := exists_output (show
      (run unlimited .empty (overlappingUnits.map UnitText.scan).reverse).1.toOption.map
        (fun output => output.sources.map fun entry => (entry.id, entry.place))
      = some [(1440734956, 1, 15), (1972920625, 0, 0), (1713749785, 0, 10),
          (1713749785, 0, 29)] by decide +kernel)
  have scanned : overlappingUnits.map UnitText.scan = overlappingUnits.map UnitText.scan := rfl
  obtain ⟨-, ⟨text, stop, stuck, -⟩ | ⟨text, stop, stuck, -⟩ | ⟨first, _, second, _, ran, next,
      records, rejections⟩⟩ :=
    run_unswayed_by_unit_order unlimited .empty .empty scanned (List.reverse_perm _).symm rfl rfl
      rfl
  · rw [stuck] at done
    cases done
  · rw [stuck] at again
    cases again
  · rw [ran] at done
    rw [next] at again
    obtain ⟨rfl⟩ := Except.ok.inj (Prod.mk.inj done).1
    obtain ⟨rfl⟩ := Except.ok.inj (Prod.mk.inj again).1
    exact ⟨_, _, _, _, _, rfl, ran, next, sources, sources', records, rejections⟩

end Conversion

end Blocklist
