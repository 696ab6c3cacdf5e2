import Blocklist.Proofs.Conversion.Batches

/-! Groups and units of a run. Whatever a run converts is one series of outcomes, unit by
unit and group by group, and its batch accounts for that series. Merging never fails, so the
only fault on the way is a text that leads to no free id.
-/

namespace Blocklist.Conversion

open Declarative

/-- A part of a run and then the rest of it, unless the part ends in a fault. -/
def followedBy (part : Except RunFault Batch × IdPool)
    (rest : IdPool → Except RunFault Batch × IdPool) : Except RunFault Batch × IdPool :=
  match part with
  | (.error fault, pool) => (.error fault, pool)
  | (.ok batch, pool) =>
    let (more, pool) := rest pool
    (more.map batch.append, pool)

/-- What a part of a run gives: a batch that answers to the outcomes of all its rules, or the
fault that it got stuck at one of them.
-/
def Gives (env : Environment) (pool : IdPool) (rules : List Rule)
    (answers : List Outcome → Batch → Prop) : Except RunFault Batch × IdPool → Prop
  | (.ok batch, final) =>
      ∃ outcomes, Conversions env pool rules outcomes final ∧ answers outcomes batch
  | (.error fault, final) =>
      ∃ text, fault = .noFreeId text ∧ Stuck env pool rules text final

namespace Gives

variable {env : Environment} {pool : IdPool} {rules more : List Rule}
  {answers replies combined : List Outcome → Batch → Prop}
  {result : Except RunFault Batch × IdPool}

/-- A change that never fails on a batch with these answers adds no fault. -/
theorem bind {change : Batch → Except RunFault Batch}
    (given : Gives env pool rules answers result)
    (changes : ∀ outcomes final batch, Conversions env pool rules outcomes final
      → answers outcomes batch → ∃ changed, change batch = .ok changed ∧ replies outcomes changed)
    : Gives env pool rules replies (result.1.bind change, result.2) := by
  obtain ⟨part, final⟩ := result
  cases part with
  | error fault => exact given
  | ok batch =>
      obtain ⟨outcomes, series, answered⟩ := given
      obtain ⟨changed, equal, replied⟩ := changes outcomes final batch series answered
      simp only [Except.bind, equal]
      exact ⟨outcomes, series, replied⟩

/-- Two parts in a row are one part, which gets stuck where one of them does. -/
theorem append {rest : IdPool → Except RunFault Batch × IdPool}
    (first : Gives env pool rules answers result)
    (later : ∀ next, Gives env next more replies (rest next))
    (joined : ∀ outcomes others batch other, answers outcomes batch → replies others other
      → combined (outcomes ++ others) (batch.append other))
    : Gives env pool (rules ++ more) combined (followedBy result rest) := by
  obtain ⟨part, next⟩ := result
  cases part with
  | error fault =>
      obtain ⟨text, equal, stuck⟩ := first
      exact ⟨text, equal, stuck.append_right more⟩
  | ok batch =>
      obtain ⟨outcomes, series, answered⟩ := first
      have given := later next
      rw [followedBy]
      cases reached : rest next with
      | mk part final =>
          rw [reached] at given
          cases part with
          | error fault =>
              obtain ⟨text, equal, stuck⟩ := given
              exact ⟨text, equal, .append_left series stuck⟩
          | ok other =>
              obtain ⟨others, follow, replied⟩ := given
              exact ⟨outcomes ++ others, series.append follow,
                joined outcomes others batch other answered replied⟩

end Gives

-----------------------------------------------------------------------------------------
-- Rules and groups
-----------------------------------------------------------------------------------------

theorem accepted_ids_sublist (outcomes : List Outcome)
    : ((outcomes.filterMap Outcome.record?).map Record.id).Sublist
        (outcomes.filterMap Outcome.id?) := by
  induction outcomes with
  | nil => exact .slnil
  | cons outcome outcomes ih =>
      obtain ⟨rule, result⟩ := outcome
      cases result with
      | ok record => exact ih.cons_cons record.id
      | error rejection =>
          refine List.Sublist.trans ih ?_
          rw [List.filterMap_cons]
          split
          · exact .refl _
          · exact List.sublist_cons_self _ _

theorem Conversions.distinct {env : Environment} {pool final : IdPool} {rules : List Rule}
    {outcomes : List Outcome} (series : Conversions env pool rules outcomes final)
    : ((outcomes.filterMap Outcome.record?).map Record.id).Nodup :=
  series.ids.1.sublist (accepted_ids_sublist outcomes)

/-- Converting rules gives the batch of their outcomes, by induction on the rules. -/
theorem convertRules_gives (env : Environment) (pool : IdPool) (rules : List Rule)
    : Gives env pool rules (fun outcomes batch => batch = Batch.ofOutcomes outcomes)
        (convertRules env pool rules) := by
  induction rules generalizing pool with
  | nil => exact ⟨[], .nil, rfl⟩
  | cons rule rules ih =>
      rw [convertRules]
      split
      · rename_i none
        exact ⟨rule.text, rfl, .head none⟩
      · rename_i result next converted
        have first : Gives env pool [rule]
            (fun outcomes batch => batch = Batch.ofOutcomes outcomes)
            (.ok (Batch.single rule result), next) :=
          ⟨_, .cons converted .nil, Batch.single_eq rule result⟩
        refine first.append ih ?_
        rintro outcomes others _ _ rfl rfl
        exact Batch.ofOutcomes_append outcomes others

/-- Outcomes with distinct ids are merged without a fault. -/
theorem mergeBatch_ofOutcomes (group : Group) {outcomes : List Outcome}
    (distinct : ((outcomes.filterMap Outcome.record?).map Record.id).Nodup)
    : mergeBatch group (Batch.ofOutcomes outcomes) = .ok (Batch.assemble group outcomes) := by
  rw [mergeBatch, Batch.assemble]
  cases group.merge? with
  | none => rfl
  | some merge => simp only [Merge.run_of_sourced (ofOutcomes_sourced distinct)]

theorem Conversions.grouped {env : Environment} {pool final : IdPool} {group : Group}
    {rules : List Rule} {outcomes : List Outcome}
    (series : Conversions env pool (Rule.inGroup group rules) outcomes final)
    : ∀ outcome ∈ outcomes, outcome.rule.group = group := by
  intro outcome member
  have listed : outcome.rule ∈ Rule.inGroup group rules := by
    rw [← series.rules_eq]
    exact List.mem_map_of_mem member
  simpa using (List.mem_filter.mp listed).2

/-- Converting a group gives the merged batch of its outcomes, since merging never fails. -/
theorem convertGroup_gives (env : Environment) (pool : IdPool) (group : Group)
    (rules : List Rule)
    : Gives env pool (Rule.inGroup group rules) (fun outcomes batch =>
        Faithful outcomes batch ∧ batch = Batch.assemble group outcomes
        ∧ ∀ outcome ∈ outcomes, outcome.rule.group = group)
        (convertGroup env pool group rules) := by
  refine (convertRules_gives env pool (Rule.inGroup group rules)).bind ?_
  rintro outcomes final _ series rfl
  refine ⟨_, mergeBatch_ofOutcomes group series.distinct, ?_, rfl, series.grouped⟩
  exact assemble_faithful series.grouped series.distinct

/-- The batch of the outcomes of some groups, one group after the other. -/
def Batch.ofGroups (outcomes : List Outcome) : List Group → Batch
  | [] => {}
  | group :: groups =>
    (Batch.assemble group (outcomes.filter (·.rule.group == group))).append
      (Batch.ofGroups outcomes groups)

/-- Outcomes of no listed group do not count. -/
theorem Batch.ofGroups_append {outcomes : List Outcome} (others : List Outcome)
    {groups : List Group} (absent : ∀ outcome ∈ outcomes, outcome.rule.group ∉ groups)
    : Batch.ofGroups (outcomes ++ others) groups = Batch.ofGroups others groups := by
  induction groups with
  | nil => rfl
  | cons group groups ih =>
      have none : outcomes.filter (·.rule.group == group) = [] := by
        rw [List.filter_eq_nil_iff]
        intro outcome member same
        exact absent outcome member (by simp [beq_iff_eq.mp same])
      have below := ih fun outcome member inside =>
        absent outcome member (List.mem_cons_of_mem group inside)
      rw [ofGroups, ofGroups, List.filter_append, none, List.nil_append, below]

/-- Converting groups gives a faithful batch of their outcomes, by induction on the groups. -/
theorem convertGroups_gives (env : Environment) (rules : List Rule) (pool : IdPool)
    (groups : List Group) (distinct : groups.Nodup)
    : Gives env pool (groups.flatMap (Rule.inGroup · rules)) (fun outcomes batch =>
        Faithful outcomes batch ∧ batch.rejections = outcomes.filterMap Outcome.rejection?
        ∧ batch = Batch.ofGroups outcomes groups
        ∧ ∀ outcome ∈ outcomes, outcome.rule.group ∈ groups)
        (convertGroups env rules pool groups) := by
  induction groups generalizing pool with
  | nil => exact ⟨[], .nil, .empty, rfl, rfl, by simp⟩
  | cons group groups ih =>
      obtain ⟨fresh, later⟩ := List.nodup_cons.mp distinct
      rw [convertGroups, List.flatMap_cons]
      refine (convertGroup_gives env pool group rules).append (fun next => ih next later) ?_
      rintro outcomes others _ more ⟨faithful, rfl, own⟩ ⟨account, refused, rfl, inside⟩
      refine ⟨faithful.append account, ?_, ?_, ?_⟩
      · rw [Batch.append, Batch.assemble_rejections, refused, List.filterMap_append]
      · have first : (outcomes ++ others).filter (·.rule.group == group) = outcomes := by
          have all : outcomes.filter (·.rule.group == group) = outcomes :=
            List.filter_eq_self.mpr fun outcome member => beq_iff_eq.mpr (own outcome member)
          have none : others.filter (·.rule.group == group) = [] := by
            rw [List.filter_eq_nil_iff]
            intro outcome member same
            exact fresh (beq_iff_eq.mp same ▸ inside outcome member)
          rw [List.filter_append, all, none, List.append_nil]
        rw [Batch.ofGroups, first, Batch.ofGroups_append]
        intro outcome member
        rwa [own outcome member]
      · intro outcome member
        rcases List.mem_append.mp member with left | right
        · simp [own outcome left]
        · exact List.mem_cons_of_mem group (inside outcome right)

-----------------------------------------------------------------------------------------
-- Units
-----------------------------------------------------------------------------------------

/-- The groups whose rules are converted, in order. -/
def convertedGroups : List Group :=
  [.regular, .removeParam, .removeHeader, .csp]

/-- The rules of a unit in the order in which they are converted: group by group those that
no negation cancels.
-/
def queue (negations : List Rule) (unit : ScannedUnit) : List Rule :=
  convertedGroups.flatMap fun group =>
    unit.rules.filter fun rule => rule.group == group && !rule.isNegatedBy negations

/-- The rules of a group that are left to convert; there are none in the badfilter group. -/
theorem inGroup_uncancelled (negations rules : List Rule) (group : Group)
    : Rule.inGroup group (Rule.uncancelled negations rules)
      = if group = .badfilter then []
        else rules.filter fun rule => rule.group == group && !rule.isNegatedBy negations := by
  rw [Rule.inGroup, Rule.uncancelled, List.filter_filter]
  split
  · rename_i last
    rw [last, List.filter_eq_nil_iff]
    intro rule _
    by_cases bad : rule.group = .badfilter <;> simp [bad]
  · rename_i converted
    apply List.filter_congr
    intro rule _
    by_cases same : rule.group = group
    · simp [same, converted]
    · simp [beq_eq_false_iff_ne.mpr same]

theorem queue_eq (negations : List Rule) (unit : ScannedUnit)
    : Group.all.flatMap (Rule.inGroup · (Rule.uncancelled negations unit.rules))
      = queue negations unit := by
  simp only [Group.all, convertedGroups, queue, List.flatMap_cons, List.flatMap_nil,
    inGroup_uncancelled]
  simp

/-- The queue of a unit holds the rules that are left to convert, in another order. -/
theorem queue_perm (negations : List Rule) (unit : ScannedUnit)
    : (queue negations unit).Perm (Rule.uncancelled negations unit.rules) := by
  rw [← queue_eq]
  refine flatMap_filter_perm Rule.group Group.all _ (by decide) ?_
  intro rule _
  cases rule.group <;> decide

/-- The rejections of a run: for each unit those of its scan, then those of its outcomes. -/
def allRejections (units : List ScannedUnit) (outcomes : List (List Outcome))
    : List Rejection :=
  (units.zip outcomes).flatMap fun (unit, own) =>
    unit.rejections ++ own.filterMap Outcome.rejection?

/-- The batch of a unit: the rejections of its scan, then its outcomes group by group. -/
def Batch.ofUnit (unit : ScannedUnit) (outcomes : List Outcome) : Batch :=
  Batch.append { rejections := unit.rejections } (Batch.ofGroups outcomes Group.all)

/-- The batch of units, each with its share of the outcomes. -/
def Batch.ofUnits (units : List ScannedUnit) (shares : List (List Outcome)) : Batch :=
  (units.zip shares).foldr (fun (unit, own) more => (Batch.ofUnit unit own).append more) {}

/-- Converting a unit gives a faithful batch of the outcomes of its queue. -/
theorem convertUnit_gives (env : Environment) (negations : List Rule) (pool : IdPool)
    (unit : ScannedUnit)
    : Gives env pool (queue negations unit) (fun outcomes batch =>
        outcomes.map Outcome.rule = queue negations unit ∧ Faithful outcomes batch
        ∧ batch.rejections = unit.rejections ++ outcomes.filterMap Outcome.rejection?
        ∧ batch = Batch.ofUnit unit outcomes)
        (convertUnit env negations pool unit) := by
  have converted :=
    convertGroups_gives env (Rule.uncancelled negations unit.rules) pool Group.all (by decide)
  rw [queue_eq] at converted
  refine converted.bind ?_
  rintro outcomes final _ series ⟨faithful, rejected, rfl, -⟩
  refine ⟨_, rfl, series.rules_eq, faithful.withRejections unit.rejections, ?_, rfl⟩
  rw [Batch.append, rejected]

/-- Converting units gives a faithful batch of all their outcomes, which are shared out among
the units, by induction on the units.
-/
theorem convertUnits_gives (env : Environment) (negations : List Rule) (pool : IdPool)
    (units : List ScannedUnit)
    : Gives env pool (units.flatMap (queue negations)) (fun outcomes batch =>
        Faithful outcomes batch ∧ ∃ shares, shares.flatten = outcomes
          ∧ shares.map (·.map Outcome.rule) = units.map (queue negations)
          ∧ batch.rejections = allRejections units shares ∧ batch = Batch.ofUnits units shares)
        (convertUnits env negations pool units) := by
  induction units generalizing pool with
  | nil => exact ⟨[], .nil, .empty, [], rfl, rfl, rfl, rfl⟩
  | cons unit units ih =>
      rw [convertUnits, List.flatMap_cons]
      refine (convertUnit_gives env negations pool unit).append ih ?_
      rintro outcomes _ _ _ ⟨own, faithful, rejected, rfl⟩
        ⟨account, shares, rfl, rules, refused, rfl⟩
      refine ⟨faithful.append account, outcomes :: shares, rfl, ?_, ?_, rfl⟩
      · rw [List.map_cons, own, rules, List.map_cons]
      · simp only [Batch.append, rejected, refused, allRejections, List.zip_cons_cons,
          List.flatMap_cons]

end Blocklist.Conversion
