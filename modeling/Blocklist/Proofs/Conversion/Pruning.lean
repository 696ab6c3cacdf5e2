import Blocklist.Proofs.Conversion.Accounting
import Blocklist.Proofs.Conversion.Relabelling
import Mathlib.Data.List.Forall2
import Mathlib.Logic.Equiv.Basic

/-! Runs without rules that are rejected anyway. Such rules take ids, and so do rules of
earlier runs, but no decision looks at the value of an id: two runs that differ in these
respects only give the same output under other ids.
-/

namespace Blocklist

open Declarative

/-- A list without some of the items that may go. -/
inductive Pruned {α : Type} (mayGo : α → Prop) : List α → List α → Prop
  | nil : Pruned mayGo [] []
  | keep {item : α} {items kept : List α} (rest : Pruned mayGo items kept)
      : Pruned mayGo (item :: items) (item :: kept)
  | drop {item : α} {items kept : List α} (goes : mayGo item) (rest : Pruned mayGo items kept)
      : Pruned mayGo (item :: items) kept

namespace Pruned

variable {α β : Type} {mayGo : α → Prop} {items kept more left : List α}

theorem append (first : Pruned mayGo items kept) (second : Pruned mayGo more left)
    : Pruned mayGo (items ++ more) (kept ++ left) := by
  induction first with
  | nil => exact second
  | keep _ ih => exact .keep ih
  | drop goes _ ih => exact .drop goes ih

theorem filter (test : α → Bool) (pruned : Pruned mayGo items kept)
    : Pruned mayGo (items.filter test) (kept.filter test) := by
  induction pruned with
  | nil => exact .nil
  | @keep item _ _ _ ih =>
      by_cases passes : test item = true
      · rw [List.filter_cons_of_pos passes, List.filter_cons_of_pos passes]
        exact .keep ih
      · rw [List.filter_cons_of_neg passes, List.filter_cons_of_neg passes]
        exact ih
  | @drop item _ _ goes _ ih =>
      by_cases passes : test item = true
      · rw [List.filter_cons_of_pos passes]
        exact .drop goes ih
      · rw [List.filter_cons_of_neg passes]
        exact ih

theorem sublist (pruned : Pruned mayGo items kept) : kept.Sublist items := by
  induction pruned with
  | nil => exact .slnil
  | keep _ ih => exact ih.cons_cons _
  | drop _ _ ih => exact ih.cons _

/-- Items that lead to nothing leave no trace when they go. -/
theorem filterMap_eq {result? : α → Option β} (pruned : Pruned mayGo items kept)
    (nothing : ∀ item, mayGo item → result? item = none)
    : kept.filterMap result? = items.filterMap result? := by
  induction pruned with
  | nil => rfl
  | keep _ ih => rw [List.filterMap_cons, List.filterMap_cons, ih]
  | drop goes _ ih => rw [List.filterMap_cons, nothing _ goes, ih]

theorem imp_of_mem {other : α → Prop} (pruned : Pruned mayGo items kept)
    (goes : ∀ item ∈ items, mayGo item → other item)
    : Pruned other items kept := by
  induction pruned with
  | nil => exact .nil
  | keep _ ih => exact .keep (ih fun item member => goes item (List.mem_cons_of_mem _ member))
  | drop own _ ih =>
      refine .drop (goes _ List.mem_cons_self own) ?_
      exact ih fun item member => goes item (List.mem_cons_of_mem _ member)

/-- What is pruned from the images is pruned from the items. -/
theorem of_map {image : β → α} {sources : List β}
    (pruned : Pruned mayGo (sources.map image) kept)
    : ∃ rest, Pruned (fun source => mayGo (image source)) sources rest
        ∧ rest.map image = kept := by
  induction sources generalizing kept with
  | nil =>
      cases pruned
      exact ⟨[], .nil, rfl⟩
  | cons source sources ih =>
      cases pruned with
      | keep later =>
          obtain ⟨rest, below, rfl⟩ := ih later
          exact ⟨source :: rest, .keep below, rfl⟩
      | drop goes later =>
          obtain ⟨rest, below, rfl⟩ := ih later
          exact ⟨rest, .drop goes below, rfl⟩

theorem of_filter {test : α → Bool} (goes : ∀ item ∈ items, test item = false → mayGo item)
    : Pruned mayGo items (items.filter test) := by
  induction items with
  | nil => exact .nil
  | cons item items ih =>
      have below := ih fun other member => goes other (List.mem_cons_of_mem _ member)
      rw [List.filter_cons]
      split
      · exact .keep below
      · rename_i fails
        exact .drop (goes item List.mem_cons_self (Bool.of_not_eq_true fails)) below

end Pruned

/-- The same for the shares of a list. -/
theorem forall₂_pruned_of_map {α β : Type} {mayGo : α → Prop} {image : β → α}
    {shares : List (List β)} {kept : List (List α)}
    (pruned : List.Forall₂ (Pruned mayGo) (shares.map (List.map image)) kept)
    : ∃ rest, List.Forall₂ (Pruned fun source => mayGo (image source)) shares rest
        ∧ rest.map (List.map image) = kept := by
  induction shares generalizing kept with
  | nil =>
      cases pruned
      exact ⟨[], .nil, rfl⟩
  | cons share shares ih =>
      obtain ⟨_, later, own, below, rfl⟩ := List.forall₂_cons_left_iff.mp pruned
      obtain ⟨first, here, rfl⟩ := own.of_map
      obtain ⟨rest, there, rfl⟩ := ih below
      exact ⟨first :: rest, .cons here there, rfl⟩

theorem forall₂_pruned_flatten {α : Type} {mayGo : α → Prop} {shares kept : List (List α)}
    (pruned : List.Forall₂ (Pruned mayGo) shares kept)
    : Pruned mayGo shares.flatten kept.flatten := by
  induction pruned with
  | nil => exact .nil
  | cons own _ ih => exact own.append ih

end Blocklist

namespace Blocklist.Conversion

open Declarative

-----------------------------------------------------------------------------------------
-- One rule under any pool
-----------------------------------------------------------------------------------------

/-- A rule that its conversion rejects. -/
def Refused (env : Environment) (rule : Rule) : Prop :=
  ∃ pool rejection next, convertRule? env pool rule = some (.error rejection, next)

/-- The outcome of a rule with no id filled in. -/
def preview (env : Environment) (rule : Rule) : Outcome where
  rule := rule
  result :=
    match draft env rule with
    | .error rejection => .error rejection
    | .ok (action, condition) =>
      accept env rule { id := 0, priority := rule.priority, action, condition }

/-- Whether a record is accepted does not depend on its id. -/
theorem accept_relabel (env : Environment) (rule : Rule) (record : Record)
    (rename : UInt32 → UInt32)
    : Outcome.relabel rename ⟨rule, accept env rule record⟩
      = ⟨rule, accept env rule (record.relabel rename)⟩ := by
  have same : (record.relabel rename).condition = record.condition := rfl
  simp only [accept, same]
  split
  · rfl
  · split
    · rfl
    · split
      · rfl
      · split <;> rfl

variable {env : Environment} {pool pool' next final final' : IdPool} {rules : List Rule}

theorem convertRule?_preview {rule : Rule} {result : Except Rejection Record}
    (converted : convertRule? env pool rule = some (result, next))
    : Outcome.relabel (fun _ => 0) ⟨rule, result⟩ = preview env rule := by
  rw [convertRule?] at converted
  split at converted
  · rename_i rejection refused
    obtain ⟨rfl, rfl⟩ := Prod.mk.inj (Option.some.inj converted)
    simp only [Outcome.relabel, Rejection.relabel_unbound (draft_unbound refused), preview,
      refused]
  · rename_i action condition drafted
    obtain ⟨⟨id, pool⟩, allocated, same⟩ := Option.map_eq_some_iff.mp converted
    obtain ⟨rfl, rfl⟩ := Prod.mk.inj same
    rw [accept_relabel]
    simp only [preview, drafted, Record.relabel]

theorem Conversions.preview {outcomes : List Outcome}
    (series : Conversions env pool rules outcomes final)
    : ∀ outcome ∈ outcomes,
        outcome.relabel (fun _ => 0) = Conversion.preview env outcome.rule := by
  induction series with
  | nil => simp
  | cons converted _ ih =>
      exact List.forall_mem_cons.mpr ⟨convertRule?_preview converted, ih⟩

/-- Without their ids, outcomes that were converted under some pool depend on their rules
alone.
-/
theorem map_preview {outcomes : List Outcome}
    (converted : ∀ outcome ∈ outcomes,
      outcome.relabel (fun _ => 0) = Conversion.preview env outcome.rule)
    : outcomes.map (Outcome.relabel fun _ => 0)
      = (outcomes.map Outcome.rule).map (preview env) := by
  rw [List.map_map]
  exact List.map_congr_left converted

/-- A rule that is refused under one pool is refused under all. -/
theorem Conversions.refused {outcomes : List Outcome}
    (series : Conversions env pool rules outcomes final) {outcome : Outcome}
    (member : outcome ∈ outcomes) (refused : Refused env outcome.rule)
    : outcome.record? = none := by
  obtain ⟨other, rejection, next, converted⟩ := refused
  have alike := (series.preview outcome member).trans (convertRule?_preview converted).symm
  have none := congrArg Outcome.record? alike
  rw [Outcome.record?_relabel, Outcome.record?_relabel] at none
  exact Option.map_eq_none_iff.mp none

-----------------------------------------------------------------------------------------
-- Ids that take each other's place
-----------------------------------------------------------------------------------------

/-- Distinct ids can be renamed into as many others. Witness: by induction, a swap brings the
first id to its place and leaves the others alone.
-/
theorem exists_perm_map {ids others : List UInt32} (length : ids.length = others.length)
    (distinct : ids.Nodup) (apart : others.Nodup)
    : ∃ rename : Equiv.Perm UInt32, ids.map rename = others := by
  induction ids generalizing others with
  | nil =>
      obtain rfl := List.length_eq_zero_iff.mp length.symm
      exact ⟨Equiv.refl _, rfl⟩
  | cons id ids ih =>
      cases others with
      | nil => cases length
      | cons other others =>
          obtain ⟨fresh, distinct⟩ := List.nodup_cons.mp distinct
          obtain ⟨unused, apart⟩ := List.nodup_cons.mp apart
          obtain ⟨rename, rfl⟩ := ih (Nat.succ.inj length) distinct apart
          refine ⟨rename.trans (Equiv.swap (rename id) other), ?_⟩
          rw [List.map_cons, Equiv.trans_apply, Equiv.swap_apply_left]
          congr 1
          apply List.map_congr_left
          intro later member
          rw [Equiv.trans_apply]
          apply Equiv.swap_apply_of_ne_of_ne
          · intro same
            exact fresh (rename.injective same ▸ member)
          · intro same
            exact unused (same ▸ List.mem_map_of_mem member)

/-- Outcomes that differ in their ids only are renamed when their ids are, one by one. -/
theorem eq_map_relabel {rename : UInt32 → UInt32} {outcomes others : List Outcome}
    (alike : outcomes.map (Outcome.relabel fun _ => 0) = others.map (Outcome.relabel fun _ => 0))
    (ids : (outcomes.filterMap Outcome.id?).map rename = others.filterMap Outcome.id?)
    : others = outcomes.map (Outcome.relabel rename) := by
  induction outcomes generalizing others with
  | nil => exact List.map_eq_nil_iff.mp alike.symm
  | cons outcome outcomes ih =>
      cases others with
      | nil => cases alike
      | cons other others =>
          obtain ⟨first, rest⟩ := List.cons.inj alike
          -- without their ids the two are equal, so both have one or neither has
          have both : outcome.id?.map (fun _ => 0) = other.id?.map fun _ => (0 : UInt32) := by
            rw [← Outcome.id?_relabel, ← Outcome.id?_relabel, first]
          have parted : outcome.id?.map rename = other.id?
              ∧ (outcomes.filterMap Outcome.id?).map rename = others.filterMap Outcome.id? := by
            rw [List.filterMap_cons, List.filterMap_cons] at ids
            cases taken : outcome.id? with
            | none =>
                have free : other.id? = none := by simpa [taken] using both.symm
                rw [taken, free] at ids
                exact ⟨free.symm, ids⟩
            | some id =>
                cases held : other.id? with
                | none => simp [taken, held] at both
                | some new =>
                    rw [taken, held] at ids
                    obtain ⟨moved, later⟩ := List.cons.inj ids
                    exact ⟨congrArg some moved, later⟩
          rw [List.map_cons, ← ih rest parted.2, ← Outcome.eq_relabel first parted.1]

/-- Two series of the same rules differ by an injective renaming of their ids. -/
theorem exists_relabel {outcomes others : List Outcome}
    (alike : outcomes.map (Outcome.relabel fun _ => 0) = others.map (Outcome.relabel fun _ => 0))
    (distinct : (outcomes.filterMap Outcome.id?).Nodup)
    (apart : (others.filterMap Outcome.id?).Nodup)
    : ∃ rename, Function.Injective rename ∧ others = outcomes.map (Outcome.relabel rename) := by
  have blank (outcomes : List Outcome)
      : (outcomes.map (Outcome.relabel fun _ => 0)).filterMap Outcome.id?
        = (outcomes.filterMap Outcome.id?).map fun _ => 0 := by
    rw [List.filterMap_map, List.map_filterMap]
    exact congrArg (List.filterMap · outcomes) (funext Outcome.id?_relabel)
  have length : (outcomes.filterMap Outcome.id?).length
      = (others.filterMap Outcome.id?).length := by
    have same := congrArg (fun outcomes => (outcomes.filterMap Outcome.id?).length) alike
    simpa only [blank, List.length_map] using same
  obtain ⟨rename, ids⟩ := exists_perm_map length distinct apart
  exact ⟨rename, rename.injective, eq_map_relabel alike ids⟩

-----------------------------------------------------------------------------------------
-- Rejected outcomes leave no trace in records and sources
-----------------------------------------------------------------------------------------

/-- Two batches hold the same records and source entries. -/
structure Batch.SameRecords (batch other : Batch) : Prop where
  records : other.records = batch.records
  sources : other.sources = batch.sources

namespace Batch

theorem SameRecords.append {batch other more left : Batch} (first : SameRecords batch other)
    (second : SameRecords more left)
    : SameRecords (batch.append more) (other.append left) where
  records := by simp only [Batch.append, first.records, second.records]
  sources := by simp only [Batch.append, first.sources, second.sources]

theorem ofOutcomes_pruned {outcomes kept : List Outcome}
    (pruned : Pruned (fun outcome => outcome.record? = none) outcomes kept)
    : SameRecords (ofOutcomes outcomes) (ofOutcomes kept) where
  records := pruned.filterMap_eq fun _ rejected => rejected
  sources := pruned.filterMap_eq fun _ rejected => by
    rw [Outcome.source?, rejected, Option.map_none]

theorem assemble_pruned (group : Group) {outcomes kept : List Outcome}
    (pruned : Pruned (fun outcome => outcome.record? = none) outcomes kept)
    : SameRecords (assemble group outcomes) (assemble group kept) := by
  have same := ofOutcomes_pruned pruned
  rw [assemble, assemble]
  cases group.merge? with
  | none => exact same
  | some merge => exact ⟨by simp only [same.records], by simp only [same.records, same.sources]⟩

theorem ofGroups_pruned {outcomes kept : List Outcome} (groups : List Group)
    (pruned : Pruned (fun outcome => outcome.record? = none) outcomes kept)
    : SameRecords (ofGroups outcomes groups) (ofGroups kept groups) := by
  induction groups with
  | nil => exact ⟨rfl, rfl⟩
  | cons group groups ih => exact (assemble_pruned group (pruned.filter _)).append ih

theorem ofUnits_pruned (units : List ScannedUnit) {shares kept : List (List Outcome)}
    (pruned : List.Forall₂ (Pruned fun outcome => outcome.record? = none) shares kept)
    : SameRecords (ofUnits units shares) (ofUnits units kept) := by
  induction pruned generalizing units with
  | nil => exact ⟨rfl, rfl⟩
  | cons own _ ih =>
      cases units with
      | nil => exact ⟨rfl, rfl⟩
      | cons unit units =>
          have first := ofGroups_pruned Group.all own
          exact (SameRecords.append ⟨rfl, rfl⟩ first).append (ih units)

end Batch

-----------------------------------------------------------------------------------------
-- Units without refused rules
-----------------------------------------------------------------------------------------

/-- A unit without some of the rules that are refused; its negations stay. -/
structure PrunedUnit (env : Environment) (whole pruned : ScannedUnit) : Prop where
  unit : pruned.unit = whole.unit
  rules : Pruned (Refused env) whole.rules pruned.rules
  negations : pruned.negations = whole.negations
  rejections : pruned.rejections = whole.rejections

theorem PrunedUnit.queue {whole pruned : ScannedUnit} (deleted : PrunedUnit env whole pruned)
    (negations : List Rule)
    : Pruned (Refused env) (queue negations whole) (queue negations pruned) := by
  rw [Conversion.queue, Conversion.queue]
  induction convertedGroups with
  | nil => exact .nil
  | cons group groups ih => exact (deleted.rules.filter _).append ih

section

variable {units pruned : List ScannedUnit}

theorem queues_pruned (deleted : List.Forall₂ (PrunedUnit env) units pruned)
    (negations : List Rule)
    : List.Forall₂ (Pruned (Refused env)) (units.map (queue negations))
        (pruned.map (queue negations)) := by
  rw [List.forall₂_map_left_iff, List.forall₂_map_right_iff]
  exact deleted.imp fun _ _ unit => unit.queue negations

theorem pooledNegations_pruned (deleted : List.Forall₂ (PrunedUnit env) units pruned)
    : pooledNegations pruned = pooledNegations units := by
  induction deleted with
  | nil => rfl
  | cons unit _ ih =>
      simp only [pooledNegations, List.flatMap_cons, unit.negations] at ih ⊢
      rw [ih]

theorem rejections_pruned (deleted : List.Forall₂ (PrunedUnit env) units pruned)
    : pruned.map ScannedUnit.rejections = units.map ScannedUnit.rejections := by
  induction deleted with
  | nil => rfl
  | cons unit _ ih => rw [List.map_cons, List.map_cons, unit.rejections, ih]

theorem unbound_pruned (deleted : List.Forall₂ (PrunedUnit env) units pruned)
    (scanned : ∀ unit ∈ units, ∀ rejection ∈ unit.rejections, rejection.recordId? = none)
    : ∀ unit ∈ pruned, ∀ rejection ∈ unit.rejections, rejection.recordId? = none := by
  intro unit member rejection listed
  have known := List.mem_map_of_mem (f := ScannedUnit.rejections) member
  rw [rejections_pruned deleted] at known
  obtain ⟨whole, inside, same⟩ := List.mem_map.mp known
  exact scanned whole inside rejection (same ▸ listed)

/-- Of the units only the rejections of their scans get into a batch. -/
theorem Batch.ofUnits_congr
    (same : pruned.map ScannedUnit.rejections = units.map ScannedUnit.rejections)
    (shares : List (List Outcome))
    : Batch.ofUnits pruned shares = Batch.ofUnits units shares := by
  have parts (units : List ScannedUnit)
      : Batch.ofUnits units shares
        = ((units.map ScannedUnit.rejections).zip shares).foldr (fun (rejections, own) more =>
            (Batch.append { rejections } (Batch.ofGroups own Group.all)).append more) {} := by
    rw [List.zip_map_left, List.foldr_map]
    rfl
  rw [parts, parts, same]

theorem allRejections_congr
    (same : pruned.map ScannedUnit.rejections = units.map ScannedUnit.rejections)
    (shares : List (List Outcome))
    : allRejections pruned shares = allRejections units shares := by
  have parts (units : List ScannedUnit)
      : allRejections units shares
        = ((units.map ScannedUnit.rejections).zip shares).flatMap fun (rejections, own) =>
            rejections ++ own.filterMap Outcome.rejection? := by
    rw [List.zip_map_left, List.flatMap_map]
    rfl
  rw [parts, parts, same]

-----------------------------------------------------------------------------------------
-- Two runs
-----------------------------------------------------------------------------------------

variable {output output' : Output} {outcomes others : List (List Outcome)}
  {batch batch' : Batch}

/-- The outcomes of the second run are those of the first under other ids, less some of the
refused rules.
-/
theorem Produced.outcomes_relabel (deleted : List.Forall₂ (PrunedUnit env) units pruned)
    (first : Produced env pool units output final outcomes batch)
    (second : Produced env pool' pruned output' final' others batch')
    : ∃ rename kept, Function.Injective rename
        ∧ List.Forall₂ (Pruned fun outcome => Refused env outcome.rule) outcomes kept
        ∧ kept.map (·.map Outcome.rule) = pruned.map (queue (pooledNegations units))
        ∧ others = kept.map (List.map (Outcome.relabel rename)) := by
  have queues := queues_pruned deleted (pooledNegations units)
  rw [← first.shares] at queues
  obtain ⟨kept, gone, rules⟩ := forall₂_pruned_of_map queues
  have shares : others.map (List.map Outcome.rule) = kept.map (List.map Outcome.rule) := by
    rw [rules, ← pooledNegations_pruned deleted]
    exact second.shares
  have flat : kept.flatten.map Outcome.rule = others.flatten.map Outcome.rule := by
    rw [List.map_flatten, List.map_flatten, shares]
  have part := (forall₂_pruned_flatten gone).sublist
  have alike : kept.flatten.map (Outcome.relabel fun _ => 0)
      = others.flatten.map (Outcome.relabel fun _ => 0) := by
    rw [map_preview second.series.preview, ← flat]
    exact map_preview fun outcome member => first.series.preview outcome (part.subset member)
  -- the ids of refused rules are lost with them, and those that are left are still distinct
  obtain ⟨rename, injective, same⟩ :=
    exists_relabel alike (first.series.ids.1.sublist (part.filterMap _)) second.series.ids.1
  refine ⟨rename, kept, injective, gone, rules, ?_⟩
  -- outcomes are shared out alike in both runs, since their rules are
  rw [List.eq_iff_flatten_eq]
  have lengths := congrArg (List.map List.length) shares
  simp only [List.map_map, Function.comp_def, List.length_map] at lengths ⊢
  exact ⟨by rw [same, List.map_flatten], lengths⟩

/-- The batch of the second run holds the records and source entries of the first under other
ids.
-/
theorem Produced.batch_relabel {rename : UInt32 → UInt32} {kept : List (List Outcome)}
    (deleted : List.Forall₂ (PrunedUnit env) units pruned)
    (scanned : ∀ unit ∈ units, ∀ rejection ∈ unit.rejections, rejection.recordId? = none)
    (first : Produced env pool units output final outcomes batch)
    (second : Produced env pool' pruned output' final' others batch')
    (injective : Function.Injective rename)
    (gone : List.Forall₂ (Pruned fun outcome => Refused env outcome.rule) outcomes kept)
    (same : others = kept.map (List.map (Outcome.relabel rename)))
    : batch'.records = batch.records.map (Record.relabel rename)
      ∧ batch'.sources = batch.sources.map (SourceEntry.relabel rename) := by
  have rejected
      : List.Forall₂ (Pruned fun outcome => outcome.record? = none) outcomes kept := by
    have inside : ∀ share ∈ outcomes, ∀ outcome ∈ share,
        Refused env outcome.rule → outcome.record? = none := fun share known outcome member =>
      first.series.refused (List.mem_flatten.mpr ⟨share, known, member⟩)
    exact ((List.forall₂_and_left _ _).mpr ⟨inside, gone⟩).imp fun share left both =>
      both.2.imp_of_mem both.1
  have whole : batch' = (Batch.ofUnits units kept).relabel rename := by
    rw [second.assembled, Batch.ofUnits_congr (rejections_pruned deleted), same,
      Batch.ofUnits_relabel injective scanned]
  have records := Batch.ofUnits_pruned units rejected
  rw [← first.assembled] at records
  rw [whole, Batch.relabel, records.records, records.sources]
  exact ⟨rfl, rfl⟩

end

/-- Rejected rules and the pool before a run sway nothing but ids. Take scanned units, and the
same units without any of the rules that their conversion refuses; let both runs, each under
its own pool, give an output. Then some injective renaming of ids turns the records, the
source map and the limitations of the first output into those of the second. The rejections
are renamed likewise, unit by unit, and only those of rules that were left out are missing.
-/
theorem run_unswayed_by_rejected_rules_and_pool {env : Environment}
    {pool pool' final final' : IdPool} {sources : List UnitText}
    {units pruned : List ScannedUnit} {output output' : Output}
    (scanned : units = sources.map UnitText.scan)
    (deleted : List.Forall₂ (PrunedUnit env) units pruned)
    (done : run env pool units = (.ok output, final))
    (again : run env pool' pruned = (.ok output', final'))
    : ∃ rename : UInt32 → UInt32, Function.Injective rename
        ∧ output'.records = output.records.map (Record.relabel rename)
        ∧ output'.sources = output.sources.map (SourceEntry.relabel rename)
        ∧ output'.limitations = output.limitations.map (Limitation.relabel rename)
        ∧ ∃ outcomes kept : List (List Outcome),
            outcomes.map (·.map Outcome.rule) = units.map (queue (pooledNegations units))
            ∧ kept.map (·.map Outcome.rule) = pruned.map (queue (pooledNegations units))
            ∧ Conversions env pool (units.flatMap (queue (pooledNegations units)))
                outcomes.flatten final
            ∧ List.Forall₂ (Pruned fun outcome => Refused env outcome.rule) outcomes kept
            ∧ output.rejections = allRejections units outcomes
            ∧ output'.rejections = (allRejections units kept).map (Rejection.relabel rename) := by
  have unbound := scanned_unbound scanned
  have spared := unbound_pruned deleted unbound
  obtain ⟨outcomes, batch, first⟩ := run_eq_ok done
  obtain ⟨others, batch', second⟩ := run_eq_ok again
  obtain ⟨rename, kept, injective, gone, rules, same⟩ := first.outcomes_relabel deleted second
  obtain ⟨records, entries⟩ :=
    first.batch_relabel deleted unbound second injective gone same
  have distinct := first.faithful.distinct first.series
  refine ⟨rename, injective, ?_, ?_, ?_, outcomes, kept, first.shares, rules, first.series, gone,
    first.rejections_eq unbound, ?_⟩
  · rw [second.output, first.output, records]
    exact Quota.apply_records_relabel ..
  · rw [second.output, first.output, records, entries]
    exact Quota.apply_sources_relabel _ _ injective _ _ _ distinct
  · rw [second.output, first.output, records, entries]
    exact Quota.apply_limitations_relabel _ _ injective _ _ _ distinct
  · rw [second.rejections_eq spared, allRejections_congr (rejections_pruned deleted), same,
      allRejections_relabel unbound]

/-- The unit without the rules of a text. -/
def leaveOut (text : String) (unit : ScannedUnit) : ScannedUnit :=
  { unit with rules := unit.rules.filter (·.text != text) }

theorem leaveOut_pruned {env : Environment} {text : String} {units : List ScannedUnit}
    (refused : ∀ unit ∈ units, ∀ rule ∈ unit.rules, rule.text = text
      → (convertRule? env .empty rule).any (·.1.toOption.isNone) = true)
    : List.Forall₂ (PrunedUnit env) units (units.map (leaveOut text)) := by
  rw [List.forall₂_map_right_iff, List.forall₂_same]
  intro unit known
  refine ⟨rfl, .of_filter ?_, rfl, rfl⟩
  intro rule member named
  have rejected := refused unit known rule member (by simpa using named)
  obtain ⟨⟨result, next⟩, converted, failed⟩ := (Option.any_eq_true _ _).mp rejected
  cases result with
  | ok record => cases failed
  | error rejection => exact ⟨.empty, rejection, next, converted⟩

/-- The ids that two of the rules would get, taken beforehand. -/
def takenBefore : IdPool :=
  ⟨[162349722, 1863484156]⟩

/-- One rule is left out and one rejection is missing, a record and an excluded entry get other
ids, and all else stays.
-/
theorem run_unswayed_by_rejected_rule_and_taken_ids
    : ∃ units output output' final final',
        units = rulesOfEveryFate.map UnitText.scan
        ∧ run roomForOne .empty units = (.ok output, final)
        ∧ run roomForOne takenBefore (units.map (leaveOut "||c^$domain=*.d"))
          = (.ok output', final')
        ∧ output.records.map Record.id = [162349722] ∧ output.rejections.length = 2
        ∧ output'.records.map Record.id = [219588325] ∧ output'.rejections.length = 1
        ∧ ∃ rename : UInt32 → UInt32, Function.Injective rename
            ∧ output'.records = output.records.map (Record.relabel rename)
            ∧ output'.sources = output.sources.map (SourceEntry.relabel rename)
            ∧ output'.limitations = output.limitations.map (Limitation.relabel rename)
            ∧ ∃ outcomes kept : List (List Outcome),
                List.Forall₂ (Pruned fun outcome => Refused roomForOne outcome.rule) outcomes kept
                ∧ output.rejections = allRejections units outcomes
                ∧ output'.rejections
                  = (allRejections units kept).map (Rejection.relabel rename) := by
  obtain ⟨output, final, done, seen⟩ := exists_output (show
      (run roomForOne .empty (rulesOfEveryFate.map UnitText.scan)).1.toOption.map
        (fun output => (output.records.map Record.id, output.rejections.length))
      = some ([162349722], 2) by decide +kernel)
  obtain ⟨output', final', again, seen'⟩ := exists_output (show
      (run roomForOne takenBefore ((rulesOfEveryFate.map UnitText.scan).map
        (leaveOut "||c^$domain=*.d"))).1.toOption.map
        (fun output => (output.records.map Record.id, output.rejections.length))
      = some ([219588325], 1) by decide +kernel)
  obtain ⟨ids, count⟩ := Prod.mk.inj seen
  obtain ⟨ids', count'⟩ := Prod.mk.inj seen'
  have deleted : List.Forall₂ (PrunedUnit roomForOne) (rulesOfEveryFate.map UnitText.scan)
      ((rulesOfEveryFate.map UnitText.scan).map (leaveOut "||c^$domain=*.d")) :=
    leaveOut_pruned (by decide +kernel)
  obtain ⟨rename, injective, records, entries, limitations, outcomes, kept, -, -, -, gone,
    rejections, rejections'⟩ := run_unswayed_by_rejected_rules_and_pool rfl deleted done again
  exact ⟨_, output, output', final, final', rfl, done, again, ids, count, ids', count', rename,
    injective, records, entries, limitations, outcomes, kept, gone, rejections, rejections'⟩

end Blocklist.Conversion
