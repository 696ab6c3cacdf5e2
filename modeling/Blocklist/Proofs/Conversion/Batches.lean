import Blocklist.Proofs.Conversion.Outcomes
import Blocklist.Proofs.Keys
import Blocklist.Proofs.Merge.Run
import Mathlib.Data.List.Nodup

/-! Batches and the outcomes they stand for. A batch is faithful when its records and source
entries tell apart and account for all accepted rules, merged ones included.
-/

namespace Blocklist

open Declarative

/-- The action of a record without what its group may merge; all of it when the group merges
nothing.
-/
def Group.clearAction (group : Group) (action : Action) : Action :=
  match group.merge? with
  | some merge => merge.clearAction action
  | none => action

namespace Conversion

/-- The source entry of an accepted rule. -/
def Outcome.source? (outcome : Outcome) : Option SourceEntry :=
  outcome.record?.map fun record => SourceEntry.ofOrigin record.id outcome.rule.origin

theorem Outcome.source?_eq_some {outcome : Outcome} {entry : SourceEntry}
    : outcome.source? = some entry
      ↔ ∃ record, outcome.record? = some record ∧ entry.id = record.id
          ∧ entry.place = outcome.place := by
  obtain ⟨id, unit, index⟩ := entry
  simp only [source?, Option.map_eq_some_iff, SourceEntry.ofOrigin, SourceEntry.place, place,
    Rule.place, SourceEntry.mk.injEq, Prod.mk.injEq]
  constructor
  · rintro ⟨record, accepted, rfl, rfl, rfl⟩
    exact ⟨record, accepted, rfl, rfl, rfl⟩
  · rintro ⟨record, accepted, rfl, rfl, rfl⟩
    exact ⟨record, accepted, rfl, rfl, rfl⟩

namespace Batch

/-- The batch of outcomes as they come. -/
def ofOutcomes (outcomes : List Outcome) : Batch where
  records := outcomes.filterMap Outcome.record?
  sources := outcomes.filterMap Outcome.source?
  rejections := outcomes.filterMap Outcome.rejection?

/-- The batch of the outcomes of one group, merged in the way of the group. -/
def assemble (group : Group) (outcomes : List Outcome) : Batch :=
  let batch := ofOutcomes outcomes
  match group.merge? with
  | none => batch
  | some merge =>
    { batch with
      records := (merge.families batch.records).map (Merge.Family.record merge)
      sources := (merge.families batch.records).flatMap (Merge.Family.sources batch.sources) }

theorem single_eq (rule : Rule) (result : Except Rejection Record)
    : single rule result = ofOutcomes [⟨rule, result⟩] := by
  cases result <;> rfl

theorem ofOutcomes_append (outcomes others : List Outcome)
    : (ofOutcomes outcomes).append (ofOutcomes others) = ofOutcomes (outcomes ++ others) := by
  simp only [append, ofOutcomes, List.filterMap_append]

/-- Merging rejects nothing. -/
theorem assemble_rejections (group : Group) (outcomes : List Outcome)
    : (assemble group outcomes).rejections = outcomes.filterMap Outcome.rejection? := by
  rw [assemble]
  split <;> rfl

end Batch

-----------------------------------------------------------------------------------------
-- Faithful batches
-----------------------------------------------------------------------------------------

/-- A record says what the record of a rule says, up to what the group of the rule may
merge.
-/
structure Represents (record own : Record) (group : Group) : Prop where
  priority : record.priority = own.priority
  action : group.clearAction record.action = group.clearAction own.action
  condition : record.condition = own.condition

/-- A batch accounts for outcomes: its ids are ids of accepted rules, each record has a
source entry, each entry leads from a record to an accepted rule that the record represents,
and the entries together name the place of every accepted rule as often as it occurs.
-/
structure Faithful (outcomes : List Outcome) (batch : Batch) : Prop where
  ids : (batch.records.map Record.id).Sublist
    ((outcomes.filterMap Outcome.record?).map Record.id)
  linked : ∀ record ∈ batch.records, ∃ entry ∈ batch.sources, entry.id = record.id
  traced
    : ∀ entry ∈ batch.sources,
        ∃ record ∈ batch.records, record.id = entry.id
          ∧ ∃ outcome ∈ outcomes, ∃ own, outcome.record? = some own
              ∧ outcome.place = entry.place ∧ Represents record own outcome.rule.group
  places : (batch.sources.map SourceEntry.place).Perm
    ((outcomes.filter (·.record?.isSome)).map Outcome.place)

theorem Faithful.empty : Faithful [] {} :=
  ⟨.slnil, by simp, by simp, .rfl⟩

theorem Faithful.append {outcomes others : List Outcome} {batch more : Batch}
    (first : Faithful outcomes batch) (second : Faithful others more)
    : Faithful (outcomes ++ others) (batch.append more) where
  ids := by
    simpa only [Batch.append, List.map_append, List.filterMap_append]
      using first.ids.append second.ids
  linked := by
    intro record member
    rcases List.mem_append.mp member with left | right
    · obtain ⟨entry, known, link⟩ := first.linked record left
      exact ⟨entry, List.mem_append_left _ known, link⟩
    · obtain ⟨entry, known, link⟩ := second.linked record right
      exact ⟨entry, List.mem_append_right _ known, link⟩
  traced := by
    intro entry member
    rcases List.mem_append.mp member with left | right
    · obtain ⟨record, kept, link, outcome, known, rest⟩ := first.traced entry left
      exact ⟨record, List.mem_append_left _ kept, link, outcome,
        List.mem_append_left _ known, rest⟩
    · obtain ⟨record, kept, link, outcome, known, rest⟩ := second.traced entry right
      exact ⟨record, List.mem_append_right _ kept, link, outcome,
        List.mem_append_right _ known, rest⟩
  places := by
    simpa only [Batch.append, List.map_append, List.filter_append]
      using first.places.append second.places

/-- Rejections of the scan change nothing about records and their sources. -/
theorem Faithful.withRejections {outcomes : List Outcome} {batch : Batch}
    (faithful : Faithful outcomes batch) (rejections : List Rejection)
    : Faithful outcomes (Batch.append { rejections } batch) :=
  ⟨faithful.ids, faithful.linked, faithful.traced, faithful.places⟩

/-- The entries of outcomes name the places of the accepted rules. -/
theorem ofOutcomes_places (outcomes : List Outcome)
    : (Batch.ofOutcomes outcomes).sources.map SourceEntry.place
      = (outcomes.filter (·.record?.isSome)).map Outcome.place := by
  induction outcomes with
  | nil => rfl
  | cons outcome outcomes ih =>
      simp only [Batch.ofOutcomes, List.filterMap_cons, List.filter_cons] at ih ⊢
      cases accepted : outcome.record? with
      | none => simpa [Outcome.source?, accepted] using ih
      | some record =>
          simp only [Outcome.source?, accepted, Option.map_some, Option.isSome_some, if_true,
            List.map_cons, ← ih]
          rfl

/-- Each record of outcomes has the entry of its rule. -/
theorem ofOutcomes_linked {outcomes : List Outcome} {record : Record}
    (member : record ∈ (Batch.ofOutcomes outcomes).records)
    : ∃ entry ∈ (Batch.ofOutcomes outcomes).sources, entry.id = record.id := by
  obtain ⟨outcome, known, accepted⟩ := List.mem_filterMap.mp member
  refine ⟨SourceEntry.ofOrigin record.id outcome.rule.origin, ?_, rfl⟩
  exact List.mem_filterMap.mpr ⟨outcome, known, by simp [Outcome.source?, accepted]⟩

theorem ofOutcomes_sourced {outcomes : List Outcome}
    (distinct : ((outcomes.filterMap Outcome.record?).map Record.id).Nodup)
    : Merge.Sourced (Batch.ofOutcomes outcomes).sources (Batch.ofOutcomes outcomes).records :=
  ⟨fun _ member => ofOutcomes_linked member, distinct⟩

/-- Every entry of outcomes leads to an accepted rule. -/
theorem ofOutcomes_traced {outcomes : List Outcome} {entry : SourceEntry}
    (member : entry ∈ (Batch.ofOutcomes outcomes).sources)
    : ∃ outcome ∈ outcomes, ∃ own, outcome.record? = some own ∧ own.id = entry.id
        ∧ outcome.place = entry.place := by
  obtain ⟨outcome, known, sourced⟩ := List.mem_filterMap.mp member
  obtain ⟨own, accepted, link, same⟩ := Outcome.source?_eq_some.mp sourced
  exact ⟨outcome, known, own, accepted, link.symm, same.symm⟩

/-- Outcomes that are not merged are accounted for by their own records. -/
theorem ofOutcomes_faithful (outcomes : List Outcome)
    : Faithful outcomes (Batch.ofOutcomes outcomes) where
  ids := .refl _
  linked := fun _ member => ofOutcomes_linked member
  traced := by
    intro entry member
    obtain ⟨outcome, known, own, accepted, link, same⟩ := ofOutcomes_traced member
    exact ⟨own, List.mem_filterMap.mpr ⟨outcome, known, accepted⟩, link, outcome, known, own,
      accepted, same, rfl, rfl, rfl⟩
  places := .of_eq (ofOutcomes_places outcomes)

theorem family_places (entries : List SourceEntry) (family : Merge.Family)
    : (family.sources entries).map SourceEntry.place
      = (family.members.flatMap fun record => SourceEntry.ofRecord entries record.id).map
          SourceEntry.place := by
  simp only [Merge.Family.sources, List.map_flatMap, List.map_map]
  rfl

/-- Records with distinct ids share out a source map that links no other record. -/
theorem ofRecord_perm {entries : List SourceEntry} {records : List Record}
    (distinct : (records.map Record.id).Nodup)
    (covered : ∀ entry ∈ entries, ∃ record ∈ records, record.id = entry.id)
    : (records.flatMap fun record => SourceEntry.ofRecord entries record.id).Perm entries := by
  have parted := flatMap_filter_perm SourceEntry.id (records.map Record.id) entries distinct
    fun entry member => List.mem_map.mpr (covered entry member)
  rwa [List.flatMap_map] at parted

/-- The families of sourced records name every place that the source map names. -/
theorem families_places {merge : Merge} {entries : List SourceEntry} {records : List Record}
    (distinct : (records.map Record.id).Nodup)
    (covered : ∀ entry ∈ entries, ∃ record ∈ records, record.id = entry.id)
    : (((merge.families records).flatMap (Merge.Family.sources entries)).map
        SourceEntry.place).Perm (entries.map SourceEntry.place) := by
  have regrouped : ((merge.families records).flatMap (Merge.Family.sources entries)).map
        SourceEntry.place
      = (((merge.families records).flatMap Merge.Family.members).flatMap fun record =>
          SourceEntry.ofRecord entries record.id).map SourceEntry.place := by
    simp only [List.map_flatMap, List.flatMap_assoc, family_places]
  have shared := (merge.families_perm records).flatMap_right fun record =>
    SourceEntry.ofRecord entries record.id
  rw [regrouped]
  exact (shared.trans (ofRecord_perm distinct covered)).map SourceEntry.place

/-- Merged outcomes are accounted for by the records of their families. Witness: an entry of
a family comes from one of its members, whose template is that of the merged record.
-/
theorem families_faithful {group : Group} {merge : Merge} {outcomes : List Outcome}
    (merges : group.merge? = some merge)
    (grouped : ∀ outcome ∈ outcomes, outcome.rule.group = group)
    (distinct : ((outcomes.filterMap Outcome.record?).map Record.id).Nodup)
    : Faithful outcomes (Batch.assemble group outcomes) := by
  rw [Batch.assemble]
  simp only [merges]
  refine ⟨?_, ?_, ?_, ?_⟩
  · have firsts := (merge.families_firsts (outcomes.filterMap Outcome.record?)).map Record.id
    simp only [List.map_map, Function.comp_def, Merge.Family.record_id] at firsts ⊢
    exact firsts
  · intro record member
    obtain ⟨family, known, rfl⟩ := List.mem_map.mp member
    have first : family.first ∈ outcomes.filterMap Outcome.record? :=
      (merge.families_firsts _).subset (List.mem_map_of_mem known)
    obtain ⟨entry, sourced, link⟩ := ofOutcomes_linked first
    refine ⟨{ entry with id := family.first.id }, ?_, (family.record_id merge).symm⟩
    refine List.mem_flatMap.mpr ⟨family, known, List.mem_flatMap.mpr ⟨family.first, ?_, ?_⟩⟩
    · exact List.mem_cons_self
    · exact List.mem_map_of_mem (SourceEntry.mem_ofRecord.mpr ⟨sourced, link⟩)
  · intro entry member
    obtain ⟨family, known, inside⟩ := List.mem_flatMap.mp member
    obtain ⟨part, belongs, relinked⟩ := List.mem_flatMap.mp inside
    obtain ⟨original, found, rfl⟩ := List.mem_map.mp relinked
    obtain ⟨sourced, link⟩ := SourceEntry.mem_ofRecord.mp found
    obtain ⟨outcome, held, own, accepted, same, place⟩ := ofOutcomes_traced sourced
    rw [Merge.families_members known] at belongs
    obtain ⟨listed, template⟩ := List.mem_filter.mp belongs
    have own_eq : own = part :=
      List.inj_on_of_nodup_map distinct (List.mem_filterMap.mpr ⟨outcome, held, accepted⟩)
        listed (same.trans link)
    have agrees := (Merge.families_coherent known).template.trans (of_decide_eq_true template).symm
    obtain ⟨priority, action, condition⟩ := (merge.template_eq_iff _ _).mp agrees
    refine ⟨family.record merge, List.mem_map_of_mem known, family.record_id merge, outcome,
      held, own, accepted, place, ?_⟩
    rw [own_eq, grouped outcome held]
    exact ⟨priority, by simpa only [Group.clearAction, merges] using action, condition⟩
  · refine (families_places distinct ?_).trans (.of_eq (ofOutcomes_places outcomes))
    intro entry member
    obtain ⟨outcome, known, own, accepted, link, -⟩ := ofOutcomes_traced member
    exact ⟨own, List.mem_filterMap.mpr ⟨outcome, known, accepted⟩, link⟩

/-- The batch of a group accounts for its outcomes, merged or not. -/
theorem assemble_faithful {group : Group} {outcomes : List Outcome}
    (grouped : ∀ outcome ∈ outcomes, outcome.rule.group = group)
    (distinct : ((outcomes.filterMap Outcome.record?).map Record.id).Nodup)
    : Faithful outcomes (Batch.assemble group outcomes) := by
  cases merges : group.merge? with
  | none =>
      rw [Batch.assemble]
      simp only [merges]
      exact ofOutcomes_faithful outcomes
  | some merge => exact families_faithful merges grouped distinct

end Conversion

end Blocklist
