import Blocklist.Proofs.Conversion.Units
import Blocklist.Proofs.Quota.Reports

/-! Other ids for the same records. Merging and the quotas only ask whether ids are equal, so
an injective renaming of the ids goes in at one end of a run and comes out at the other.
-/

namespace Blocklist

open Declarative

/-- The record under another id. -/
def Declarative.Record.relabel (rename : UInt32 → UInt32) (record : Record) : Record :=
  { record with id := rename record.id }

/-- The entry with its record under another id. -/
def SourceEntry.relabel (rename : UInt32 → UInt32) (entry : SourceEntry) : SourceEntry :=
  { entry with id := rename entry.id }

/-- The rejection with the record it is bound to under another id. -/
def Rejection.relabel (rename : UInt32 → UInt32) : Rejection → Rejection
  | emptyResources rule record => emptyResources rule (record.relabel rename)
  | emptyDomains rule record => emptyDomains rule (record.relabel rename)
  | unsupportedRegex rule record reason => unsupportedRegex rule (record.relabel rename) reason
  | rejection => rejection

/-- The limitation with the excluded entries under other ids. -/
def Limitation.relabel (rename : UInt32 → UInt32) (limitation : Limitation) : Limitation :=
  { limitation with excluded := limitation.excluded.map (SourceEntry.relabel rename) }

variable {rename : UInt32 → UInt32}

theorem SourceEntry.ofRecord_relabel (injective : Function.Injective rename)
    (entries : List SourceEntry) (id : UInt32)
    : ofRecord (entries.map (relabel rename)) (rename id)
      = (ofRecord entries id).map (relabel rename) := by
  rw [ofRecord, ofRecord, List.filter_map]
  congr 1
  apply List.filter_congr
  intro entry _
  rw [Bool.eq_iff_iff]
  simp [relabel, injective.eq_iff]

namespace Rejection

theorem recordId?_relabel (rejection : Rejection)
    : (rejection.relabel rename).recordId? = rejection.recordId?.map rename := by
  cases rejection <;> rfl

theorem relabel_relabel (rename other : UInt32 → UInt32) (rejection : Rejection)
    : (rejection.relabel rename).relabel other = rejection.relabel (other ∘ rename) := by
  cases rejection <;> rfl

/-- Only what becomes of the id of its record makes a difference to a rejection. -/
theorem relabel_congr {other : UInt32 → UInt32} {rejection : Rejection}
    (same : ∀ id ∈ rejection.recordId?, rename id = other id)
    : rejection.relabel rename = rejection.relabel other := by
  cases rejection with
  | emptyResources rule record
  | emptyDomains rule record
  | unsupportedRegex rule record reason =>
      simp only [relabel, Record.relabel, same record.id rfl]
  | _ => rfl

theorem relabel_id (rejection : Rejection) : rejection.relabel id = rejection := by
  cases rejection <;> rfl

theorem relabel_unbound {rejection : Rejection} (unbound : rejection.recordId? = none)
    : rejection.relabel rename = rejection := by
  have same : rejection.relabel rename = rejection.relabel id :=
    relabel_congr (by simp [unbound])
  rw [same, relabel_id]

theorem map_relabel_unbound {rejections : List Rejection}
    (unbound : ∀ rejection ∈ rejections, rejection.recordId? = none)
    : rejections.map (relabel rename) = rejections := by
  have same : rejections.map (relabel rename) = rejections.map id :=
    List.map_congr_left fun rejection member => relabel_unbound (unbound rejection member)
  rw [same, List.map_id]

end Rejection

-----------------------------------------------------------------------------------------
-- Merging
-----------------------------------------------------------------------------------------

namespace Merge

/-- A family under other ids. -/
def Family.relabel (rename : UInt32 → UInt32) (family : Family) : Family :=
  ⟨family.first.relabel rename, family.rest.map (Record.relabel rename)⟩

/-- Templates do not tell ids, so records find their families under any ids. -/
theorem place_relabel (merge : Merge) (record : Record) (families : List Family)
    : merge.place (record.relabel rename) (families.map (Family.relabel rename))
      = (merge.place record families).map (Family.relabel rename) := by
  induction families with
  | nil => rfl
  | cons family families ih =>
      have first : merge.template (family.relabel rename).first = merge.template family.first := rfl
      have own : merge.template (record.relabel rename) = merge.template record := rfl
      rw [List.map_cons, place, place, first, own]
      split
      · simp [Family.relabel]
      · rw [List.map_cons, ih]

theorem families_relabel (merge : Merge) (records : List Record)
    : merge.families (records.map (Record.relabel rename))
      = (merge.families records).map (Family.relabel rename) := by
  induction records using List.reverseRecOn with
  | nil => rfl
  | append_singleton records record ih =>
      rw [List.map_append, List.map_singleton, families_snoc, families_snoc, ih, place_relabel]

theorem Family.record_relabel (merge : Merge) (family : Family)
    : (family.relabel rename).record merge = (family.record merge).relabel rename := by
  obtain ⟨first, rest⟩ := family
  simp only [record, relabel]
  induction rest generalizing first with
  | nil => rfl
  | cons record rest ih => exact ih (merge.combine first record)

theorem Family.sources_relabel (injective : Function.Injective rename)
    (entries : List SourceEntry) (family : Family)
    : (family.relabel rename).sources (entries.map (SourceEntry.relabel rename))
      = (family.sources entries).map (SourceEntry.relabel rename) := by
  have members : (family.relabel rename).members = family.members.map (Record.relabel rename) :=
    rfl
  rw [sources, sources, members, List.flatMap_map, List.map_flatMap]
  apply List.flatMap_congr
  intro record _
  have own : (record.relabel rename).id = rename record.id := rfl
  rw [own, SourceEntry.ofRecord_relabel injective, List.map_map, List.map_map]
  rfl

end Merge

-----------------------------------------------------------------------------------------
-- Quotas
-----------------------------------------------------------------------------------------

namespace Quota

variable (settings : Settings) (records : List Record)

/-- A test that no id sways selects the same positions. -/
theorem selected_relabel {test other : Nat → Record → Bool}
    (same : ∀ position record, test position (record.relabel rename) = other position record)
    : selected test (records.map (Record.relabel rename))
      = (selected other records).map (Record.relabel rename) := by
  simp only [selected, List.zipIdx_map, List.filter_map, List.map_map, Function.comp_def,
    Prod.map_fst, Prod.map_snd, id, same]

theorem overUnsafe_relabel (position : Nat) (record : Record)
    : OverUnsafe settings (records.map (Record.relabel rename)) position (record.relabel rename)
      ↔ OverUnsafe settings records position record := by
  have count : ((records.map (Record.relabel rename)).take (position + 1)).countP (·.isUnsafe)
      = (records.take (position + 1)).countP (·.isUnsafe) := by
    rw [← List.map_take, List.countP_map]
    rfl
  rw [OverUnsafe, OverUnsafe, count]
  rfl

theorem withinRules_relabel (position : Nat) (record : Record)
    : WithinRules settings (records.map (Record.relabel rename)) position
        (record.relabel rename)
      ↔ WithinRules settings records position record := by
  rw [withinRules_iff, withinRules_iff]
  simp only [overUnsafe_relabel]

theorem regexesUpTo_relabel (position : Nat)
    : regexesUpTo settings (records.map (Record.relabel rename)) position
      = regexesUpTo settings records position := by
  simp only [regexesUpTo, List.zipIdx_map, ← List.map_take, List.countP_map, Function.comp_def,
    Prod.map_fst, Prod.map_snd, id, withinRules_relabel]
  rfl

theorem withinRegex_relabel (position : Nat) (record : Record)
    : WithinRegex settings (records.map (Record.relabel rename)) position
        (record.relabel rename)
      ↔ WithinRegex settings records position record := by
  simp only [WithinRegex, regexesUpTo_relabel]
  rfl

theorem droppedBy_relabel (kind : QuotaKind)
    : droppedBy settings (records.map (Record.relabel rename)) kind
      = (droppedBy settings records kind).map (Record.relabel rename) := by
  apply selected_relabel
  intro position record
  rw [decide_eq_decide]
  cases kind with
  | unsafeRules => simp only [DroppedBy, overUnsafe_relabel]
  | rules => simp only [DroppedBy, overUnsafe_relabel]
  | regexRules =>
      simp only [DroppedBy, withinRules_relabel, regexesUpTo_relabel]
      rfl

theorem counted_relabel (kind : QuotaKind)
    : counted settings (records.map (Record.relabel rename)) kind
      = counted settings records kind := by
  cases kind with
  | unsafeRules => exact List.countP_map
  | rules => exact List.length_map _
  | regexRules =>
      have passed
          : selected (fun position record =>
                WithinRules settings (records.map (Record.relabel rename)) position record)
              (records.map (Record.relabel rename))
            = (selected (fun position record => WithinRules settings records position record)
                records).map (Record.relabel rename) := by
        apply selected_relabel
        intro position record
        rw [decide_eq_decide, withinRules_relabel]
      rw [counted, counted, passed, List.countP_map]
      rfl

theorem entriesOf_relabel (injective : Function.Injective rename) (sources : List SourceEntry)
    : entriesOf (sources.map (SourceEntry.relabel rename)) (records.map (Record.relabel rename))
      = (entriesOf sources records).map (SourceEntry.relabel rename) := by
  rw [entriesOf, entriesOf, List.flatMap_map, List.map_flatMap]
  exact List.flatMap_congr fun record _ => SourceEntry.ofRecord_relabel injective sources record.id

theorem limitation?_relabel (injective : Function.Injective rename)
    (sources : List SourceEntry) (kind : QuotaKind)
    : limitation? settings (records.map (Record.relabel rename))
        (sources.map (SourceEntry.relabel rename)) kind
      = (limitation? settings records sources kind).map (Limitation.relabel rename) := by
  rw [limitation?, limitation?, counted_relabel, droppedBy_relabel,
    entriesOf_relabel _ injective]
  cases limit? settings kind with
  | none => rfl
  | some limit =>
      simp only [Option.bind_some]
      split <;> rfl

theorem distinct_relabel {records : List Record} (injective : Function.Injective rename)
    (distinct : (records.map Record.id).Nodup)
    : ((records.map (Record.relabel rename)).map Record.id).Nodup := by
  have ids : (records.map (Record.relabel rename)).map Record.id
      = (records.map Record.id).map rename := by
    rw [List.map_map, List.map_map]
    rfl
  rw [ids]
  exact distinct.map injective

theorem apply_records_relabel (sources more : List SourceEntry)
    (rejections others : List Rejection)
    : (apply settings (records.map (Record.relabel rename)) more others).records
      = (apply settings records sources rejections).records.map (Record.relabel rename) := by
  rw [apply_records_eq, apply_records_eq]
  apply selected_relabel
  intro position record
  rw [decide_eq_decide, withinRules_relabel, withinRegex_relabel]

theorem apply_sources_relabel (injective : Function.Injective rename)
    (sources : List SourceEntry) (rejections others : List Rejection)
    (distinct : (records.map Record.id).Nodup)
    : (apply settings (records.map (Record.relabel rename))
        (sources.map (SourceEntry.relabel rename)) others).sources
      = (apply settings records sources rejections).sources.map
          (SourceEntry.relabel rename) := by
  rw [apply_sources _ _ _ distinct, apply_sources _ _ _ (distinct_relabel injective distinct),
    apply_records_relabel settings records sources _ rejections others]
  exact entriesOf_relabel _ injective sources

theorem apply_limitations_relabel (injective : Function.Injective rename)
    (sources : List SourceEntry) (rejections others : List Rejection)
    (distinct : (records.map Record.id).Nodup)
    : (apply settings (records.map (Record.relabel rename))
        (sources.map (SourceEntry.relabel rename)) others).limitations
      = (apply settings records sources rejections).limitations.map
          (Limitation.relabel rename) := by
  have parts (kind : QuotaKind)
      : (limitation? settings (records.map (Record.relabel rename))
          (sources.map (SourceEntry.relabel rename)) kind).toList
        = (limitation? settings records sources kind).toList.map (Limitation.relabel rename) := by
    rw [limitation?_relabel _ _ injective, Option.toList_map]
  rw [apply_limitations _ _ _ distinct,
    apply_limitations _ _ _ (distinct_relabel injective distinct), parts, parts, parts,
    List.map_append, List.map_append]

end Quota

-----------------------------------------------------------------------------------------
-- Outcomes and batches
-----------------------------------------------------------------------------------------

namespace Conversion

namespace Outcome

/-- The outcome with its record, or that of its rejection, under another id. -/
def relabel (rename : UInt32 → UInt32) (outcome : Outcome) : Outcome where
  rule := outcome.rule
  result :=
    match outcome.result with
    | .ok record => .ok (record.relabel rename)
    | .error rejection => .error (rejection.relabel rename)

theorem record?_relabel (outcome : Outcome)
    : (outcome.relabel rename).record? = outcome.record?.map (Record.relabel rename) := by
  obtain ⟨rule, result⟩ := outcome
  cases result <;> rfl

theorem source?_relabel (outcome : Outcome)
    : (outcome.relabel rename).source? = outcome.source?.map (SourceEntry.relabel rename) := by
  obtain ⟨rule, result⟩ := outcome
  cases result <;> rfl

theorem rejection?_relabel (outcome : Outcome)
    : (outcome.relabel rename).rejection?
      = outcome.rejection?.map (Rejection.relabel rename) := by
  obtain ⟨rule, result⟩ := outcome
  cases result <;> rfl

theorem id?_relabel (outcome : Outcome)
    : (outcome.relabel rename).id? = outcome.id?.map rename := by
  obtain ⟨rule, result⟩ := outcome
  cases result with
  | ok record => rfl
  | error rejection => exact rejection.recordId?_relabel

theorem relabel_relabel (rename other : UInt32 → UInt32) (outcome : Outcome)
    : (outcome.relabel rename).relabel other = outcome.relabel (other ∘ rename) := by
  obtain ⟨rule, result⟩ := outcome
  cases result with
  | ok record => rfl
  | error rejection => simp only [relabel, Rejection.relabel_relabel]

theorem relabel_congr {other : UInt32 → UInt32} {outcome : Outcome}
    (same : ∀ id ∈ outcome.id?, rename id = other id)
    : outcome.relabel rename = outcome.relabel other := by
  obtain ⟨rule, result⟩ := outcome
  cases result with
  | ok record => simp only [relabel, Record.relabel, same record.id rfl]
  | error rejection => simp only [relabel, Rejection.relabel_congr same]

theorem relabel_id (outcome : Outcome) : outcome.relabel id = outcome := by
  obtain ⟨rule, result⟩ := outcome
  cases result with
  | ok record => rfl
  | error rejection => simp only [relabel, Rejection.relabel_id]

/-- Outcomes that differ in their ids only are relabellings of each other. Witness: take the
ids away and put those of the second outcome in.
-/
theorem eq_relabel {outcome other : Outcome}
    (alike : outcome.relabel (fun _ => 0) = other.relabel fun _ => 0)
    (ids : outcome.id?.map rename = other.id?)
    : other = outcome.relabel rename := by
  cases taken : other.id? with
  | none =>
      have free : outcome.id? = none := Option.map_eq_none_iff.mp (ids.trans taken)
      calc other
        _ = other.relabel id := other.relabel_id.symm
        _ = other.relabel fun _ => 0 := relabel_congr (by simp [taken])
        _ = outcome.relabel fun _ => 0 := alike.symm
        _ = outcome.relabel rename := relabel_congr (by simp [free])
  | some id =>
      calc other
        _ = other.relabel fun old => old := other.relabel_id.symm
        _ = other.relabel fun _ => id := relabel_congr (by simp [taken])
        _ = (other.relabel fun _ => 0).relabel fun _ => id :=
            (other.relabel_relabel (fun _ => 0) fun _ => id).symm
        _ = (outcome.relabel fun _ => 0).relabel fun _ => id := by rw [alike]
        _ = outcome.relabel fun _ => id := outcome.relabel_relabel (fun _ => 0) fun _ => id
        _ = outcome.relabel rename := relabel_congr (by
            intro own held
            rw [held, taken] at ids
            exact (Option.some.inj ids).symm)

end Outcome

namespace Batch

/-- The batch under other ids. -/
def relabel (rename : UInt32 → UInt32) (batch : Batch) : Batch where
  records := batch.records.map (Record.relabel rename)
  sources := batch.sources.map (SourceEntry.relabel rename)
  rejections := batch.rejections.map (Rejection.relabel rename)

theorem append_relabel (batch more : Batch)
    : (batch.append more).relabel rename
      = (batch.relabel rename).append (more.relabel rename) := by
  simp only [append, relabel, List.map_append]

theorem ofOutcomes_relabel (outcomes : List Outcome)
    : ofOutcomes (outcomes.map (Outcome.relabel rename))
      = (ofOutcomes outcomes).relabel rename := by
  simp only [ofOutcomes, relabel, List.filterMap_map, List.map_filterMap, Function.comp_def,
    Outcome.record?_relabel, Outcome.source?_relabel, Outcome.rejection?_relabel]

theorem assemble_relabel (injective : Function.Injective rename) (group : Group)
    (outcomes : List Outcome)
    : assemble group (outcomes.map (Outcome.relabel rename))
      = (assemble group outcomes).relabel rename := by
  rw [assemble, assemble, ofOutcomes_relabel]
  cases group.merge? with
  | none => rfl
  | some merge =>
      simp only [relabel, Merge.families_relabel, List.map_map, List.flatMap_map,
        List.map_flatMap, Function.comp_def, Merge.Family.record_relabel,
        Merge.Family.sources_relabel injective]

theorem ofGroups_relabel (injective : Function.Injective rename) (outcomes : List Outcome)
    (groups : List Group)
    : ofGroups (outcomes.map (Outcome.relabel rename)) groups
      = (ofGroups outcomes groups).relabel rename := by
  induction groups with
  | nil => rfl
  | cons group groups ih =>
      have same : (outcomes.map (Outcome.relabel rename)).filter (·.rule.group == group)
          = (outcomes.filter (·.rule.group == group)).map (Outcome.relabel rename) :=
        List.filter_map
      rw [ofGroups, ofGroups, same, assemble_relabel injective, ih, append_relabel]

theorem ofUnits_relabel (injective : Function.Injective rename) {units : List ScannedUnit}
    (scanned : ∀ unit ∈ units, ∀ rejection ∈ unit.rejections, rejection.recordId? = none)
    (shares : List (List Outcome))
    : ofUnits units (shares.map (List.map (Outcome.relabel rename)))
      = (ofUnits units shares).relabel rename := by
  induction units generalizing shares with
  | nil => rfl
  | cons unit units ih =>
      cases shares with
      | nil => rfl
      | cons own shares =>
          have first : ofUnit unit (own.map (Outcome.relabel rename))
              = (ofUnit unit own).relabel rename := by
            rw [ofUnit, ofUnit, append_relabel, ofGroups_relabel injective]
            simp only [relabel, List.map_nil,
              Rejection.map_relabel_unbound (scanned unit List.mem_cons_self)]
          have rest := ih (fun other member => scanned other (List.mem_cons_of_mem _ member)) shares
          simp only [ofUnits, List.map_cons, List.zip_cons_cons, List.foldr_cons] at rest ⊢
          rw [first, rest, append_relabel]

end Batch

theorem allRejections_relabel {units : List ScannedUnit}
    (scanned : ∀ unit ∈ units, ∀ rejection ∈ unit.rejections, rejection.recordId? = none)
    (shares : List (List Outcome))
    : allRejections units (shares.map (List.map (Outcome.relabel rename)))
      = (allRejections units shares).map (Rejection.relabel rename) := by
  rw [allRejections, allRejections, List.zip_map_right, List.flatMap_map, List.map_flatMap]
  apply List.flatMap_congr
  rintro ⟨unit, own⟩ paired
  have unbound := scanned unit (List.of_mem_zip paired).1
  simp only [Prod.map_fst, Prod.map_snd, id, List.map_append, List.filterMap_map,
    List.map_filterMap, Function.comp_def, Outcome.rejection?_relabel,
    Rejection.map_relabel_unbound unbound]

end Conversion

end Blocklist
