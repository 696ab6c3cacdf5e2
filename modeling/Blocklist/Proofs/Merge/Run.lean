import Blocklist.Proofs.Merge.Families
import Blocklist.Proofs.SourceMap

/-! What a merge does to whole rulesets. It fails at the first record without source entries
of its own; otherwise its result is read off the families of the records.
-/

namespace Blocklist.Merge

open Declarative

-----------------------------------------------------------------------------------------
-- Records without source entries of their own
-----------------------------------------------------------------------------------------

/-- After the records `before`, nothing is left of the source map for a record: no entry
links it, or an earlier record with its id has used the entries up.
-/
def Orphan (entries : List SourceEntry) (before : List Record) (record : Record) : Prop :=
  (∀ entry ∈ entries, entry.id ≠ record.id) ∨ ∃ earlier ∈ before, earlier.id = record.id

/-- Every record has source entries, and no two records share an id. -/
structure Sourced (entries : List SourceEntry) (records : List Record) : Prop where
  linked : ∀ record ∈ records, ∃ entry ∈ entries, entry.id = record.id
  distinct : (records.map Record.id).Nodup

/-- A further record keeps records sourced exactly when it is no orphan among them. -/
theorem sourced_snoc {entries : List SourceEntry} {records : List Record} {record : Record}
    : Sourced entries (records ++ [record])
      ↔ Sourced entries records ∧ ¬Orphan entries records record := by
  constructor
  · rintro ⟨linked, distinct⟩
    rw [List.map_append, List.nodup_append] at distinct
    refine ⟨⟨fun other member => linked other (by simp [member]), distinct.1⟩, ?_⟩
    rintro (absent | ⟨earlier, member, same⟩)
    · obtain ⟨entry, known, link⟩ := linked record (by simp)
      exact absent entry known link
    · exact distinct.2.2 _ (List.mem_map_of_mem member) record.id (by simp) same
  · rintro ⟨⟨linked, distinct⟩, own⟩
    simp only [Orphan, not_or, not_forall, not_exists, not_and, not_not] at own
    obtain ⟨⟨entry, known, link⟩, fresh⟩ := own
    refine ⟨?_, ?_⟩
    · intro other member
      rcases List.mem_append.mp member with earlier | last
      · exact linked other earlier
      · exact ⟨entry, known, by rw [List.mem_singleton.mp last, link]⟩
    · rw [List.map_append, List.nodup_append]
      refine ⟨distinct, by simp, ?_⟩
      rintro id earlier other last rfl
      obtain ⟨first, member, same⟩ := List.mem_map.mp earlier
      exact fresh first member (same.trans (List.mem_singleton.mp last))

theorem Sourced.left {entries : List SourceEntry} {records more : List Record}
    (sourced : Sourced entries (records ++ more))
    : Sourced entries records := by
  obtain ⟨linked, distinct⟩ := sourced
  rw [List.map_append] at distinct
  refine ⟨fun record member => linked record ?_, (List.nodup_append.mp distinct).1⟩
  exact List.mem_append_left more member

/-- Records that are not sourced have a first orphan, by induction on the last record. -/
theorem exists_first_orphan {entries : List SourceEntry} {records : List Record}
    (unsourced : ¬Sourced entries records)
    : ∃ before record after, records = before ++ record :: after
        ∧ Sourced entries before ∧ Orphan entries before record := by
  induction records using List.reverseRecOn with
  | nil => exact absurd ⟨by simp, by simp⟩ unsourced
  | append_singleton records record ih =>
      by_cases sourced : Sourced entries records
      · refine ⟨records, record, [], rfl, sourced, ?_⟩
        by_contra own
        exact unsourced (sourced_snoc.mpr ⟨sourced, own⟩)
      · obtain ⟨before, first, after, split, rest⟩ := ih sourced
        exact ⟨before, first, after ++ [record], by simp [split], rest⟩

theorem sourced_iff {entries : List SourceEntry} {records : List Record}
    : Sourced entries records
      ↔ ∀ before record after, records = before ++ record :: after
          → ¬Orphan entries before record := by
  constructor
  · rintro sourced before record after rfl
    rw [List.append_cons] at sourced
    exact (sourced_snoc.mp sourced.left).2
  · intro own
    by_contra unsourced
    obtain ⟨before, record, after, split, -, orphan⟩ := exists_first_orphan unsourced
    exact own before record after split orphan

/-- The entries that no record of a list has used up. -/
def unclaimed (entries : List SourceEntry) (records : List Record) : List SourceEntry :=
  entries.filter fun entry => records.all (·.id != entry.id)

theorem unclaimed_snoc (entries : List SourceEntry) (records : List Record) (record : Record)
    : unclaimed entries (records ++ [record])
      = SourceEntry.withoutRecord (unclaimed entries records) record.id := by
  rw [unclaimed, unclaimed, SourceEntry.withoutRecord, List.filter_filter]
  apply List.filter_congr
  intro entry _
  have symmetric : (entry.id != record.id) = (record.id != entry.id) := bne_comm
  simp [Bool.and_comm, symmetric]

/-- A record finds its entries as long as no earlier record has its id. -/
theorem ofRecord_unclaimed {entries : List SourceEntry} {before : List Record}
    {record : Record} (own : ¬Orphan entries before record)
    : SourceEntry.ofRecord (unclaimed entries before) record.id
      = SourceEntry.ofRecord entries record.id := by
  rw [SourceEntry.ofRecord, unclaimed, List.filter_filter]
  apply List.filter_congr
  intro entry _
  by_cases linked : entry.id = record.id
  · have fresh : ∀ earlier ∈ before, earlier.id ≠ record.id :=
      fun earlier member same => own (Or.inr ⟨earlier, member, same⟩)
    simpa [linked] using fresh
  · simp [linked]

theorem ofRecord_unclaimed_isEmpty (entries : List SourceEntry) (before : List Record)
    (record : Record)
    : (SourceEntry.ofRecord (unclaimed entries before) record.id).isEmpty = true
      ↔ Orphan entries before record := by
  rw [List.isEmpty_iff, SourceEntry.ofRecord_eq_nil]
  constructor
  · intro absent
    by_contra own
    have same := ofRecord_unclaimed own
    rw [SourceEntry.ofRecord_eq_nil.mpr absent] at same
    exact own (Or.inl (SourceEntry.ofRecord_eq_nil.mp same.symm))
  · intro orphan entry member linked
    obtain ⟨known, free⟩ := List.mem_filter.mp member
    rcases orphan with absent | ⟨earlier, before, same⟩
    · exact absent entry known linked
    · have differs := List.all_eq_true.mp free earlier before
      simp [same, linked] at differs

-----------------------------------------------------------------------------------------
-- Insertion follows the families
-----------------------------------------------------------------------------------------

/-- Inserting a record into merged families is placing it among the families. -/
theorem insert_merged {merge : Merge} {entries : List SourceEntry} {record : Record}
    {families : List Family} (coherent : ∀ family ∈ families, family.Coherent merge)
    : merge.insert record (SourceEntry.ofRecord entries record.id)
        (families.map (Family.merged merge entries))
      = (merge.place record families).map (Family.merged merge entries) := by
  induction families with
  | nil =>
      simp [insert, place, Family.merged, Family.record, Family.sources, Family.members,
        SourceEntry.ofRecord_relink]
  | cons family families ih =>
      have below := ih fun other member => coherent other (by simp [member])
      have kept : merge.template (family.merged merge entries).record
          = merge.template family.first := (coherent family (by simp)).template
      rw [List.map_cons, insert, place, kept]
      split
      · simp [Family.merged, Family.record, Family.sources, Family.members,
          merge.foldl_combine_id]
      · rw [below, List.map_cons]

/-- Records that are sourced are taken in one after the other. Witness: induction on them;
`before` are the records already taken in, and the source map is what those left of it.
-/
theorem insertAll_append (merge : Merge) {entries : List SourceEntry}
    (before records rest : List Record) (sourced : Sourced entries (before ++ records))
    : merge.insertAll (unclaimed entries before)
        ((merge.families before).map (Family.merged merge entries)) (records ++ rest)
      = merge.insertAll (unclaimed entries (before ++ records))
          ((merge.families (before ++ records)).map (Family.merged merge entries)) rest := by
  induction records generalizing before with
  | nil => simp
  | cons record records ih =>
      rw [List.append_cons] at sourced
      have own := (sourced_snoc.mp sourced.left).2
      have found := mt (ofRecord_unclaimed_isEmpty entries before record).mp own
      have step := ih (before ++ [record]) sourced
      rw [unclaimed_snoc, families_snoc, ← insert_merged (fun _ => families_coherent)] at step
      rw [List.cons_append, insertAll, if_neg found, ofRecord_unclaimed own, step,
        ← List.append_cons]

/-- Sourced records merge to their families. -/
theorem run_of_sourced {merge : Merge} {entries : List SourceEntry} {records : List Record}
    (sourced : Sourced entries records)
    : merge.run records entries
      = .ok ((merge.families records).map (Family.record merge),
          (merge.families records).flatMap (Family.sources entries)) := by
  have whole := merge.insertAll_append [] records [] (by simpa using sourced)
  have start : unclaimed entries [] = entries := by simp [unclaimed]
  rw [start, List.append_nil, List.nil_append] at whole
  have merged : merge.insertAll entries [] records
      = .ok ((merge.families records).map (Family.merged merge entries)) := whole
  rw [run, merged]
  simp only [Except.map, List.map_map, List.flatMap_map]
  rfl

theorem run_of_orphan {merge : Merge} {entries : List SourceEntry}
    {before after : List Record} {record : Record} (sourced : Sourced entries before)
    (orphan : Orphan entries before record)
    : merge.run (before ++ record :: after) entries = .error ⟨record.id⟩ := by
  have whole := merge.insertAll_append [] before (record :: after) (by simpa using sourced)
  have start : unclaimed entries [] = entries := by simp [unclaimed]
  have none := (ofRecord_unclaimed_isEmpty entries before record).mpr orphan
  rw [start, List.nil_append, insertAll, if_pos none] at whole
  have failed : merge.insertAll entries [] (before ++ record :: after) = .error ⟨record.id⟩ :=
    whole
  rw [run, failed]
  rfl

theorem run_fails_iff (merge : Merge) (records : List Record) (entries : List SourceEntry)
    : (∃ missing, merge.run records entries = .error missing) ↔ ¬Sourced entries records := by
  constructor
  · rintro ⟨missing, failed⟩ sourced
    rw [run_of_sourced sourced] at failed
    cases failed
  · intro unsourced
    obtain ⟨before, record, after, rfl, sourced, orphan⟩ := exists_first_orphan unsourced
    exact ⟨_, run_of_orphan sourced orphan⟩

theorem sourced_of_run {merge : Merge} {records merged : List Record}
    {entries sources : List SourceEntry}
    (done : merge.run records entries = .ok (merged, sources))
    : Sourced entries records := by
  by_contra unsourced
  obtain ⟨missing, failed⟩ := (merge.run_fails_iff records entries).mpr unsourced
  rw [failed] at done
  cases done

/-- Merging by template. A merge fails exactly when some record is an orphan, and then it
names the first one. Otherwise it gives one record for each template, in order of first
occurrence: the records of that template, combined from left to right under the id of the
first. The source map lists, record by record, the entries of the combined records in their
order, each changed only in the record it links.
-/
theorem run_merges_by_template (merge : Merge) (records : List Record)
    (entries : List SourceEntry)
    : ((∃ missing, merge.run records entries = .error missing)
        ↔ ∃ before record after, records = before ++ record :: after
            ∧ Orphan entries before record)
      ∧ (∀ missing, merge.run records entries = .error missing
          ↔ ∃ before record after, records = before ++ record :: after
              ∧ (∀ earlier middle later, before = earlier ++ middle :: later
                  → ¬Orphan entries earlier middle)
              ∧ Orphan entries before record ∧ missing = ⟨record.id⟩)
      ∧ (∀ merged sources, merge.run records entries = .ok (merged, sources)
          → ∃ families : List Family,
              families.map (merge.template ·.first) = (records.map merge.template).eraseDups
              ∧ (∀ family ∈ families,
                  family.first :: family.rest
                    = records.filter (merge.template · = merge.template family.first))
              ∧ merged = families.map (fun family => family.rest.foldl merge.combine family.first)
              ∧ merged.map merge.template = (records.map merge.template).eraseDups
              ∧ merged.map Record.id = families.map (·.first.id)
              ∧ sources = families.flatMap (fun family =>
                  (family.first :: family.rest).flatMap fun record =>
                    (entries.filter (·.id == record.id)).map fun entry =>
                      { entry with id := family.first.id })) := by
  refine ⟨?_, ?_, ?_⟩
  · rw [run_fails_iff, sourced_iff]
    simp only [not_forall, not_not, exists_prop]
  · intro missing
    simp only [← sourced_iff]
    constructor
    · intro failed
      obtain ⟨before, record, after, rfl, sourced, orphan⟩ :=
        exists_first_orphan ((merge.run_fails_iff records entries).mp ⟨missing, failed⟩)
      rw [run_of_orphan sourced orphan, Except.error.injEq] at failed
      exact ⟨before, record, after, rfl, sourced, orphan, failed.symm⟩
    · rintro ⟨before, record, after, rfl, sourced, orphan, rfl⟩
      exact run_of_orphan sourced orphan
  · intro merged sources done
    have sourced : Sourced entries records := by
      by_contra unsourced
      obtain ⟨missing, failed⟩ := (merge.run_fails_iff records entries).mpr unsourced
      rw [failed] at done
      cases done
    rw [run_of_sourced sourced, Except.ok.injEq, Prod.mk.injEq] at done
    obtain ⟨rfl, rfl⟩ := done
    refine ⟨merge.families records, merge.families_templates records,
      fun family member => families_members member, rfl, ?_, ?_, rfl⟩
    · rw [← families_templates, List.map_map]
      exact List.map_congr_left fun family member => (families_coherent member).template
    · simp [Family.record_id]

end Blocklist.Merge
