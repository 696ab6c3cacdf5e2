import Blocklist.Proofs.Quota.Ledger
import Mathlib.Data.List.Nodup

/-! All quotas together. What is left and what is excluded account for the whole source map,
and the rejections that are bound to no record come through unchanged.
-/

namespace Blocklist.Quota

open Declarative

/-- One stage of the quotas: records are only left out, the ledger keeps what it holds of
those that are left, and the source entries of the others stand in new limitations.
-/
structure Narrows (before after : Passed) : Prop where
  records : after.records.Sublist before.records
  sources : ∀ record ∈ after.records,
    after.ledger.sourcesOf record.id = before.ledger.sourcesOf record.id
  rejections : ∀ record ∈ after.records,
    after.ledger.rejectionsOf record.id = before.ledger.rejectionsOf record.id
  account
    : ∃ more, after.limitations = before.limitations ++ more
        ∧ ((after.records.flatMap fun record => before.ledger.sourcesOf record.id)
            ++ more.flatMap Limitation.excluded).Perm
          (before.records.flatMap fun record => before.ledger.sourcesOf record.id)

theorem Narrows.refl (passed : Passed) : Narrows passed passed :=
  ⟨.refl _, fun _ _ => rfl, fun _ _ => rfl, [], by simp, by simp⟩

/-- Two stages in a row account for all that both leave out. -/
theorem Narrows.trans {before middle after : Passed} (first : Narrows before middle)
    (second : Narrows middle after)
    : Narrows before after where
  records := second.records.trans first.records
  sources := by
    intro record member
    exact (second.sources record member).trans
      (first.sources record (second.records.subset member))
  rejections := by
    intro record member
    exact (second.rejections record member).trans
      (first.rejections record (second.records.subset member))
  account := by
    obtain ⟨more, grown, left⟩ := first.account
    obtain ⟨others, longer, right⟩ := second.account
    refine ⟨more ++ others, by rw [longer, grown, List.append_assoc], ?_⟩
    have same (records : List Record) (inside : ∀ record ∈ records, record ∈ middle.records)
        : (records.flatMap fun record => middle.ledger.sourcesOf record.id)
          = records.flatMap fun record => before.ledger.sourcesOf record.id := by
      apply List.flatMap_congr
      intro record member
      exact first.sources record (inside record member)
    rw [same after.records fun _ member => second.records.subset member,
      same middle.records fun _ member => member] at right
    rw [List.flatMap_append]
    refine (List.perm_append_comm.append_left _).trans ?_
    rw [← List.append_assoc]
    exact (right.append_right _).trans left

/-- Verdicts on distinct records make a stage, once the new limitations exclude what the
records dropped for each reason give up.
-/
theorem narrows_of_verdicts {before : Passed} {verdicts : List (Record × Verdict)}
    {limitations more : List Limitation} (grown : limitations = before.limitations ++ more)
    (whole : verdicts.map Prod.fst = before.records)
    (distinct : (before.records.map Record.id).Nodup)
    (reported : more.flatMap Limitation.excluded
      = excludedBy .unsafeRules (settle before.ledger verdicts).1
        ++ (excludedBy .rules (settle before.ledger verdicts).1
          ++ excludedBy .regexRules (settle before.ledger verdicts).1))
    : Narrows before
        ⟨survivors verdicts, (settle before.ledger verdicts).2, limitations⟩ := by
  have unique := verdicts_distinct whole distinct
  -- a dropped record shares its id with no survivor, so settling leaves the survivors alone
  have spared (record : Record) (kept : record ∈ survivors verdicts)
      : ∀ given ∈ verdicts, given.2 ≠ .kept → given.1.id ≠ record.id := by
    intro given member out same
    obtain ⟨survivor, listed, rfl⟩ := List.mem_map.mp kept
    obtain ⟨known, stays⟩ := List.mem_filter.mp listed
    have equal := List.inj_on_of_nodup_map unique member known same
    exact out (equal ▸ beq_iff_eq.mp stays)
  refine ⟨whole ▸ survivors_sublist verdicts, ?_, ?_, more, grown, ?_⟩
  · exact fun record kept => (settle_ledger before.ledger verdicts (spared record kept)).1
  · exact fun record kept => (settle_ledger before.ledger verdicts (spared record kept)).2
  · rw [reported, excludedBy_settle _ _ _ unique, excludedBy_settle _ _ _ unique,
      excludedBy_settle _ _ _ unique, ← List.flatMap_append, ← List.flatMap_append,
      ← List.flatMap_append, ← whole]
    exact (verdicts_perm verdicts).flatMap_right _

/-- A report excludes what its quota excludes, provided that an unreported quota excludes
nothing.
-/
theorem report_excluded {kind : QuotaKind} {limit total : Nat}
    {entries : List (QuotaKind × SourceEntry)}
    (silent : total ≤ limit → excludedBy kind entries = [])
    : (report kind limit total entries).flatMap Limitation.excluded
      = excludedBy kind entries := by
  rw [report]
  split
  · simp
  · rename_i within
    rw [silent (by omega), List.flatMap_nil]

theorem limitRules_narrows (settings : Settings) (records : List Record) (ledger : Ledger)
    (distinct : (records.map Record.id).Nodup)
    : Narrows ⟨records, ledger, []⟩ (limitRules settings records ledger) := by
  rw [limitRules]
  split
  · exact .refl _
  · rename_i maxRules _
    have whole := positionVerdicts_records maxRules settings.maxUnsafeRules 0 0 records
    have unique := verdicts_distinct whole distinct
    refine narrows_of_verdicts (List.nil_append _).symm whole distinct ?_
    rw [List.flatMap_append, report_excluded,
      excludedBy_settle_eq_nil .regexRules unique (dropped_regex_eq_nil ..), List.append_nil]
    · congr 1
      cases limit : settings.maxUnsafeRules with
      | none =>
          rw [limit] at unique
          exact (excludedBy_settle_eq_nil _ unique (dropped_unsafe_eq_nil (by simp))).symm
      | some maxUnsafe =>
          rw [limit] at unique
          refine report_excluded fun within => excludedBy_settle_eq_nil _ unique ?_
          exact dropped_unsafe_eq_nil (by simpa using within)
    · exact fun within => excludedBy_settle_eq_nil _ unique (dropped_rules_eq_nil within)

theorem limitRegex_narrows (settings : Settings) (passed : Passed)
    (distinct : (passed.records.map Record.id).Nodup)
    : Narrows passed (limitRegex settings passed) := by
  rw [limitRegex]
  split
  · exact .refl passed
  · rename_i maxRegex _
    have whole := regexVerdicts_records maxRegex 0 passed.records
    have unique := verdicts_distinct whole distinct
    refine narrows_of_verdicts rfl whole distinct ?_
    rw [report_excluded,
      excludedBy_settle_eq_nil .unsafeRules unique (regexVerdicts_dropped (by simp)),
      excludedBy_settle_eq_nil .rules unique (regexVerdicts_dropped (by simp)),
      List.nil_append, List.nil_append]
    exact fun within => excludedBy_settle_eq_nil _ unique (regexVerdicts_dropped fun _ => within)

-----------------------------------------------------------------------------------------
-- The output
-----------------------------------------------------------------------------------------

variable (settings : Settings) {records : List Record} (sources : List SourceEntry)
  {rejections : List Rejection}

theorem quotas_narrow (ledger : Ledger) (distinct : (records.map Record.id).Nodup)
    : Narrows ⟨records, ledger, []⟩
        (limitRegex settings (limitRules settings records ledger)) := by
  have first := limitRules_narrows settings records ledger distinct
  refine first.trans (limitRegex_narrows settings _ ?_)
  exact distinct.sublist (first.records.map Record.id)

theorem apply_records (rejections : List Rejection) (distinct : (records.map Record.id).Nodup)
    : (apply settings records sources rejections).records.Sublist records :=
  (quotas_narrow settings _ distinct).records

/-- The source map of the output lists the entries of each record that is left. -/
theorem apply_sources (rejections : List Rejection) (distinct : (records.map Record.id).Nodup)
    : (apply settings records sources rejections).sources
      = (apply settings records sources rejections).records.flatMap fun record =>
          SourceEntry.ofRecord sources record.id := by
  have narrows := quotas_narrow settings ⟨sources, rejections.filter (isBound records)⟩ distinct
  have left := distinct.sublist (narrows.records.map Record.id)
  simp only [apply, collect_eq _ _ left]
  exact List.flatMap_congr narrows.sources

/-- The source map of the output and the excluded entries are the entries of all records. -/
theorem apply_account (rejections : List Rejection) (distinct : (records.map Record.id).Nodup)
    : ((apply settings records sources rejections).sources
        ++ (apply settings records sources rejections).limitations.flatMap
            Limitation.excluded).Perm
        (records.flatMap fun record => SourceEntry.ofRecord sources record.id) := by
  obtain ⟨more, grown, account⟩ :=
    (quotas_narrow settings ⟨sources, rejections.filter (isBound records)⟩ distinct).account
  rw [apply_sources settings sources rejections distinct]
  rw [List.nil_append] at grown
  rw [← grown] at account
  exact account

/-- A rejection bound to one of the records is among those that wait for that record. -/
theorem isBound_of_mem {record : Record} {rejection : Rejection} (member : record ∈ records)
    (bound : rejection.recordId? = some record.id)
    : isBound records rejection = true := by
  simp only [isBound, bound, Option.any_some, List.any_eq_true, beq_iff_eq]
  exact ⟨record, member, rfl⟩

/-- The rejections of the output are those bound to each record that is left, and then those
that are bound to no record.
-/
theorem apply_rejections_eq (rejections : List Rejection)
    (distinct : (records.map Record.id).Nodup)
    : (apply settings records sources rejections).rejections
      = ((apply settings records sources rejections).records.flatMap fun record =>
          rejections.filter (·.recordId? == some record.id))
        ++ rejections.filter (!isBound records ·) := by
  have narrows := quotas_narrow settings ⟨sources, rejections.filter (isBound records)⟩ distinct
  have left := distinct.sublist (narrows.records.map Record.id)
  simp only [apply, collect_eq _ _ left, List.append_cancel_right_eq]
  apply List.flatMap_congr
  intro record member
  rw [narrows.rejections record member, Ledger.rejectionsOf, List.filter_filter]
  apply List.filter_congr
  intro rejection _
  by_cases bound : rejection.recordId? = some record.id
  · simp [bound, isBound_of_mem (narrows.records.subset member) bound]
  · simp [bound]

/-- Rejections come through as they are when none is bound to a record. -/
theorem apply_rejections (distinct : (records.map Record.id).Nodup)
    (unbound : ∀ rejection ∈ rejections, isBound records rejection = false)
    : (apply settings records sources rejections).rejections = rejections := by
  have all : rejections.filter (!isBound records ·) = rejections := by
    rw [List.filter_eq_self]
    exact fun rejection member => by simp [unbound rejection member]
  have left := apply_records settings sources rejections distinct
  rw [apply_rejections_eq settings sources rejections distinct, all, List.append_left_eq_self,
    List.flatMap_eq_nil_iff]
  intro record kept
  rw [List.filter_eq_nil_iff]
  intro rejection member bound
  have known := isBound_of_mem (left.subset kept) (beq_iff_eq.mp bound)
  rw [unbound rejection member] at known
  cases known

/-- Without quotas the records stay, and the source map is rebuilt record by record. -/
theorem apply_uncapped {settings : Settings} (noRules : settings.maxRules = none)
    (noRegex : settings.maxRegexRules = none) (distinct : (records.map Record.id).Nodup)
    (unbound : ∀ rejection ∈ rejections, isBound records rejection = false)
    : apply settings records sources rejections
      = ⟨records, records.flatMap fun record => SourceEntry.ofRecord sources record.id,
          rejections, []⟩ := by
  have kept : (apply settings records sources rejections).records = records := by
    simp [apply, limitRegex, limitRules, noRules, noRegex]
  have silent : (apply settings records sources rejections).limitations = [] := by
    simp [apply, limitRegex, limitRules, noRules, noRegex]
  have fields (output : Output)
      : output = ⟨output.records, output.sources, output.rejections, output.limitations⟩ := rfl
  rw [fields (apply settings records sources rejections),
    apply_sources settings sources rejections distinct,
    apply_rejections settings sources distinct unbound, kept, silent]

end Blocklist.Quota
