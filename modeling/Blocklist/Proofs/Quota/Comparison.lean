import Blocklist.Proofs.Quota.Reports

/-! Two applications of the quotas compared. What the quotas leave passes them again as it
is, and a tighter quota of rules leaves the beginning of what a looser one leaves.
-/

namespace Blocklist.Quota

open Declarative

-----------------------------------------------------------------------------------------
-- Records within all quotas
-----------------------------------------------------------------------------------------

section

variable {settings : Settings} {records : List Record}

theorem survivors_of_kept {verdicts : List (Record × Verdict)}
    (kept : ∀ given ∈ verdicts, given.2 = .kept)
    : survivors verdicts = verdicts.map Prod.fst := by
  rw [survivors, List.filter_eq_self.mpr fun given member => beq_iff_eq.mpr (kept given member)]

theorem settle_of_kept (ledger : Ledger) {verdicts : List (Record × Verdict)}
    (kept : ∀ given ∈ verdicts, given.2 = .kept)
    : settle ledger verdicts = ([], ledger) := by
  induction verdicts with
  | nil => rfl
  | cons given verdicts ih =>
      obtain ⟨record, verdict⟩ := given
      obtain ⟨rfl, later⟩ := List.forall_mem_cons.mp kept
      exact ih later

theorem report_of_le {kind : QuotaKind} {limit total : Nat} (within : total ≤ limit)
    (entries : List (QuotaKind × SourceEntry))
    : report kind limit total entries = [] := by
  rw [report, if_neg (Nat.not_lt.mpr within)]

theorem positionVerdicts_of_within {maxRules : Nat} {maxUnsafe : Option Nat}
    (short : records.length ≤ maxRules)
    (few : ∀ quota ∈ maxUnsafe, records.countP (·.isUnsafe) ≤ quota)
    : ∀ given ∈ positionVerdicts maxRules maxUnsafe 0 0 records, given.2 = .kept := by
  intro given member
  rw [positionVerdicts_zipIdx] at member
  obtain ⟨place, listed, rfl⟩ := List.mem_map.mp member
  refine positionVerdict_eq_kept.mpr ⟨?_, ?_⟩
  · exact Nat.lt_of_lt_of_le (List.snd_lt_of_mem_zipIdx listed) short
  · intro _ quota set
    exact Nat.le_trans (List.take_sublist _ _).countP_le (few quota set)

theorem regexVerdicts_of_within {maxRegex : Nat}
    (few : records.countP (·.isRegex) ≤ maxRegex)
    : ∀ given ∈ regexVerdicts maxRegex 0 records, given.2 = .kept := by
  intro given member
  rw [regexVerdicts_eq] at member
  obtain ⟨index, bound, rfl⟩ := List.mem_mapIdx.mp member
  have counted : (records.take (index + 1)).countP (·.isRegex) ≤ maxRegex :=
    Nat.le_trans (List.take_sublist _ _).countP_le few
  simp only [Nat.zero_add, Nat.not_lt.mpr counted, decide_false, Bool.and_false,
    Bool.false_eq_true, if_false]

/-- The quotas of rules pass records within them on, without a report. -/
theorem Within.limitRules_eq (within : Within settings records) (ledger : Ledger)
    : limitRules settings records ledger = ⟨records, ledger, []⟩ := by
  cases quota : settings.maxRules with
  | none => simp only [limitRules, quota]
  | some maxRules =>
      obtain ⟨short, few⟩ := within.rules maxRules quota
      have kept := positionVerdicts_of_within short few
      have unchanged := settle_of_kept ledger kept
      have whole := survivors_of_kept kept
      rw [positionVerdicts_records] at whole
      cases unsafeQuota : settings.maxUnsafeRules with
      | none =>
          rw [unsafeQuota] at unchanged whole
          simp only [limitRules, quota, unsafeQuota, unchanged, whole, report_of_le short,
            List.append_nil]
      | some maxUnsafe =>
          rw [unsafeQuota] at unchanged whole
          simp only [limitRules, quota, unsafeQuota, unchanged, whole, report_of_le short,
            report_of_le (few maxUnsafe unsafeQuota), List.append_nil]

/-- The quota of regular expressions passes records within it on, without a report. -/
theorem Within.limitRegex_eq {passed : Passed} (within : Within settings passed.records)
    : limitRegex settings passed = passed := by
  cases quota : settings.maxRegexRules with
  | none => simp only [limitRegex, quota]
  | some maxRegex =>
      have few := within.regexes maxRegex quota
      have kept := regexVerdicts_of_within few
      simp only [limitRegex, quota, settle_of_kept passed.ledger kept, survivors_of_kept kept,
        regexVerdicts_records, report_of_le few, List.append_nil]

end

-----------------------------------------------------------------------------------------
-- The quotas applied again
-----------------------------------------------------------------------------------------

theorem mem_collect_sources {ledger : Ledger} {records : List Record} {entry : SourceEntry}
    (member : entry ∈ (collect ledger records).1)
    : entry ∈ ledger.sources := by
  induction records generalizing ledger with
  | nil => cases member
  | cons record records ih =>
      rcases List.mem_append.mp member with own | later
      · exact (SourceEntry.mem_ofRecord.mp own).1
      · exact (List.mem_filter.mp (ih later)).1

theorem mem_collect_rejections {ledger : Ledger} {records : List Record}
    {rejection : Rejection} (member : rejection ∈ (collect ledger records).2)
    : rejection ∈ ledger.rejections
      ∧ ∃ record ∈ records, rejection.recordId? = some record.id := by
  induction records generalizing ledger with
  | nil => cases member
  | cons record records ih =>
      rcases List.mem_append.mp member with own | later
      · obtain ⟨listed, bound⟩ := List.mem_filter.mp own
        exact ⟨listed, record, List.mem_cons_self, beq_iff_eq.mp bound⟩
      · obtain ⟨listed, other, known, bound⟩ := ih later
        exact ⟨(List.mem_filter.mp listed).1, other, List.mem_cons_of_mem record known, bound⟩

/-- A ledger that lists what another holds of a record before entries and rejections of
others gives both back.
-/
theorem Ledger.parts_of_front (ledger more : Ledger) {id : UInt32}
    (others : ∀ entry ∈ more.sources, entry.id ≠ id)
    (unbound : ∀ rejection ∈ more.rejections, rejection.recordId? ≠ some id)
    : let both : Ledger :=
        ⟨ledger.sourcesOf id ++ more.sources, ledger.rejectionsOf id ++ more.rejections⟩
      both.sourcesOf id = ledger.sourcesOf id
      ∧ both.rejectionsOf id = ledger.rejectionsOf id ∧ both.erase id = more := by
  have own : ∀ entry ∈ ledger.sourcesOf id, (entry.id == id) = true :=
    fun _ member => beq_iff_eq.mpr (SourceEntry.mem_ofRecord.mp member).2
  have bound : ∀ rejection ∈ ledger.rejectionsOf id, (rejection.recordId? == some id) = true :=
    fun _ member => (List.mem_filter.mp member).2
  obtain ⟨entries, otherEntries⟩ :=
    filter_append_parts own fun entry member => beq_false_of_ne (others entry member)
  obtain ⟨rejections, otherRejections⟩ :=
    filter_append_parts bound fun rejection member => beq_false_of_ne (unbound rejection member)
  exact ⟨entries, rejections, congrArg₂ Ledger.mk otherEntries otherRejections⟩

/-- What was collected is collected again as it is. Witness: induction on the records; what
is collected after a record holds nothing about it, also when its id comes up again.
-/
theorem collect_collect (ledger : Ledger) (records : List Record)
    : collect ⟨(collect ledger records).1, (collect ledger records).2⟩ records
      = collect ledger records := by
  induction records generalizing ledger with
  | nil => rfl
  | cons record records ih =>
      have later := ih (ledger.erase record.id)
      have others : ∀ entry ∈ (collect (ledger.erase record.id) records).1,
          entry.id ≠ record.id := by
        intro entry member
        exact bne_iff_ne.mp (List.mem_filter.mp (mem_collect_sources member)).2
      have unbound : ∀ rejection ∈ (collect (ledger.erase record.id) records).2,
          rejection.recordId? ≠ some record.id := by
        intro rejection member
        exact bne_iff_ne.mp (List.mem_filter.mp (mem_collect_rejections member).1).2
      obtain ⟨sources, rejections, rest⟩ := ledger.parts_of_front
        ⟨(collect (ledger.erase record.id) records).1,
          (collect (ledger.erase record.id) records).2⟩ others unbound
      simp only [collect, sources, rejections, rest, later]

/-- The rejections that follow those bound to the records of an output are bound to none of
them, and each of the former is bound to one.
-/
theorem filter_isBound {records kept : List Record} {bound rejections : List Rejection}
    (part : kept.Sublist records)
    (linked : ∀ rejection ∈ bound, isBound kept rejection = true)
    : (bound ++ rejections.filter (!isBound records ·)).filter (isBound kept) = bound
      ∧ (bound ++ rejections.filter (!isBound records ·)).filter (!isBound kept ·)
        = rejections.filter (!isBound records ·) := by
  refine filter_append_parts linked ?_
  intro rejection member
  have free := (List.mem_filter.mp member).2
  simp only [Bool.not_eq_true', isBound_eq_false] at free ⊢
  exact fun record known => free record (part.subset known)

/-- The output lists what a ledger holds of the records that are left, and then the rejections
that are bound to no record.
-/
theorem apply_collects (settings : Settings) (records : List Record)
    (sources : List SourceEntry) (rejections : List Rejection)
    : ∃ ledger,
        (apply settings records sources rejections).sources
          = (collect ledger (apply settings records sources rejections).records).1
        ∧ (apply settings records sources rejections).rejections
          = (collect ledger (apply settings records sources rejections).records).2
            ++ rejections.filter (!isBound records ·) :=
  ⟨_, rfl, rfl⟩

/-- Within all quotas, records keep what the source map and the rejections say about them. -/
theorem Within.apply_eq {settings : Settings} {records : List Record}
    (within : Within settings records) (sources : List SourceEntry)
    (rejections : List Rejection)
    : apply settings records sources rejections
      = ⟨records, (collect ⟨sources, rejections.filter (isBound records)⟩ records).1,
          (collect ⟨sources, rejections.filter (isBound records)⟩ records).2
            ++ rejections.filter (!isBound records ·), []⟩ := by
  have regexes : limitRegex settings ⟨records, ⟨sources, rejections.filter (isBound records)⟩, []⟩
      = ⟨records, ⟨sources, rejections.filter (isBound records)⟩, []⟩ :=
    Within.limitRegex_eq within
  simp only [apply, within.limitRules_eq, regexes]

/-- The quotas are idempotent: applied to their own output, they leave its records, source map
and rejections as they are, each in the same order, and report nothing. Ids may repeat, and
entries and rejections may be about records that are not there.
-/
theorem apply_idempotent (settings : Settings) (records : List Record)
    (sources : List SourceEntry) (rejections : List Rejection)
    : let output := apply settings records sources rejections
      apply settings output.records output.sources output.rejections
        = { output with limitations := [] } := by
  have within := apply_within settings records sources rejections
  have part := selected_sublist
    (fun position record => WithinRules settings records position record
      ∧ WithinRegex settings records position record) records
  rw [← apply_records_eq settings records sources rejections] at part
  obtain ⟨ledger, listed, rejected⟩ := apply_collects settings records sources rejections
  intro output
  have linked : ∀ rejection ∈ (collect ledger output.records).2,
      isBound output.records rejection = true := by
    intro rejection member
    obtain ⟨-, record, known, bound⟩ := mem_collect_rejections member
    exact isBound_of_mem known bound
  obtain ⟨bound, unbound⟩ := filter_isBound part linked
  rw [Within.apply_eq within, rejected, bound, unbound, listed, collect_collect]

-----------------------------------------------------------------------------------------
-- A tighter quota of rules
-----------------------------------------------------------------------------------------

/-- Fewer rules leave a beginning, by induction on the records. Below the tighter quota both
verdicts agree, and the unsafe records beyond it count towards no record that it leaves.
-/
theorem survivors_tightened {tight loose : Nat} (tighter : tight ≤ loose)
    (maxUnsafe : Option Nat) (position unsafeCount : Nat) (records : List Record)
    : survivors (positionVerdicts tight maxUnsafe position unsafeCount records)
      <+: survivors (positionVerdicts loose maxUnsafe position unsafeCount records) := by
  induction records generalizing position unsafeCount with
  | nil => exact List.prefix_rfl
  | cons record records ih =>
      by_cases inside : position < tight
      · have within : position < loose := by omega
        rw [positionVerdicts, positionVerdicts, survivors_cons, survivors_cons]
        generalize (if record.isUnsafe then unsafeCount + 1 else unsafeCount) = reached
        have same : positionVerdict tight maxUnsafe position reached record
            = positionVerdict loose maxUnsafe position reached record := by
          simp only [positionVerdict, inside, within, if_true]
        rw [same]
        split
        · exact (List.prefix_cons_inj record).mpr (ih (position + 1) reached)
        · exact ih (position + 1) reached
      · have room := survivors_length_le tight maxUnsafe position unsafeCount (record :: records)
        rw [Nat.sub_eq_zero_of_le (Nat.not_lt.mp inside), Nat.le_zero,
          List.length_eq_zero_iff] at room
        rw [room]
        exact List.nil_prefix

theorem regexVerdicts_append (maxRegex count : Nat) (records more : List Record)
    : regexVerdicts maxRegex count (records ++ more)
      = regexVerdicts maxRegex count records
        ++ regexVerdicts maxRegex (count + records.countP (·.isRegex)) more := by
  induction records generalizing count with
  | nil => rfl
  | cons record records ih =>
      cases isRegex : record.isRegex
      · simp [regexVerdicts, isRegex, ih]
      · simp [regexVerdicts, isRegex, ih, Nat.add_assoc, Nat.add_comm 1]

/-- The quota of regular expressions judges a record by those before it only, so it leaves a
beginning of what it leaves of more records.
-/
theorem limitRegex_shortened (settings : Settings) {passed longer : Passed}
    (shorter : passed.records <+: longer.records)
    : (limitRegex settings passed).records <+: (limitRegex settings longer).records := by
  cases quota : settings.maxRegexRules with
  | none => simpa only [limitRegex, quota] using shorter
  | some maxRegex =>
      obtain ⟨more, whole⟩ := shorter
      rw [limitRegex_of_some quota, limitRegex_of_some quota, ← whole, regexVerdicts_append,
        survivors, survivors, List.filter_append, List.map_append]
      exact List.prefix_append _ _

theorem apply_records_tightened (settings : Settings) {tight loose : Nat}
    (tighter : tight ≤ loose) (records : List Record) (sources : List SourceEntry)
    (rejections : List Rejection)
    : (apply { settings with maxRules := some tight } records sources rejections).records
      <+: (apply { settings with maxRules := some loose } records sources rejections).records :=
  limitRegex_shortened settings (survivors_tightened tighter settings.maxUnsafeRules 0 0 records)

/-- Tightening the quota of rules only cuts the output off: with distinct ids, the records and
the source map under the tighter quota begin those under the looser one, whatever the quotas
of unsafe rules and of regular expressions are.
-/
theorem apply_tightened_truncates (settings : Settings) {tight loose : Nat}
    (tighter : tight ≤ loose) {records : List Record}
    (distinct : (records.map Record.id).Nodup) (sources : List SourceEntry)
    (rejections : List Rejection)
    : let narrow := apply { settings with maxRules := some tight } records sources rejections
      let wide := apply { settings with maxRules := some loose } records sources rejections
      narrow.records <+: wide.records ∧ narrow.sources <+: wide.sources := by
  have shorter := apply_records_tightened settings tighter records sources rejections
  refine ⟨shorter, ?_⟩
  rw [apply_sources _ sources rejections distinct, apply_sources _ sources rejections distinct]
  obtain ⟨more, whole⟩ := shorter
  rw [← whole, List.flatMap_append]
  exact List.prefix_append _ _

/-- A quota of three rules and one of five, beside quotas that drop records before either. -/
theorem apply_tightened_truncates_crowd
    : let output (maxRules : Nat) :=
        apply { narrowSettings with maxRules := some maxRules } crowd crowdLines []
      (crowd.map Record.id).Nodup
      ∧ (output 3).records.map Record.id = [2, 3]
      ∧ (output 5).records.map Record.id = [2, 3, 6]
      ∧ (output 3).records <+: (output 5).records
      ∧ (output 3).sources <+: (output 5).sources := by
  intro output
  have distinct : (crowd.map Record.id).Nodup := by decide
  exact ⟨distinct, by decide, by decide,
    apply_tightened_truncates narrowSettings (by decide) distinct crowdLines []⟩

end Blocklist.Quota
