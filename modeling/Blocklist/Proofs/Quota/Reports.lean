import Blocklist.Proofs.Quota.Apply
import Blocklist.Proofs.Quota.Positions

/-! What the quotas report. Each record that is dropped is dropped by one quota, that quota is
reported, and the source entries of the record stand in that report alone.
-/

namespace Blocklist.Quota

open Declarative

/-- The source entries of records, record by record. -/
def entriesOf (sources : List SourceEntry) (records : List Record) : List SourceEntry :=
  records.flatMap fun record => SourceEntry.ofRecord sources record.id

section

variable (settings : Settings) (records : List Record)

/-- The limit of a quota where it is in force; that of unsafe rules needs one of rules. -/
def limit? : QuotaKind → Option Nat
  | .unsafeRules => settings.maxRules.bind fun _ => settings.maxUnsafeRules
  | .rules => settings.maxRules
  | .regexRules => settings.maxRegexRules

/-- How many there are of what a quota counts. -/
def counted : QuotaKind → Nat
  | .unsafeRules => records.countP (·.isUnsafe)
  | .rules => records.length
  | .regexRules =>
    (selected (fun position record => WithinRules settings records position record)
      records).countP (·.isRegex)

/-- More unsafe records than their quota allows stand up to an unsafe record. -/
def OverUnsafe (position : Nat) (record : Record) : Prop :=
  record.isUnsafe ∧ ∃ maxUnsafe ∈ settings.maxUnsafeRules,
    maxUnsafe < (records.take (position + 1)).countP (·.isUnsafe)

instance (position : Nat) (record : Record)
    : Decidable (OverUnsafe settings records position record) :=
  inferInstanceAs (Decidable (_ ∧ ∃ maxUnsafe ∈ settings.maxUnsafeRules, _))

/-- The record at a position is dropped by a quota: for the count of unsafe records, else for
its position, else for the count of regular expressions.
-/
def DroppedBy : QuotaKind → Nat → Record → Prop
  | .unsafeRules, position, record =>
    settings.maxRules.isSome ∧ OverUnsafe settings records position record
  | .rules, position, record =>
    (∃ maxRules ∈ settings.maxRules, maxRules ≤ position)
      ∧ ¬OverUnsafe settings records position record
  | .regexRules, position, record =>
    WithinRules settings records position record ∧ record.isRegex
      ∧ ∃ maxRegex ∈ settings.maxRegexRules, maxRegex < regexesUpTo settings records position

instance (kind : QuotaKind) (position : Nat) (record : Record)
    : Decidable (DroppedBy settings records kind position record) :=
  match kind with
  | .unsafeRules => inferInstanceAs (Decidable (_ ∧ _))
  | .rules => inferInstanceAs (Decidable ((∃ maxRules ∈ settings.maxRules, _) ∧ ¬_))
  | .regexRules =>
    inferInstanceAs (Decidable (_ ∧ _ ∧ ∃ maxRegex ∈ settings.maxRegexRules, _))

/-- The records that a quota drops, in order. -/
def droppedBy (kind : QuotaKind) : List Record :=
  selected (fun position record => DroppedBy settings records kind position record) records

/-- The limitation that a quota gives rise to. -/
def limitation? (sources : List SourceEntry) (kind : QuotaKind) : Option Limitation :=
  (limit? settings kind).bind fun limit =>
    if limit < counted settings records kind then
      some
        { kind, limit
          total := counted settings records kind
          excluded := entriesOf sources (droppedBy settings records kind) }
    else none

end

-----------------------------------------------------------------------------------------
-- Each stage reports what it drops
-----------------------------------------------------------------------------------------

variable {settings : Settings} {records : List Record}

/-- The verdict of the first stage at a position. -/
theorem positionVerdict_at (maxRules position : Nat) (record : Record)
    : positionVerdict maxRules settings.maxUnsafeRules position
        ((records.take (position + 1)).countP (·.isUnsafe)) record
      = if OverUnsafe settings records position record then .dropped .unsafeRules
        else if position < maxRules then .kept
        else .dropped .rules :=
  positionVerdict_eq

/-- The first stage drops for the count of unsafe records and for the position. -/
theorem dropped_positionVerdicts {maxRules : Nat} (quota : settings.maxRules = some maxRules)
    {kind : QuotaKind} (first : kind ≠ .regexRules)
    : dropped kind (positionVerdicts maxRules settings.maxUnsafeRules 0 0 records)
      = droppedBy settings records kind := by
  rw [positionVerdicts_zipIdx, dropped_map]
  apply filter_zipIdx_eq_selected
  intro place _
  rw [Bool.eq_iff_iff, beq_iff_eq, decide_eq_true_iff, positionVerdict_at]
  by_cases exceeded : OverUnsafe settings records place.2 place.1
  · cases kind with
    | unsafeRules => simp [DroppedBy, quota, exceeded]
    | rules => simp [DroppedBy, exceeded]
    | regexRules => exact absurd rfl first
  · by_cases inside : place.2 < maxRules
    · have below : ¬maxRules ≤ place.2 := by omega
      cases kind with
      | unsafeRules => simp [DroppedBy, exceeded, inside]
      | rules => simp [DroppedBy, quota, inside, exceeded]
      | regexRules => exact absurd rfl first
    · have beyond : maxRules ≤ place.2 := by omega
      cases kind with
      | unsafeRules => simp [DroppedBy, exceeded, inside]
      | rules => simp [DroppedBy, quota, exceeded, beyond]
      | regexRules => exact absurd rfl first

/-- The second stage drops for the count of regular expressions. -/
theorem dropped_regexVerdicts {maxRegex : Nat}
    (quota : settings.maxRegexRules = some maxRegex)
    : dropped .regexRules (regexVerdicts maxRegex 0
        (selected (fun position record => WithinRules settings records position record) records))
      = droppedBy settings records .regexRules := by
  rw [regexVerdicts_selected, dropped_map, List.filter_filter]
  apply filter_zipIdx_eq_selected
  intro place _
  rw [Bool.eq_iff_iff, Bool.and_eq_true, beq_iff_eq, decide_eq_true_iff, decide_eq_true_iff]
  simp only [DroppedBy, quota, Option.mem_some_iff, exists_eq_left']
  split
  · rename_i exceeded
    simp only [Bool.and_eq_true, decide_eq_true_eq] at exceeded
    simp [exceeded]
  · rename_i within
    simp only [Bool.and_eq_true, decide_eq_true_eq] at within
    simp [within]

/-- A report is the limitation of its quota. -/
theorem report_eq {kind : QuotaKind} {limit : Nat} {sources : List SourceEntry}
    {entries : List (QuotaKind × SourceEntry)}
    (quota : limit? settings kind = some limit)
    (excluded : excludedBy kind entries = entriesOf sources (droppedBy settings records kind))
    : report kind limit (counted settings records kind) entries
      = (limitation? settings records sources kind).toList := by
  rw [report, limitation?, quota, Option.bind_some, excluded]
  split <;> rfl

theorem limitRules_limitations (ledger : Ledger) (distinct : (records.map Record.id).Nodup)
    : (limitRules settings records ledger).limitations
      = (limitation? settings records ledger.sources .unsafeRules).toList
        ++ (limitation? settings records ledger.sources .rules).toList := by
  cases quota : settings.maxRules with
  | none => simp [limitRules, limitation?, limit?, quota]
  | some maxRules =>
      have whole := positionVerdicts_records maxRules settings.maxUnsafeRules 0 0 records
      have unique := verdicts_distinct whole distinct
      have excluded {kind : QuotaKind} (first : kind ≠ .regexRules)
          : excludedBy kind (settle ledger
              (positionVerdicts maxRules settings.maxUnsafeRules 0 0 records)).1
            = entriesOf ledger.sources (droppedBy settings records kind) := by
        rw [excludedBy_settle kind ledger _ unique, dropped_positionVerdicts quota first]
        rfl
      simp only [limitRules, quota]
      congr 1
      · cases unsafeQuota : settings.maxUnsafeRules with
        | none => simp [limitation?, limit?, quota, unsafeQuota]
        | some maxUnsafe =>
            rw [unsafeQuota] at excluded
            exact report_eq (by simp [limit?, quota, unsafeQuota]) (excluded (by decide))
      · exact report_eq quota (excluded (by decide))

theorem limitRegex_limitations (ledger : Ledger) (distinct : (records.map Record.id).Nodup)
    : (limitRegex settings (limitRules settings records ledger)).limitations
      = (limitRules settings records ledger).limitations
        ++ (limitation? settings records ledger.sources .regexRules).toList := by
  cases quota : settings.maxRegexRules with
  | none => simp [limitRegex, limitation?, limit?, quota]
  | some maxRegex =>
      have narrows := limitRules_narrows settings records ledger distinct
      have left := distinct.sublist (narrows.records.map Record.id)
      have whole := regexVerdicts_records maxRegex 0 (limitRules settings records ledger).records
      have unique := verdicts_distinct whole left
      simp only [limitRegex, quota, List.append_cancel_left_eq]
      rw [limitRules_records] at unique ⊢
      refine report_eq quota ?_
      rw [excludedBy_settle .regexRules _ _ unique, dropped_regexVerdicts quota]
      -- what the second stage drops has passed the first, which left its entries alone
      apply List.flatMap_congr
      intro record member
      obtain ⟨position, listed, out⟩ := mem_selected.mp member
      refine narrows.sources record ?_
      rw [limitRules_records]
      exact mem_selected.mpr ⟨position, listed, decide_eq_true (of_decide_eq_true out).1⟩

/-- The limitations of the output, quota by quota. -/
theorem apply_limitations (settings : Settings) (sources : List SourceEntry)
    (rejections : List Rejection) (distinct : (records.map Record.id).Nodup)
    : (apply settings records sources rejections).limitations
      = (limitation? settings records sources .unsafeRules).toList
        ++ (limitation? settings records sources .rules).toList
        ++ (limitation? settings records sources .regexRules).toList := by
  simp only [apply, limitRegex_limitations _ distinct, limitRules_limitations _ distinct]

theorem mem_apply_limitations (settings : Settings) (sources : List SourceEntry)
    (rejections : List Rejection) (distinct : (records.map Record.id).Nodup)
    {limitation : Limitation}
    : limitation ∈ (apply settings records sources rejections).limitations
      ↔ ∃ kind, limitation? settings records sources kind = some limitation := by
  rw [apply_limitations settings sources rejections distinct]
  simp only [List.mem_append, Option.mem_toList]
  constructor
  · rintro ((first | second) | third)
    · exact ⟨_, first⟩
    · exact ⟨_, second⟩
    · exact ⟨_, third⟩
  · rintro ⟨kind, given⟩
    cases kind with
    | unsafeRules => exact Or.inl (Or.inl given)
    | rules => exact Or.inl (Or.inr given)
    | regexRules => exact Or.inr given

theorem limitation?_eq_some {sources : List SourceEntry} {kind : QuotaKind}
    {limitation : Limitation}
    : limitation? settings records sources kind = some limitation
      ↔ ∃ limit ∈ limit? settings kind, limit < counted settings records kind
          ∧ limitation
            = ⟨kind, limit, counted settings records kind,
                entriesOf sources (droppedBy settings records kind)⟩ := by
  simp only [limitation?, Option.bind_eq_some_iff, Option.ite_none_right_eq_some,
    Option.some.injEq, Option.mem_def, @eq_comm _ limitation]

-----------------------------------------------------------------------------------------
-- One report for each dropped record
-----------------------------------------------------------------------------------------

theorem withinRules_iff {position : Nat} {record : Record}
    : WithinRules settings records position record
      ↔ ∀ maxRules ∈ settings.maxRules,
          position < maxRules ∧ ¬OverUnsafe settings records position record := by
  simp only [WithinRules, OverUnsafe, not_and, not_exists, Nat.not_lt]

/-- A record that is not within all quotas is dropped by one of them. -/
theorem exists_droppedBy {position : Nat} {record : Record}
    (out : ¬(WithinRules settings records position record
      ∧ WithinRegex settings records position record))
    : ∃ kind, DroppedBy settings records kind position record := by
  by_cases within : WithinRules settings records position record
  · have beyond : ¬WithinRegex settings records position record :=
      fun regex => out ⟨within, regex⟩
    simp only [WithinRegex, not_forall, Nat.not_le] at beyond
    obtain ⟨maxRegex, quota, isRegex, exceeded⟩ := beyond
    exact ⟨.regexRules, within, isRegex, maxRegex, quota, exceeded⟩
  · simp only [withinRules_iff, not_forall, not_and, not_not] at within
    obtain ⟨maxRules, quota, otherwise⟩ := within
    by_cases exceeded : OverUnsafe settings records position record
    · exact ⟨.unsafeRules, Option.isSome_of_mem quota, exceeded⟩
    · refine ⟨.rules, ⟨maxRules, quota, ?_⟩, exceeded⟩
      exact Nat.le_of_not_lt fun inside => exceeded (otherwise inside)

theorem DroppedBy.not_withinRules {kind : QuotaKind} {position : Nat} {record : Record}
    (out : DroppedBy settings records kind position record) (first : kind ≠ .regexRules)
    : ¬WithinRules settings records position record := by
  intro within
  rw [withinRules_iff] at within
  cases kind with
  | unsafeRules =>
      obtain ⟨set, exceeded⟩ := out
      obtain ⟨maxRules, quota⟩ := Option.isSome_iff_exists.mp set
      exact (within maxRules quota).2 exceeded
  | rules =>
      obtain ⟨⟨maxRules, quota, beyond⟩, -⟩ := out
      have inside := (within maxRules quota).1
      omega
  | regexRules => exact first rfl

/-- No record is dropped by two quotas. -/
theorem DroppedBy.unique {kind other : QuotaKind} {position : Nat} {record : Record}
    (out : DroppedBy settings records kind position record)
    (again : DroppedBy settings records other position record)
    : kind = other := by
  cases kind with
  | unsafeRules =>
      cases other with
      | unsafeRules => rfl
      | rules => exact absurd out.2 again.2
      | regexRules => exact absurd again.1 (out.not_withinRules (by decide))
  | rules =>
      cases other with
      | unsafeRules => exact absurd again.2 out.2
      | rules => rfl
      | regexRules => exact absurd again.1 (out.not_withinRules (by decide))
  | regexRules =>
      cases other with
      | regexRules => rfl
      | unsafeRules | rules => exact absurd out.1 (again.not_withinRules (by decide))

theorem regexesUpTo_le (position : Nat)
    : regexesUpTo settings records position ≤ counted settings records .regexRules := by
  simp only [counted, selected, List.countP_map, List.countP_filter]
  exact (List.take_sublist _ _).countP_le

/-- A quota that drops a record is exceeded. -/
theorem DroppedBy.exceeded {kind : QuotaKind} {position : Nat} {record : Record}
    (out : DroppedBy settings records kind position record)
    (listed : (record, position) ∈ records.zipIdx)
    : ∃ limit ∈ limit? settings kind, limit < counted settings records kind := by
  cases kind with
  | unsafeRules =>
      obtain ⟨set, -, maxUnsafe, quota, more⟩ := out
      obtain ⟨maxRules, given⟩ := Option.isSome_iff_exists.mp set
      refine ⟨maxUnsafe, by simpa [limit?, given] using quota, ?_⟩
      exact Nat.lt_of_lt_of_le more (List.take_sublist _ _).countP_le
  | rules =>
      obtain ⟨⟨maxRules, quota, beyond⟩, -⟩ := out
      refine ⟨maxRules, quota, Nat.lt_of_le_of_lt beyond ?_⟩
      exact List.snd_lt_of_mem_zipIdx listed
  | regexRules =>
      obtain ⟨-, -, maxRegex, quota, more⟩ := out
      exact ⟨maxRegex, quota, Nat.lt_of_lt_of_le more (regexesUpTo_le position)⟩

theorem ofRecord_entriesOf_eq_nil {part : List Record} (sources : List SourceEntry)
    {id : UInt32} (absent : ∀ record ∈ part, record.id ≠ id)
    : SourceEntry.ofRecord (entriesOf sources part) id = [] := by
  rw [SourceEntry.ofRecord_eq_nil]
  intro entry member link
  obtain ⟨record, known, own⟩ := List.mem_flatMap.mp member
  exact absent record known ((SourceEntry.mem_ofRecord.mp own).2.symm.trans link)

/-- A record finds its own entries among those of records with distinct ids. -/
theorem ofRecord_entriesOf {part : List Record} (sources : List SourceEntry)
    (distinct : (part.map Record.id).Nodup) {record : Record} (member : record ∈ part)
    : SourceEntry.ofRecord (entriesOf sources part) record.id
      = SourceEntry.ofRecord sources record.id :=
  filter_flatMap_key distinct (fun _ _ _ own => (SourceEntry.mem_ofRecord.mp own).2) member

/-- The quota that drops a record reports its entries, and no other report holds any. -/
theorem reported_once (settings : Settings) (sources : List SourceEntry)
    (rejections : List Rejection) (distinct : (records.map Record.id).Nodup) {record : Record}
    (member : record ∈ records)
    (gone : record ∉ (apply settings records sources rejections).records)
    : ∃ limitation ∈ (apply settings records sources rejections).limitations,
        SourceEntry.ofRecord limitation.excluded record.id
          = SourceEntry.ofRecord sources record.id
        ∧ ∀ other ∈ (apply settings records sources rejections).limitations,
            other ≠ limitation → SourceEntry.ofRecord other.excluded record.id = [] := by
  simp only [mem_apply_limitations settings sources rejections distinct]
  obtain ⟨position, found⟩ := List.mem_iff_getElem?.mp member
  have listed := List.mk_mem_zipIdx_iff_getElem?.mpr found
  have out : ¬(WithinRules settings records position record
      ∧ WithinRegex settings records position record) := by
    intro within
    rw [apply_records_eq] at gone
    exact gone (mem_selected.mpr ⟨position, listed, decide_eq_true within⟩)
  obtain ⟨kind, dropped⟩ := exists_droppedBy out
  obtain ⟨limit, set, more⟩ := dropped.exceeded listed
  have part := distinct.sublist ((selected_sublist (fun position record =>
    DroppedBy settings records kind position record) records).map Record.id)
  refine ⟨_, ⟨kind, limitation?_eq_some.mpr ⟨limit, set, more, rfl⟩⟩,
    ofRecord_entriesOf sources part (mem_selected.mpr ⟨position, listed, decide_eq_true dropped⟩),
    ?_⟩
  rintro other ⟨otherKind, given⟩ differs
  obtain ⟨otherLimit, otherSet, -, rfl⟩ := limitation?_eq_some.mp given
  apply ofRecord_entriesOf_eq_nil
  intro twin known same
  -- ids tell records apart, so the twin is the record, and it is dropped only once
  obtain rfl := List.inj_on_of_nodup_map distinct ((selected_sublist _ _).subset known) member same
  obtain ⟨again, place, droppedAgain⟩ := mem_selected.mp known
  obtain rfl : again = position :=
    (List.getElem?_inj (List.snd_lt_of_mem_zipIdx place) (.of_map Record.id distinct)).mp
      ((List.mk_mem_zipIdx_iff_getElem?.mp place).trans found.symm)
  obtain rfl := (of_decide_eq_true droppedAgain).unique dropped
  rw [Option.mem_def.mp set, Option.mem_def] at otherSet
  exact differs (by rw [Option.some.inj otherSet])

theorem limitation?_kind (sources : List SourceEntry) (kind : QuotaKind)
    : ((limitation? settings records sources kind).toList.map Limitation.kind).Sublist [kind] := by
  cases given : limitation? settings records sources kind with
  | none => simp
  | some limitation =>
      obtain ⟨limit, -, -, rfl⟩ := limitation?_eq_some.mp given
      simp

theorem isBound_eq_false {rejection : Rejection}
    : isBound records rejection = false
      ↔ ∀ record ∈ records, rejection.recordId? ≠ some record.id := by
  cases bound : rejection.recordId? with
  | none => simp [isBound, bound]
  | some id =>
      simp only [isBound, bound, Option.any_some, List.any_eq_false, beq_iff_eq, ne_eq,
        Option.some.injEq]
      exact forall₂_congr fun _ _ => not_congr eq_comm

/-- What the quotas report, for records with distinct ids. The source map lists the entries of
each record that is left, and the rejections those bound to each record that is left and then
those bound to no record. A quota is reported when there are more of what it counts than it
allows, with that number and the entries of the records that it drops: those beyond the count
of unsafe records, those beyond the number of rules for their position alone, and those beyond
the count of regular expressions among the records that pass the other quotas. The entries of
a dropped record stand in one report.
-/
theorem apply_reports_what_it_drops (settings : Settings) {records : List Record}
    (sources : List SourceEntry) (rejections : List Rejection)
    (distinct : (records.map Record.id).Nodup)
    : let output := apply settings records sources rejections
      let passed := selected (fun position record => WithinRules settings records position record)
        records
      output.sources = entriesOf sources output.records
      ∧ output.rejections
        = (output.records.flatMap fun record =>
            rejections.filter (·.recordId? == some record.id))
          ++ rejections.filter (fun rejection =>
              ∀ record ∈ records, rejection.recordId? ≠ some record.id)
      ∧ (∀ limitation, limitation ∈ output.limitations
          ↔ (∃ maxRules ∈ settings.maxRules, ∃ maxUnsafe ∈ settings.maxUnsafeRules,
                maxUnsafe < records.countP (·.isUnsafe)
                ∧ limitation = ⟨.unsafeRules, maxUnsafe, records.countP (·.isUnsafe),
                    entriesOf sources (droppedBy settings records .unsafeRules)⟩)
            ∨ (∃ maxRules ∈ settings.maxRules, maxRules < records.length
                ∧ limitation = ⟨.rules, maxRules, records.length,
                    entriesOf sources (droppedBy settings records .rules)⟩)
            ∨ ∃ maxRegex ∈ settings.maxRegexRules,
                maxRegex < passed.countP (·.isRegex)
                ∧ limitation = ⟨.regexRules, maxRegex, passed.countP (·.isRegex),
                    entriesOf sources (droppedBy settings records .regexRules)⟩)
      ∧ (output.limitations.map Limitation.kind).Sublist [.unsafeRules, .rules, .regexRules]
      ∧ ∀ record ∈ records, record ∉ output.records
          → ∃ limitation ∈ output.limitations,
              SourceEntry.ofRecord limitation.excluded record.id
                = SourceEntry.ofRecord sources record.id
              ∧ ∀ other ∈ output.limitations, other ≠ limitation
                  → SourceEntry.ofRecord other.excluded record.id = [] := by
  refine ⟨apply_sources settings sources rejections distinct, ?_, ?_, ?_, ?_⟩
  · rw [apply_rejections_eq settings sources rejections distinct]
    congr 1
    apply List.filter_congr
    intro rejection _
    rw [Bool.eq_iff_iff, Bool.not_eq_true', isBound_eq_false, decide_eq_true_iff]
  · intro limitation
    simp only [mem_apply_limitations settings sources rejections distinct, limitation?_eq_some]
    constructor
    · rintro ⟨kind, limit, set, more, rfl⟩
      cases kind with
      | unsafeRules =>
          obtain ⟨maxRules, given, quota⟩ := Option.bind_eq_some_iff.mp set
          exact Or.inl ⟨maxRules, given, limit, quota, more, rfl⟩
      | rules => exact Or.inr (Or.inl ⟨limit, set, more, rfl⟩)
      | regexRules => exact Or.inr (Or.inr ⟨limit, set, more, rfl⟩)
    · rintro (⟨maxRules, given, limit, quota, more, rfl⟩ | ⟨limit, set, more, rfl⟩
        | ⟨limit, set, more, rfl⟩)
      · exact ⟨.unsafeRules, limit, Option.bind_eq_some_iff.mpr ⟨maxRules, given, quota⟩, more,
          rfl⟩
      · exact ⟨.rules, limit, set, more, rfl⟩
      · exact ⟨.regexRules, limit, set, more, rfl⟩
  · rw [apply_limitations settings sources rejections distinct, List.map_append, List.map_append]
    exact ((limitation?_kind sources .unsafeRules).append (limitation?_kind sources .rules)).append
      (limitation?_kind sources .regexRules)
  · exact fun record member => reported_once settings sources rejections distinct member

/-- Six records, the last of which is both unsafe and beyond the fourth position. -/
def crowd : List Record :=
  [⟨2, 1, .block, {}⟩, ⟨3, 1, .modifyHeaders none none, { regexFilter := some "a" }⟩,
    ⟨4, 1, .block, { regexFilter := some "b" }⟩, ⟨5, 1, .modifyHeaders none none, {}⟩,
    ⟨6, 1, .block, {}⟩, ⟨7, 1, .modifyHeaders none none, {}⟩]

/-- The lines of the six records; the last has two of them. -/
def crowdLines : List SourceEntry :=
  [⟨2, 0, 0⟩, ⟨7, 0, 5⟩, ⟨3, 0, 10⟩, ⟨4, 0, 15⟩, ⟨5, 0, 20⟩, ⟨6, 0, 25⟩, ⟨7, 0, 30⟩]

/-- Four records may stay, one unsafe record and one regular expression among them. -/
def narrowSettings : Settings :=
  { maxRules := some 4, maxUnsafeRules := some 1, maxRegexRules := some 1 }

/-- The quotas of rules and of unsafe rules both exclude the last record, but its two lines
are reported once.
-/
theorem apply_reports_crowd
    : (crowd.map Record.id).Nodup
      ∧ (apply narrowSettings crowd crowdLines []).records.map Record.id = [2, 3]
      ∧ (apply narrowSettings crowd crowdLines []).limitations
        = [⟨.unsafeRules, 1, 3, [⟨5, 0, 20⟩, ⟨7, 0, 5⟩, ⟨7, 0, 30⟩]⟩,
            ⟨.rules, 4, 6, [⟨6, 0, 25⟩]⟩, ⟨.regexRules, 1, 2, [⟨4, 0, 15⟩]⟩]
      ∧ ∃ limitation ∈ (apply narrowSettings crowd crowdLines []).limitations,
          SourceEntry.ofRecord limitation.excluded 7 = SourceEntry.ofRecord crowdLines 7
          ∧ ∀ other ∈ (apply narrowSettings crowd crowdLines []).limitations,
              other ≠ limitation → SourceEntry.ofRecord other.excluded 7 = [] := by
  have distinct : (crowd.map Record.id).Nodup := by decide
  have reported := (apply_reports_what_it_drops narrowSettings crowdLines [] distinct).2.2.2.2
  exact ⟨distinct, by decide, by decide,
    reported ⟨7, 1, .modifyHeaders none none, {}⟩ (by decide) (by decide)⟩

end Blocklist.Quota
