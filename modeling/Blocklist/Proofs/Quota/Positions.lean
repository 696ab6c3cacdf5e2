import Blocklist.Proofs.Quota.Verdicts

/-! The quotas read off positions. Whether a record survives depends on its position, on the
unsafe records up to it, and on the regular expressions up to it that passed the first two
quotas; nothing else about the other records counts.
-/

namespace Blocklist.Quota

open Declarative

/-- The records at the positions that pass a test, in order. -/
def selected (test : Nat → Record → Bool) (records : List Record) : List Record :=
  (records.zipIdx.filter fun place => test place.2 place.1).map Prod.fst

section

variable (settings : Settings) (records : List Record) (position : Nat) (record : Record)

/-- The record at a position is within the quotas of rules and of unsafe rules. The latter
counts the unsafe records up to the position, also those beyond the quota of rules.
-/
def WithinRules : Prop :=
  ∀ maxRules ∈ settings.maxRules, position < maxRules
    ∧ (record.isUnsafe → ∀ maxUnsafe ∈ settings.maxUnsafeRules,
        (records.take (position + 1)).countP (·.isUnsafe) ≤ maxUnsafe)

instance : Decidable (WithinRules settings records position record) :=
  inferInstanceAs (Decidable (∀ maxRules ∈ settings.maxRules, _))

/-- How many regular expressions up to a position are within the quotas of rules. -/
def regexesUpTo : Nat :=
  (records.zipIdx.take (position + 1)).countP fun place =>
    place.1.isRegex && WithinRules settings records place.2 place.1

/-- The record at a position is within the quota of regular expressions. -/
def WithinRegex : Prop :=
  ∀ maxRegex ∈ settings.maxRegexRules,
    record.isRegex → regexesUpTo settings records position ≤ maxRegex

instance : Decidable (WithinRegex settings records position record) :=
  inferInstanceAs (Decidable (∀ maxRegex ∈ settings.maxRegexRules, _))

end

-----------------------------------------------------------------------------------------
-- Verdicts by position
-----------------------------------------------------------------------------------------

theorem mem_selected {test : Nat → Record → Bool} {records : List Record} {record : Record}
    : record ∈ selected test records
      ↔ ∃ position, (record, position) ∈ records.zipIdx ∧ test position record = true := by
  simp [selected]

theorem selected_sublist (test : Nat → Record → Bool) (records : List Record)
    : (selected test records).Sublist records := by
  have part : (selected test records).Sublist (records.zipIdx.map Prod.fst) :=
    List.filter_sublist.map Prod.fst
  rwa [List.zipIdx_map_fst] at part

theorem filter_zipIdx_eq_selected {records : List Record} {test : Record × Nat → Bool}
    {other : Nat → Record → Bool}
    (same : ∀ place ∈ records.zipIdx, test place = other place.2 place.1)
    : (records.zipIdx.filter test).map Prod.fst = selected other records := by
  rw [selected, List.filter_congr same]

theorem survivors_map (verdict : Record × Nat → Verdict) (places : List (Record × Nat))
    : survivors (places.map fun place => (place.1, verdict place))
      = (places.filter (verdict · == .kept)).map Prod.fst := by
  rw [survivors, List.filter_map, List.map_map]
  rfl

theorem dropped_map (kind : QuotaKind) (verdict : Record × Nat → Verdict)
    (places : List (Record × Nat))
    : dropped kind (places.map fun place => (place.1, verdict place))
      = (places.filter (verdict · == .dropped kind)).map Prod.fst := by
  rw [dropped, List.filter_map, List.map_map]
  rfl

/-- The verdicts of the quotas of rules, position by position. -/
theorem positionVerdicts_zipIdx (maxRules : Nat) (maxUnsafe : Option Nat)
    (records : List Record)
    : positionVerdicts maxRules maxUnsafe 0 0 records
      = records.zipIdx.map fun place =>
          (place.1, positionVerdict maxRules maxUnsafe place.2
            ((records.take (place.2 + 1)).countP (·.isUnsafe)) place.1) := by
  rw [positionVerdicts_eq, List.mapIdx_eq_zipIdx_map]
  simp only [Nat.zero_add]

section

variable {maxRules position unsafeCount : Nat} {maxUnsafe : Option Nat} {record : Record}

/-- An unsafe record over the quota of its kind is dropped for that, wherever it stands. -/
theorem positionVerdict_eq
    : positionVerdict maxRules maxUnsafe position unsafeCount record
      = if record.isUnsafe ∧ ∃ quota ∈ maxUnsafe, quota < unsafeCount then
          .dropped .unsafeRules
        else if position < maxRules then .kept
        else .dropped .rules := by
  cases maxUnsafe <;> simp [positionVerdict]

theorem positionVerdict_eq_kept
    : positionVerdict maxRules maxUnsafe position unsafeCount record = .kept
      ↔ position < maxRules
        ∧ (record.isUnsafe → ∀ quota ∈ maxUnsafe, unsafeCount ≤ quota) := by
  rw [positionVerdict_eq]
  split
  · rename_i exceeded
    obtain ⟨isUnsafe, quota, set, more⟩ := exceeded
    simp only [reduceCtorEq, false_iff, not_and, not_forall]
    exact fun _ => ⟨isUnsafe, quota, set, by omega⟩
  · rename_i within
    simp only [not_and, not_exists, Nat.not_lt] at within
    split
    · rename_i inside
      exact iff_of_true rfl ⟨inside, within⟩
    · rename_i outside
      simp [outside]

end

theorem limitRules_of_some {settings : Settings} {maxRules : Nat}
    (quota : settings.maxRules = some maxRules) (records : List Record) (ledger : Ledger)
    : (limitRules settings records ledger).records
      = survivors (positionVerdicts maxRules settings.maxUnsafeRules 0 0 records) := by
  simp only [limitRules, quota]

/-- The quotas of rules keep the records at the positions within them. -/
theorem limitRules_records (settings : Settings) (records : List Record) (ledger : Ledger)
    : (limitRules settings records ledger).records
      = selected (fun position record => WithinRules settings records position record)
          records := by
  cases quota : settings.maxRules with
  | none => simp [limitRules, quota, selected, WithinRules]
  | some maxRules =>
      rw [limitRules_of_some quota, positionVerdicts_zipIdx, survivors_map]
      apply filter_zipIdx_eq_selected
      intro place _
      rw [Bool.eq_iff_iff, beq_iff_eq, positionVerdict_eq_kept, decide_eq_true_iff]
      simp only [WithinRules, quota, Option.mem_some_iff, forall_eq']

/-- The verdicts of the quota of regular expressions on the records that passed a test,
position by position. Witness: induction on the records from a position on; those `before`
it give the count that is reached there.
-/
theorem regexVerdicts_zipIdx (quota : Nat) (test : Record × Nat → Bool)
    (before records : List Record)
    : regexVerdicts quota (before.zipIdx.countP fun place => place.1.isRegex && test place)
        (((records.zipIdx before.length).filter test).map Prod.fst)
      = ((records.zipIdx before.length).filter test).map fun place =>
          (place.1,
            if place.1.isRegex
                && quota < ((before ++ records).zipIdx.take (place.2 + 1)).countP
                    (fun place => place.1.isRegex && test place) then
              .dropped .regexRules
            else .kept) := by
  induction records generalizing before with
  | nil => rfl
  | cons record records ih =>
      have later := ih (before ++ [record])
      have reached : (before ++ record :: records).zipIdx.take (before.length + 1)
          = before.zipIdx ++ [(record, before.length)] := by
        rw [List.append_cons, List.zipIdx_append, List.take_left' (by simp), List.zipIdx_append]
        simp
      rw [← List.append_cons, List.length_append, List.length_singleton, List.zipIdx_append,
        List.countP_append] at later
      simp only [List.zipIdx_cons, List.zipIdx_nil, Nat.zero_add, List.countP_singleton] at later
      rw [List.zipIdx_cons, List.filter_cons]
      by_cases passed : test (record, before.length)
      · simp only [passed, if_true, List.map_cons, regexVerdicts, reached, List.countP_append,
          List.countP_singleton, Bool.and_true] at later ⊢
        cases isRegex : record.isRegex
        · simpa [isRegex] using later
        · simp only [isRegex, Bool.not_true, Bool.false_eq_true, if_false, Bool.true_and,
            if_true, decide_eq_true_eq] at later ⊢
          rw [later]
          congr 2
          by_cases room : before.zipIdx.countP (fun place => place.1.isRegex && test place) < quota
          · rw [if_pos room, if_neg (by omega)]
          · rw [if_neg room, if_pos (by omega)]
      · simpa [passed] using later

/-- The verdicts of the quota of regular expressions on what the quotas of rules keep. -/
theorem regexVerdicts_selected (settings : Settings) (maxRegex : Nat) (records : List Record)
    : regexVerdicts maxRegex 0
        (selected (fun position record => WithinRules settings records position record) records)
      = (records.zipIdx.filter fun place =>
          WithinRules settings records place.2 place.1).map fun place =>
            (place.1,
              if place.1.isRegex && maxRegex < regexesUpTo settings records place.2 then
                .dropped .regexRules
              else .kept) :=
  regexVerdicts_zipIdx maxRegex
    (fun place => WithinRules settings records place.2 place.1) [] records

theorem limitRegex_of_some {settings : Settings} {maxRegex : Nat}
    (quota : settings.maxRegexRules = some maxRegex) (passed : Passed)
    : (limitRegex settings passed).records
      = survivors (regexVerdicts maxRegex 0 passed.records) := by
  simp only [limitRegex, quota]

/-- What survives all quotas stands at the positions within each of them. -/
theorem apply_records_eq (settings : Settings) (records : List Record)
    (sources : List SourceEntry) (rejections : List Rejection)
    : (apply settings records sources rejections).records
      = selected (fun position record => WithinRules settings records position record
          ∧ WithinRegex settings records position record) records := by
  have passed := limitRules_records settings records
    ⟨sources, rejections.filter (isBound records)⟩
  simp only [apply]
  cases quota : settings.maxRegexRules with
  | none =>
      simp only [limitRegex, quota, passed, WithinRegex, Option.not_mem_none, false_implies,
        implies_true, and_true]
  | some maxRegex =>
      rw [limitRegex_of_some quota, passed, regexVerdicts_selected, survivors_map,
        List.filter_filter]
      apply filter_zipIdx_eq_selected
      intro place _
      rw [Bool.eq_iff_iff, Bool.and_eq_true, beq_iff_eq, decide_eq_true_iff, decide_eq_true_iff]
      simp only [WithinRegex, quota, Option.mem_some_iff, forall_eq']
      cases isRegex : place.1.isRegex
      · simp
      · simp [and_comm]

-----------------------------------------------------------------------------------------
-- Bounds
-----------------------------------------------------------------------------------------

theorem survivors_cons (record : Record) (verdict : Verdict)
    (verdicts : List (Record × Verdict))
    : survivors ((record, verdict) :: verdicts)
      = if verdict = .kept then record :: survivors verdicts else survivors verdicts := by
  cases verdict <;> simp [survivors]

/-- No more records survive than there is room for after a position. -/
theorem survivors_length_le (maxRules : Nat) (maxUnsafe : Option Nat)
    (position unsafeCount : Nat) (records : List Record)
    : (survivors (positionVerdicts maxRules maxUnsafe position unsafeCount records)).length
      ≤ maxRules - position := by
  induction records generalizing position unsafeCount with
  | nil => simp [positionVerdicts, survivors]
  | cons record records ih =>
      rw [positionVerdicts, survivors_cons]
      generalize (if record.isUnsafe then unsafeCount + 1 else unsafeCount) = reached
      have below := ih (position + 1) reached
      split
      · rename_i kept
        have inside := (positionVerdict_eq_kept.mp kept).1
        rw [List.length_cons]
        omega
      · omega

/-- No more unsafe records survive than their quota has left after a count. -/
theorem survivors_unsafe_le (maxRules quota position unsafeCount : Nat) (records : List Record)
    : (survivors (positionVerdicts maxRules (some quota) position unsafeCount records)).countP
        (·.isUnsafe)
      ≤ quota - unsafeCount := by
  induction records generalizing position unsafeCount with
  | nil => simp [positionVerdicts, survivors]
  | cons record records ih =>
      rw [positionVerdicts]
      cases isUnsafe : record.isUnsafe
      · have below := ih (position + 1) unsafeCount
        simp only [Bool.false_eq_true, if_false, survivors_cons]
        split
        · rwa [List.countP_cons_of_neg (by simp [isUnsafe])]
        · exact below
      · have below := ih (position + 1) (unsafeCount + 1)
        simp only [if_true, survivors_cons]
        split
        · rename_i kept
          have room := (positionVerdict_eq_kept.mp kept).2 isUnsafe quota rfl
          simp only [List.countP_cons, isUnsafe, if_true]
          omega
        · omega

/-- No more regular expressions survive than their quota has left after a count. -/
theorem survivors_regex_le (quota count : Nat) (records : List Record)
    : (survivors (regexVerdicts quota count records)).countP (·.isRegex) ≤ quota - count := by
  induction records generalizing count with
  | nil => simp [regexVerdicts, survivors]
  | cons record records ih =>
      rw [regexVerdicts]
      cases isRegex : record.isRegex
      · simpa [survivors_cons, isRegex] using ih count
      · have below := ih (count + 1)
        by_cases room : count < quota
        · simp only [Bool.not_true, Bool.false_eq_true, if_false, room, if_true, survivors_cons,
            List.countP_cons, isRegex]
          omega
        · simp only [Bool.not_true, Bool.false_eq_true, if_false, room, survivors_cons,
            reduceCtorEq]
          omega

theorem limitRegex_sublist (settings : Settings) (passed : Passed)
    : (limitRegex settings passed).records.Sublist passed.records := by
  cases quota : settings.maxRegexRules with
  | none => simp [limitRegex, quota]
  | some maxRegex =>
      rw [limitRegex_of_some quota]
      have part := survivors_sublist (regexVerdicts maxRegex 0 passed.records)
      rwa [regexVerdicts_records] at part

/-- Records that no quota cuts. -/
structure Within (settings : Settings) (records : List Record) : Prop where
  rules : ∀ maxRules ∈ settings.maxRules, records.length ≤ maxRules
    ∧ ∀ maxUnsafe ∈ settings.maxUnsafeRules, records.countP (·.isUnsafe) ≤ maxUnsafe
  regexes : ∀ maxRegex ∈ settings.maxRegexRules, records.countP (·.isRegex) ≤ maxRegex

/-- The quotas of rules bound what they leave, and later quotas leave no more of it. -/
theorem apply_within (settings : Settings) (records : List Record)
    (sources : List SourceEntry) (rejections : List Rejection)
    : Within settings (apply settings records sources rejections).records := by
  have part := limitRegex_sublist settings
    (limitRules settings records ⟨sources, rejections.filter (isBound records)⟩)
  refine ⟨?_, ?_⟩
  · intro maxRules quota
    rw [limitRules_of_some quota] at part
    refine ⟨Nat.le_trans part.length_le (survivors_length_le maxRules _ 0 0 records), ?_⟩
    intro maxUnsafe unsafeQuota
    rw [Option.mem_def.mp unsafeQuota] at part
    exact Nat.le_trans part.countP_le (survivors_unsafe_le maxRules maxUnsafe 0 0 records)
  · intro maxRegex quota
    simp only [apply, limitRegex_of_some quota]
    exact survivors_regex_le maxRegex 0 _

/-- What the quotas keep. With a quota of rules, a record survives when its position is below
it and, if the record is unsafe and their quota is set, no more unsafe records than that quota
stand up to its position. With a quota of regular expressions, a regular expression survives
when no more of those that meet the first condition than that quota stand up to its position.
So each quota that is set bounds what it counts.
-/
theorem apply_keeps_positions_within_quotas (settings : Settings) (records : List Record)
    (sources : List SourceEntry) (rejections : List Rejection)
    : let output := apply settings records sources rejections
      output.records
        = selected (fun position record => WithinRules settings records position record
            ∧ WithinRegex settings records position record) records
      ∧ (∀ maxRules ∈ settings.maxRules,
          output.records.length ≤ maxRules
          ∧ ∀ maxUnsafe ∈ settings.maxUnsafeRules,
              output.records.countP (·.isUnsafe) ≤ maxUnsafe)
      ∧ ∀ maxRegex ∈ settings.maxRegexRules, output.records.countP (·.isRegex) ≤ maxRegex := by
  have within := apply_within settings records sources rejections
  exact ⟨apply_records_eq settings records sources rejections, within.rules, within.regexes⟩

end Blocklist.Quota
