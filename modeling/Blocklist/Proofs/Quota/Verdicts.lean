import Blocklist.Quota
import Blocklist.Proofs.Keys

/-! Verdicts of the quotas. Each record gets one verdict, which depends on its position and
on how many of its kind have come up to it.
-/

namespace Blocklist.Quota

open Declarative

/-- The records that a quota drops, in order. -/
def dropped (kind : QuotaKind) (verdicts : List (Record × Verdict)) : List Record :=
  (verdicts.filter (·.2 == .dropped kind)).map Prod.fst

/-- The verdict at each position counts the unsafe records up to that position. Witness:
induction on the records, with the position and the count reached so far.
-/
theorem positionVerdicts_eq (maxRules : Nat) (maxUnsafe : Option Nat)
    (position unsafeCount : Nat) (records : List Record)
    : positionVerdicts maxRules maxUnsafe position unsafeCount records
      = records.mapIdx fun index record =>
          (record, positionVerdict maxRules maxUnsafe (position + index)
            (unsafeCount + (records.take (index + 1)).countP (·.isUnsafe)) record) := by
  induction records generalizing position unsafeCount with
  | nil => rfl
  | cons record records ih =>
      rw [positionVerdicts, ih, List.mapIdx_cons]
      congr 1
      · cases isUnsafe : record.isUnsafe <;> simp [isUnsafe]
      · congr 1
        funext index other
        have shifted : position + 1 + index = position + (index + 1) := by omega
        cases isUnsafe : record.isUnsafe
        · simp [isUnsafe, shifted]
        · have counted (count : Nat) : unsafeCount + 1 + count = unsafeCount + (count + 1) := by
            omega
          simp [isUnsafe, shifted, counted]

/-- The verdict at each position counts the regular expressions up to that position. -/
theorem regexVerdicts_eq (maxRegex count : Nat) (records : List Record)
    : regexVerdicts maxRegex count records
      = records.mapIdx fun index record =>
          (record,
            if record.isRegex
                && maxRegex < count + (records.take (index + 1)).countP (·.isRegex) then
              .dropped .regexRules
            else .kept) := by
  induction records generalizing count with
  | nil => rfl
  | cons record records ih =>
      rw [regexVerdicts, List.mapIdx_cons]
      cases isRegex : record.isRegex
      · simp [isRegex, ih]
      · have counted (more : Nat) : count + 1 + more = count + (more + 1) := by omega
        by_cases room : count < maxRegex
        · have within : ¬maxRegex < count + 1 := by omega
          simp [isRegex, ih, counted, room, within]
        · have beyond : maxRegex < count + 1 := by omega
          simp [isRegex, ih, counted, room, beyond]

theorem positionVerdicts_records (maxRules : Nat) (maxUnsafe : Option Nat)
    (position unsafeCount : Nat) (records : List Record)
    : (positionVerdicts maxRules maxUnsafe position unsafeCount records).map Prod.fst
      = records := by
  induction records generalizing position unsafeCount with
  | nil => rfl
  | cons record records ih => rw [positionVerdicts, List.map_cons, ih]

theorem regexVerdicts_records (maxRegex count : Nat) (records : List Record)
    : (regexVerdicts maxRegex count records).map Prod.fst = records := by
  induction records generalizing count with
  | nil => rfl
  | cons record records ih =>
      rw [regexVerdicts]
      split <;> rw [List.map_cons, ih]

theorem verdicts_distinct {verdicts : List (Record × Verdict)} {records : List Record}
    (whole : verdicts.map Prod.fst = records) (distinct : (records.map Record.id).Nodup)
    : (verdicts.map (·.1.id)).Nodup := by
  rw [← whole, List.map_map] at distinct
  exact distinct

theorem survivors_sublist (verdicts : List (Record × Verdict))
    : (survivors verdicts).Sublist (verdicts.map Prod.fst) :=
  List.filter_sublist.map Prod.fst

/-- A record survives or is dropped for one reason. -/
theorem verdicts_perm (verdicts : List (Record × Verdict))
    : (survivors verdicts ++ (dropped .unsafeRules verdicts
        ++ (dropped .rules verdicts ++ dropped .regexRules verdicts))).Perm
        (verdicts.map Prod.fst) := by
  have parted := flatMap_filter_perm Prod.snd
    [.kept, .dropped .unsafeRules, .dropped .rules, .dropped .regexRules] verdicts
    (by decide) (by
      rintro ⟨record, verdict⟩ -
      rcases verdict with _ | kind
      · simp
      · cases kind <;> simp)
  simpa only [List.flatMap_cons, List.flatMap_nil, List.append_nil, List.map_append, survivors,
    dropped] using parted.map Prod.fst

theorem dropped_eq_nil {kind : QuotaKind} {verdicts : List (Record × Verdict)}
    (absent : ∀ given ∈ verdicts, given.2 ≠ .dropped kind)
    : dropped kind verdicts = [] := by
  rw [dropped, List.map_eq_nil_iff, List.filter_eq_nil_iff]
  intro given member
  simpa using absent given member

theorem dropped_unsafe_eq_nil {maxRules : Nat} {maxUnsafe : Option Nat}
    {records : List Record}
    (within : ∀ limit, maxUnsafe = some limit → records.countP (·.isUnsafe) ≤ limit)
    : dropped .unsafeRules (positionVerdicts maxRules maxUnsafe 0 0 records) = [] := by
  apply dropped_eq_nil
  intro given member
  rw [positionVerdicts_eq] at member
  obtain ⟨index, bound, rfl⟩ := List.mem_mapIdx.mp member
  have counted : (records.take (index + 1)).countP (·.isUnsafe)
      ≤ records.countP (·.isUnsafe) := (List.take_sublist _ _).countP_le
  cases maxUnsafe with
  | none =>
      simp only [positionVerdict, Option.any_none, Bool.and_false, Bool.false_eq_true, if_false]
      split <;> simp
  | some limit =>
      have small := within limit rfl
      have room : ¬limit < (records.take (index + 1)).countP (·.isUnsafe) := by omega
      simp only [positionVerdict, Option.any_some, Nat.zero_add, room, decide_false,
        Bool.and_false, Bool.false_eq_true, if_false]
      split <;> simp

theorem dropped_rules_eq_nil {maxRules : Nat} {maxUnsafe : Option Nat}
    {records : List Record} (within : records.length ≤ maxRules)
    : dropped .rules (positionVerdicts maxRules maxUnsafe 0 0 records) = [] := by
  apply dropped_eq_nil
  intro given member
  rw [positionVerdicts_eq] at member
  obtain ⟨index, bound, rfl⟩ := List.mem_mapIdx.mp member
  have inside : 0 + index < maxRules := by omega
  simp only [positionVerdict, inside, if_true]
  split <;> simp

theorem dropped_regex_eq_nil (maxRules : Nat) (maxUnsafe : Option Nat)
    (records : List Record)
    : dropped .regexRules (positionVerdicts maxRules maxUnsafe 0 0 records) = [] := by
  apply dropped_eq_nil
  intro given member
  rw [positionVerdicts_eq] at member
  obtain ⟨index, bound, rfl⟩ := List.mem_mapIdx.mp member
  simp only [positionVerdict]
  split
  · simp
  · split <;> simp

/-- The quota of regular expressions drops nothing for another reason, and nothing at all
when their number is within it.
-/
theorem regexVerdicts_dropped {maxRegex : Nat} {records : List Record} {kind : QuotaKind}
    (other : kind = .regexRules → records.countP (·.isRegex) ≤ maxRegex)
    : dropped kind (regexVerdicts maxRegex 0 records) = [] := by
  apply dropped_eq_nil
  intro given member
  rw [regexVerdicts_eq] at member
  obtain ⟨index, bound, rfl⟩ := List.mem_mapIdx.mp member
  have counted : (records.take (index + 1)).countP (·.isRegex)
      ≤ records.countP (·.isRegex) := (List.take_sublist _ _).countP_le
  split
  · rename_i beyond
    simp only [Nat.zero_add, Bool.and_eq_true, decide_eq_true_eq] at beyond
    intro same
    have within := other (Verdict.dropped.inj same).symm
    omega
  · simp

end Blocklist.Quota
