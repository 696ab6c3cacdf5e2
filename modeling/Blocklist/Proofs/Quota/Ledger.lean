import Blocklist.Proofs.Quota.Verdicts
import Blocklist.Proofs.SourceMap

/-! The ledger of the quotas. Dropped records give up their source entries, surviving ones
find theirs, and distinct ids keep the two apart.
-/

namespace Blocklist.Quota

open Declarative

theorem Ledger.sourcesOf_erase (ledger : Ledger) {taken id : UInt32} (other : id ≠ taken)
    : (ledger.erase taken).sourcesOf id = ledger.sourcesOf id :=
  SourceEntry.ofRecord_withoutRecord ledger.sources other

theorem Ledger.rejectionsOf_erase (ledger : Ledger) {taken id : UInt32} (other : id ≠ taken)
    : (ledger.erase taken).rejectionsOf id = ledger.rejectionsOf id := by
  rw [Ledger.rejectionsOf, Ledger.erase, List.filter_filter]
  apply List.filter_congr
  intro rejection _
  by_cases bound : rejection.recordId? = some id
  · simp [bound, other]
  · simp [bound]

/-- Entries that were all given up for one reason are excluded by that quota only. -/
theorem excludedBy_given_up (kind reason : QuotaKind) (entries : List SourceEntry)
    : excludedBy kind (entries.map (reason, ·)) = if reason = kind then entries else [] := by
  rw [excludedBy, List.filter_map, List.map_map]
  by_cases same : reason = kind
  · simp [same, Function.comp_def]
  · simp [same, Function.comp_def]

/-- The entries that a quota excludes are those of the records it drops, record by record.
Witness: induction on the verdicts; a dropped record takes no entry of a later one away.
-/
theorem excludedBy_settle (kind : QuotaKind) (ledger : Ledger)
    (verdicts : List (Record × Verdict)) (distinct : (verdicts.map (·.1.id)).Nodup)
    : excludedBy kind (settle ledger verdicts).1
      = (dropped kind verdicts).flatMap fun record => ledger.sourcesOf record.id := by
  induction verdicts generalizing ledger with
  | nil => rfl
  | cons given verdicts ih =>
      obtain ⟨record, verdict⟩ := given
      obtain ⟨fresh, later⟩ := List.nodup_cons.mp distinct
      have others : (dropped kind verdicts).flatMap
            (fun other => (ledger.erase record.id).sourcesOf other.id)
          = (dropped kind verdicts).flatMap fun other => ledger.sourcesOf other.id := by
        apply List.flatMap_congr
        intro other member
        obtain ⟨known, listed, rfl⟩ := List.mem_map.mp member
        apply ledger.sourcesOf_erase
        intro same
        exact fresh (List.mem_map.mpr ⟨known, (List.mem_filter.mp listed).1, same⟩)
      cases verdict with
      | kept => exact ih ledger later
      | dropped reason =>
          have rest := ih (ledger.erase record.id) later
          rw [others] at rest
          have both : excludedBy kind (settle ledger ((record, .dropped reason) :: verdicts)).1
              = excludedBy kind ((ledger.sourcesOf record.id).map (reason, ·))
                ++ excludedBy kind (settle (ledger.erase record.id) verdicts).1 := by
            simp only [excludedBy, settle, List.filter_append, List.map_append]
          rw [both, rest, excludedBy_given_up]
          by_cases same : reason = kind
          · simp [dropped, same]
          · simp [dropped, same]

theorem excludedBy_settle_eq_nil (kind : QuotaKind) {ledger : Ledger}
    {verdicts : List (Record × Verdict)} (distinct : (verdicts.map (·.1.id)).Nodup)
    (none : dropped kind verdicts = [])
    : excludedBy kind (settle ledger verdicts).1 = [] := by
  rw [excludedBy_settle kind ledger verdicts distinct, none, List.flatMap_nil]

/-- What a settled ledger holds of a record that no verdict drops is what it held before. -/
theorem settle_ledger (ledger : Ledger) (verdicts : List (Record × Verdict)) {id : UInt32}
    (spared : ∀ given ∈ verdicts, given.2 ≠ .kept → given.1.id ≠ id)
    : (settle ledger verdicts).2.sourcesOf id = ledger.sourcesOf id
      ∧ (settle ledger verdicts).2.rejectionsOf id = ledger.rejectionsOf id := by
  induction verdicts generalizing ledger with
  | nil => exact ⟨rfl, rfl⟩
  | cons given verdicts ih =>
      obtain ⟨record, verdict⟩ := given
      have below := fun next => ih next fun other member => spared other (by simp [member])
      cases verdict with
      | kept => exact below ledger
      | dropped kind =>
          have other : id ≠ record.id := (spared (record, .dropped kind) (by simp) (by simp)).symm
          obtain ⟨sources, rejections⟩ := below (ledger.erase record.id)
          exact ⟨sources.trans (ledger.sourcesOf_erase other),
            rejections.trans (ledger.rejectionsOf_erase other)⟩

theorem collect_eq (ledger : Ledger) (records : List Record)
    (distinct : (records.map Record.id).Nodup)
    : collect ledger records
      = (records.flatMap fun record => ledger.sourcesOf record.id,
          records.flatMap fun record => ledger.rejectionsOf record.id) := by
  induction records generalizing ledger with
  | nil => rfl
  | cons record records ih =>
      obtain ⟨fresh, later⟩ := List.nodup_cons.mp distinct
      have other : ∀ next ∈ records, next.id ≠ record.id :=
        fun next member same => fresh (List.mem_map.mpr ⟨next, member, same⟩)
      rw [collect, ih (ledger.erase record.id) later]
      simp only [List.flatMap_cons, Prod.mk.injEq, List.append_cancel_left_eq]
      constructor <;> apply List.flatMap_congr <;> intro next member
      · exact ledger.sourcesOf_erase (other next member)
      · exact ledger.rejectionsOf_erase (other next member)

end Blocklist.Quota
