import Blocklist.SourceMap

/-! Source maps as a record sees them: its own entries, and those left without it. -/

namespace Blocklist.SourceEntry

@[simp] theorem mem_ofRecord {entries : List SourceEntry} {id : UInt32} {entry : SourceEntry}
    : entry ∈ ofRecord entries id ↔ entry ∈ entries ∧ entry.id = id := by
  simp [ofRecord]

theorem ofRecord_eq_nil {entries : List SourceEntry} {id : UInt32}
    : ofRecord entries id = [] ↔ ∀ entry ∈ entries, entry.id ≠ id := by
  simp [ofRecord]

theorem ofRecord_append (entries more : List SourceEntry) (id : UInt32)
    : ofRecord (entries ++ more) id = ofRecord entries id ++ ofRecord more id :=
  List.filter_append entries more

/-- Taking out the entries of a record leaves those of every other record. -/
theorem ofRecord_withoutRecord (entries : List SourceEntry) {taken id : UInt32}
    (other : id ≠ taken)
    : ofRecord (withoutRecord entries taken) id = ofRecord entries id := by
  rw [ofRecord, withoutRecord, List.filter_filter]
  apply List.filter_congr
  intro entry _
  by_cases linked : entry.id = id
  · simp [linked, other]
  · simp [linked]

/-- The entries of a record link it already. -/
theorem ofRecord_relink (entries : List SourceEntry) (id : UInt32)
    : (ofRecord entries id).map (fun entry => { entry with id := id })
      = ofRecord entries id := by
  have relinked : ∀ entry ∈ ofRecord entries id,
      ({ entry with id := id } : SourceEntry) = entry := by
    intro entry member
    rw [← (mem_ofRecord.mp member).2]
  rw [List.map_congr_left relinked, List.map_id']

/-- Where an entry points, whichever record it links: a unit and a line there. -/
def place (entry : SourceEntry) : Nat × Nat :=
  (entry.unit, entry.index)

end Blocklist.SourceEntry

/-- Where a rule stands: its unit and its line there. -/
def Blocklist.Rule.place (rule : Blocklist.Rule) : Nat × Nat :=
  (rule.origin.unit, rule.origin.index)
