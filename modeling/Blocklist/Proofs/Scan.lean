import Blocklist.Proofs.Filter.Listing
import Blocklist.Proofs.Rule.Build
import Blocklist.Scan

/-! Scanned units. Each rule of a unit is built from a line of its text, and no rejection of
a scan is bound to a record.
-/

namespace Blocklist

/-- A unit before it is scanned: its number and text, the cap on its rules, and which rules
to keep.
-/
structure UnitText where
  unit : Nat
  text : String
  cap : Option Nat
  keep : Rule → Bool

/-- The scan of a unit. -/
def UnitText.scan (source : UnitText) : ScannedUnit :=
  ScannedUnit.scan source.unit source.text source.cap source.keep

namespace Scanned

/-- What a text can give. A rule is built from an expansion of one of its filters, and its
origin is the line of that filter; a rejection is bound to no record.
-/
def Given (unit : Nat) (text : String) : Scanned → Prop
  | accepted rule =>
      ∃ entry ∈ Listing.entries text, ∃ filter, entry.content = .network filter
        ∧ ∃ expanded ∈ filter.expand,
            Rule.ofFilter expanded rule.origin = .ok rule
            ∧ rule.origin = ⟨unit, entry.start, entry.number⟩
  | rejected rejection => rejection.recordId? = none

theorem ofText_given {unit : Nat} {text : String} {result : Scanned}
    (member : result ∈ ofText unit text)
    : result.Given unit text := by
  obtain ⟨entry, inside, given⟩ := List.mem_flatMap.mp member
  rw [ofEntry] at given
  split at given
  · rename_i filter content
    obtain ⟨expanded, part, rfl⟩ := List.mem_map.mp given
    rw [ofFilter]
    split
    · rename_i rule built
      have origin := Rule.ofFilter_origin built
      exact ⟨entry, inside, filter, content, expanded, part, origin ▸ built, origin⟩
    · exact rfl
  · rw [List.mem_singleton.mp given]
    exact rfl
  · cases given

/-- A cap adds nothing but the note that the scan stopped. -/
theorem truncate_given {unit left : Nat} {text : String} {results : List Scanned}
    (given : ∀ result ∈ results, result.Given unit text)
    : ∀ result ∈ truncate unit left results, result.Given unit text := by
  induction results generalizing left with
  | nil => simp [truncate]
  | cons head results ih =>
      obtain ⟨first, later⟩ := List.forall_mem_cons.mp given
      cases head with
      | rejected rejection => exact List.forall_mem_cons.mpr ⟨first, ih later⟩
      | accepted rule =>
          cases left with
          | zero => exact List.forall_mem_cons.mpr ⟨first, List.forall_mem_singleton.mpr rfl⟩
          | succ left => exact List.forall_mem_cons.mpr ⟨first, ih later⟩

end Scanned

namespace ScannedUnit

variable {unit : Nat} {text : String} {cap : Option Nat} {keep : Rule → Bool}

/-- A scan collects what its text can give, whichever rules are kept and counted. -/
theorem scan_eq (unit : Nat) (text : String) (cap : Option Nat) (keep : Rule → Bool)
    : ∃ results, scan unit text cap keep = ofScanned unit results
        ∧ ∀ result ∈ results, result.Given unit text := by
  have kept : ∀ result ∈ (Scanned.ofText unit text).filter (Scanned.passes keep),
      result.Given unit text :=
    fun result member => Scanned.ofText_given (List.mem_filter.mp member).1
  cases cap with
  | none => exact ⟨_, rfl, kept⟩
  | some cap => exact ⟨_, rfl, Scanned.truncate_given kept⟩

/-- Every scanned rule is one that its text can give. -/
theorem scan_rules {rule : Rule} (member : rule ∈ (scan unit text cap keep).rules)
    : (Scanned.accepted rule).Given unit text := by
  obtain ⟨results, scanned, given⟩ := scan_eq unit text cap keep
  rw [scanned] at member
  obtain ⟨result, listed, accepted⟩ := List.mem_filterMap.mp member
  cases result with
  | rejected rejection => cases accepted
  | accepted other =>
      obtain rfl := Option.some.inj accepted
      exact given _ listed

/-- The rejections of a scan are about lines, so none is bound to a record. -/
theorem scan_rejections {rejection : Rejection}
    (member : rejection ∈ (scan unit text cap keep).rejections)
    : rejection.recordId? = none := by
  obtain ⟨results, scanned, given⟩ := scan_eq unit text cap keep
  rw [scanned] at member
  obtain ⟨result, listed, refused⟩ := List.mem_filterMap.mp member
  cases result with
  | accepted rule => cases refused
  | rejected other =>
      obtain rfl := Option.some.inj refused
      exact given _ listed

end ScannedUnit

end Blocklist
