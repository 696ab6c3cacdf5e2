import Mathlib
import Blocklist.Proofs.Rule.Modifiers

/-! The header that a rule removes has a name without capital letters, and is not protected on
the side where it is removed.
-/

namespace Blocklist.Rule

/-- A name of a header, without capital letters, that is none of those that stay. -/
structure Removable (kept : List String) (name : String) : Prop where
  named : name ≠ ""
  lower : ∀ c ∈ name.toList, c.isUpper = false
  unprotected : name ∉ kept

/-- The headers that stay on the side where a header is removed. -/
def protectedBeside (removal : HeaderRemoval) : List String :=
  if removal.fromRequests then HeaderRemoval.protectedInRequests
  else HeaderRemoval.protectedInResponses

/-- Reading a header checks its name on the side that the value asks for. -/
theorem ofValue_removable {value : String} {removal : HeaderRemoval}
    (read : HeaderRemoval.ofValue value = .ok removal)
    : Removable (protectedBeside removal) removal.name := by
  have lower (rest : List Char)
      : ∀ c ∈ (String.ofList (Text.asciiLower rest)).toList, c.isUpper = false := by
    intro c member
    rw [String.toList_ofList, Text.asciiLower] at member
    obtain ⟨letter, -, rfl⟩ := List.mem_map.mp member
    exact Char.isUpper_toLower_eq_false letter
  rw [HeaderRemoval.ofValue] at read
  cases marked : Text.after? HeaderRemoval.requestMark value.toList
  -- the mark only chooses the side
  all_goals
    simp only [marked, Bool.false_eq_true, if_true, if_false] at read
    split at read
    · cases read
    · split at read
      · cases read
      · rename_i filled free
        obtain rfl := Except.ok.inj read
        exact ⟨by simpa using filled, lower _, by simpa [protectedBeside] using free⟩

/-- A rule removes a header only on a side where it is not protected. -/
def ChecksHeader (rule : Rule) : Prop :=
  ∀ removal, rule.headerRemoval = some removal
    → Removable (protectedBeside removal) removal.name

theorem ofFilter_checksHeader {filter : Filter} {origin : Origin} {rule : Rule}
    (built : ofFilter filter origin = .ok rule)
    : ChecksHeader rule := by
  intro removal found
  rw [ofFilter_headerRemoval built] at found
  obtain ⟨modifier, -, named⟩ := List.mem_filterMap.mp (List.mem_of_getLast? found)
  obtain ⟨-, value, -, -, read⟩ := Modifier.header?_eq_some.mp named
  exact ofValue_removable read

end Blocklist.Rule
