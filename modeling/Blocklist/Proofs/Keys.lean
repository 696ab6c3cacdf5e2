import Mathlib.Data.List.Perm.Basic

/-! Lists whose items are told apart by a key: taken apart by key they are the same lists up
to order, and distinct keys mean distinct items.
-/

namespace Blocklist

/-- The items of each key in turn are all items, when every key that occurs is listed once.
Witness: induction on the keys; the items of the first key come before all others.
-/
theorem flatMap_filter_perm {α κ : Type} [DecidableEq κ] (key : α → κ) (keys : List κ)
    (items : List α) (distinct : keys.Nodup) (covered : ∀ item ∈ items, key item ∈ keys)
    : (keys.flatMap fun wanted => items.filter (key · == wanted)).Perm items := by
  induction keys generalizing items with
  | nil =>
      cases items with
      | nil => exact .rfl
      | cons item items => exact absurd (covered item (by simp)) (by simp)
  | cons first keys ih =>
      obtain ⟨fresh, later⟩ := List.nodup_cons.mp distinct
      have others := ih (items.filter (key · != first)) later (by
        intro item member
        obtain ⟨known, differs⟩ := List.mem_filter.mp member
        exact (List.mem_cons.mp (covered item known)).resolve_left (by simpa using differs))
      have unchanged : (keys.flatMap fun wanted => items.filter (key · == wanted))
          = keys.flatMap fun wanted =>
              (items.filter (key · != first)).filter (key · == wanted) := by
        apply List.flatMap_congr
        intro wanted member
        rw [List.filter_filter]
        apply List.filter_congr
        intro item _
        by_cases same : key item = wanted
        · have differs : wanted ≠ first := fun equal => fresh (equal ▸ member)
          simp [same, differs]
        · simp [same]
      rw [List.flatMap_cons, unchanged]
      exact (others.append_left _).trans (List.filter_append_perm (key · == first) items)

/-- A test that the items of the first list pass and those of the second fail tells the two
apart again.
-/
theorem filter_append_parts {α : Type} {test : α → Bool} {front back : List α}
    (passed : ∀ item ∈ front, test item = true) (failed : ∀ item ∈ back, test item = false)
    : (front ++ back).filter test = front ∧ (front ++ back).filter (!test ·) = back := by
  have none : back.filter test = [] := by simpa using failed
  have gone : front.filter (!test ·) = [] := by simpa using passed
  rw [List.filter_append, List.filter_append, none, gone, List.append_nil, List.nil_append]
  exact ⟨List.filter_eq_self.mpr passed, by simpa using failed⟩

/-- An item whose key no other item has is all that a search by its key finds. -/
theorem filter_key_eq_singleton {α κ : Type} [DecidableEq κ] {key : α → κ}
    {items : List α} {item : α} (distinct : (items.map key).Nodup) (member : item ∈ items)
    : items.filter (key · == key item) = [item] := by
  induction items with
  | nil => cases member
  | cons head items ih =>
      obtain ⟨fresh, later⟩ := List.nodup_cons.mp distinct
      rcases List.mem_cons.mp member with rfl | inside
      · have others : items.filter (key · == key item) = [] := by
          rw [List.filter_eq_nil_iff]
          intro other known same
          exact fresh (List.mem_map.mpr ⟨other, known, beq_iff_eq.mp same⟩)
        simp [others]
      · have differs : key head ≠ key item :=
          fun same => fresh (List.mem_map.mpr ⟨item, inside, same.symm⟩)
        simp [differs, ih later inside]

/-- A search by the key of one block finds that block, when each block has a key of its own
that all its items share. Witness: induction on the blocks.
-/
theorem filter_flatMap_key {α β κ : Type} [DecidableEq κ] {key : α → κ} {label : β → κ}
    {items : β → List α} {blocks : List β} {block : β} (distinct : (blocks.map label).Nodup)
    (keyed : ∀ block ∈ blocks, ∀ item ∈ items block, key item = label block)
    (member : block ∈ blocks)
    : (blocks.flatMap items).filter (key · == label block) = items block := by
  induction blocks with
  | nil => cases member
  | cons head blocks ih =>
      obtain ⟨fresh, later⟩ := List.nodup_cons.mp distinct
      obtain ⟨own, others⟩ := List.forall_mem_cons.mp keyed
      rw [List.flatMap_cons, List.filter_append]
      rcases List.mem_cons.mp member with rfl | inside
      · have all : (items block).filter (key · == label block) = items block := by
          rw [List.filter_eq_self]
          exact fun item listed => beq_iff_eq.mpr (own item listed)
        have none : (blocks.flatMap items).filter (key · == label block) = [] := by
          rw [List.filter_eq_nil_iff]
          intro item listed same
          obtain ⟨other, known, within⟩ := List.mem_flatMap.mp listed
          rw [others other known item within, beq_iff_eq] at same
          exact fresh (List.mem_map.mpr ⟨other, known, same⟩)
        rw [all, none, List.append_nil]
      · have none : (items head).filter (key · == label block) = [] := by
          rw [List.filter_eq_nil_iff]
          intro item listed same
          rw [own item listed, beq_iff_eq] at same
          exact fresh (List.mem_map.mpr ⟨block, inside, same.symm⟩)
        rw [none, List.nil_append, ih later others inside]

/-- Items with the same key are one item, when the keys are distinct. -/
theorem eq_of_filterMap_nodup {α κ : Type} {key : α → Option κ} {items : List α}
    (distinct : (items.filterMap key).Nodup) {item other : α} {value : κ}
    (member : item ∈ items) (found : other ∈ items) (keyed : key item = some value)
    (again : key other = some value)
    : item = other := by
  induction items with
  | nil => cases member
  | cons head items ih =>
      rw [List.filterMap_cons] at distinct
      rcases List.mem_cons.mp member with rfl | earlier <;>
        rcases List.mem_cons.mp found with rfl | later
      · rfl
      · simp only [keyed, List.nodup_cons] at distinct
        exact absurd (List.mem_filterMap.mpr ⟨other, later, again⟩) distinct.1
      · simp only [again, List.nodup_cons] at distinct
        exact absurd (List.mem_filterMap.mpr ⟨item, earlier, keyed⟩) distinct.1
      · refine ih ?_ earlier later
        split at distinct
        · exact distinct
        · exact (List.nodup_cons.mp distinct).2

end Blocklist
