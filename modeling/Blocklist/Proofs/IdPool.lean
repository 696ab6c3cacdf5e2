import Blocklist.IdPool

/-! Ids that a pool gives away: they are in range, they were free, and they are taken from
then on.
-/

namespace Blocklist.IdPool

theorem contains_iff {pool : IdPool} {id : UInt32}
    : pool.contains id = true ↔ id ∈ pool.taken := by
  simp [contains]

/-- The id of a text never exceeds the greatest id, which is a mask of low bits. -/
theorem textId_le_maxId (text : String) : textId text ≤ Declarative.maxId := by
  rw [textId, UInt32.le_iff_toNat_le, UInt32.toNat_and]
  exact Nat.and_le_right

theorem isFree_iff {pool : IdPool} {id : UInt32}
    : pool.isFree id = true ↔ Declarative.minId ≤ id ∧ id ∉ pool.taken := by
  simp [isFree, contains]

/-- A search ends at the first salt whose id is free, by induction on the attempts left. -/
theorem search?_eq_some {pool : IdPool} {text : String} {attempts salt : Nat} {id : UInt32}
    (found : pool.search? text attempts salt = some id)
    : ∃ tried < attempts, id = textId (salted text (salt + tried)) ∧ pool.isFree id
        ∧ ∀ earlier < tried, ¬pool.isFree (textId (salted text (salt + earlier))) := by
  induction attempts generalizing salt with
  | zero => simp [search?] at found
  | succ attempts ih =>
      rw [search?] at found
      split at found
      · rename_i free
        obtain rfl := Option.some.inj found
        exact ⟨0, by omega, by simp, free, by simp⟩
      · rename_i taken
        obtain ⟨tried, bound, named, free, first⟩ := ih found
        refine ⟨tried + 1, by omega, ?_, free, ?_⟩
        · rw [named]
          congr 2
          omega
        · intro earlier below
          cases earlier with
          | zero => simpa using taken
          | succ earlier =>
              have shifted : salt + (earlier + 1) = salt + 1 + earlier := by omega
              rw [shifted]
              exact first earlier (by omega)

/-- A search ends without an id exactly when none of its salts leads to a free one. -/
theorem search?_eq_none {pool : IdPool} {text : String} {attempts salt : Nat}
    : pool.search? text attempts salt = none
      ↔ ∀ tried < attempts, pool.isFree (textId (salted text (salt + tried))) = false := by
  induction attempts generalizing salt with
  | zero => simp [search?]
  | succ attempts ih =>
      rw [search?, Nat.forall_lt_succ_left]
      by_cases free : pool.isFree (textId (salted text salt)) = true
      · simp [free]
      · have shifted (tried : Nat) : salt + 1 + tried = salt + (tried + 1) := by omega
        simp [free, ih, shifted]

/-- No id is free for a text exactly when all its salts lead to reserved or taken ids. -/
theorem allocate?_eq_none {pool : IdPool} {text : String}
    : pool.allocate? text = none
      ↔ ∀ salt < saltCount, textId (salted text salt) < Declarative.minId
          ∨ textId (salted text salt) ∈ pool.taken := by
  rw [allocate?, Option.map_eq_none_iff, search?_eq_none]
  apply forall_congr'
  intro salt
  apply imp_congr_right
  intro _
  rw [Nat.zero_add, ← Bool.not_eq_true, isFree_iff,
    Decidable.not_and_iff_not_or_not, UInt32.not_le, Decidable.not_not]

/-- An allocation takes one id, which is in range and was not taken before. -/
theorem allocate?_eq_some {pool next : IdPool} {text : String} {id : UInt32}
    (found : pool.allocate? text = some (id, next))
    : Declarative.minId ≤ id ∧ id ≤ Declarative.maxId ∧ id ∉ pool.taken
      ∧ next.taken = id :: pool.taken := by
  obtain ⟨given, searched, same⟩ := Option.map_eq_some_iff.mp found
  obtain ⟨rfl, rfl⟩ := Prod.mk.inj same
  obtain ⟨tried, -, named, free, -⟩ := search?_eq_some searched
  obtain ⟨least, fresh⟩ := isFree_iff.mp free
  exact ⟨least, named ▸ textId_le_maxId _, fresh, rfl⟩

end Blocklist.IdPool
