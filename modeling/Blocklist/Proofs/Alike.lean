import Mathlib.Data.List.Perm.Basic

/-! Computations that may fail, compared by how they end: both succeed with results that are
related, or both fail for reasons that are.
-/

namespace Blocklist

/-- Both computations succeed with related results, or both fail with related faults. -/
inductive Alike {ε ε' α β : Type} (faults : ε → ε' → Prop) (results : α → β → Prop)
    : Except ε α → Except ε' β → Prop
  | ok {result : α} {other : β} (related : results result other)
    : Alike faults results (.ok result) (.ok other)
  | error {fault : ε} {other : ε'} (related : faults fault other)
    : Alike faults results (.error fault) (.error other)

/-- Both computations succeed with related results, or both fail, for whatever reasons. -/
abbrev AlikeInSuccess {ε ε' α β : Type} (results : α → β → Prop)
    : Except ε α → Except ε' β → Prop :=
  Alike (fun _ _ => True) results

namespace Alike

variable {ε ε' α α' β β' : Type} {faults : ε → ε' → Prop} {results : α → α' → Prop}
  {others : β → β' → Prop} {left : Except ε α} {right : Except ε' α'}

/-- Steps that are alike on related results are alike after computations that are. -/
theorem bind {next : α → Except ε β} {next' : α' → Except ε' β'}
    (first : Alike faults results left right)
    (later : ∀ {result other}, results result other
      → Alike faults others (next result) (next' other))
    : Alike faults others (left >>= next) (right >>= next') := by
  cases first with
  | ok related => exact later related
  | error related => exact .error related

theorem map {change : α → β} {change' : α' → β'} (first : Alike faults results left right)
    (later : ∀ {result other}, results result other → others (change result) (change' other))
    : Alike faults others (change <$> left) (change' <$> right) := by
  cases first with
  | ok related => exact .ok (later related)
  | error related => exact .error related

theorem succeeds_iff (alike : Alike faults results left right)
    : (∃ result, left = .ok result) ↔ ∃ other, right = .ok other := by
  cases alike with
  | ok related => exact ⟨fun _ => ⟨_, rfl⟩, fun _ => ⟨_, rfl⟩⟩
  | error related =>
      constructor
      · intro ⟨_, impossible⟩
        cases impossible
      · intro ⟨_, impossible⟩
        cases impossible

theorem eq_ok_iff {right : Except ε' α} {result : α} (alike : Alike faults Eq left right)
    : left = .ok result ↔ right = .ok result := by
  cases alike with
  | ok related => simp [related]
  | error _ => simp

theorem related {result : α} {other : α'} (alike : Alike faults results left right)
    (first : left = .ok result) (second : right = .ok other)
    : results result other := by
  subst first
  subst second
  cases alike with
  | ok related => exact related

end Alike

namespace AlikeInSuccess

variable {ε ε' ε'' α α' α'' β : Type}

theorem refl {results : α → α → Prop} (reflexive : ∀ result, results result result)
    (computation : Except ε α)
    : AlikeInSuccess results computation computation := by
  cases computation with
  | ok result => exact .ok (reflexive result)
  | error fault => exact .error trivial

theorem trans {left : Except ε α} {middle : Except ε' α'} {right : Except ε'' α''}
    {first : α → α' → Prop} {second : α' → α'' → Prop} {whole : α → α'' → Prop}
    (begins : AlikeInSuccess first left middle) (ends : AlikeInSuccess second middle right)
    (composed : ∀ {result between last}, first result between → second between last
      → whole result last)
    : AlikeInSuccess whole left right := by
  cases begins with
  | ok related =>
      cases ends with
      | ok onward => exact .ok (composed related onward)
  | error _ =>
      cases ends with
      | error _ => exact .error trivial

/-- Readers that differ only in the faults they report read the same results. -/
theorem mapM_congr {read : α → Except ε β} {read' : α → Except ε' β}
    (same : ∀ item, AlikeInSuccess Eq (read item) (read' item)) (items : List α)
    : AlikeInSuccess Eq (items.mapM read) (items.mapM read') := by
  induction items with
  | nil => exact .ok rfl
  | cons item items ih =>
      simp only [List.mapM_cons]
      refine (same item).bind ?_
      intro result other equal
      refine ih.bind ?_
      intro more others later
      exact .ok (congrArg₂ List.cons equal later)

/-- Items read in another order give the same results in another order, or one of them is at
fault in both orders, by induction on the reordering.
-/
theorem mapM_perm (read : α → Except ε β) {items others : List α}
    (reordered : items.Perm others)
    : AlikeInSuccess List.Perm (items.mapM read) (others.mapM read) := by
  induction reordered with
  | nil => exact .ok .nil
  | cons item _ ih =>
      simp only [List.mapM_cons]
      have own : AlikeInSuccess Eq (read item) (read item) := .refl (fun _ => rfl) _
      refine own.bind ?_
      intro result _ equal
      subst equal
      exact ih.bind fun related => .ok (related.cons result)
  | swap item other items =>
      simp only [List.mapM_cons]
      cases read item with
      | error _ => cases read other <;> exact .error trivial
      | ok result =>
          cases read other with
          | error _ => exact .error trivial
          | ok before =>
              cases items.mapM read with
              | error _ => exact .error trivial
              | ok results => exact .ok (.swap _ _ _)
  | trans _ _ first second => exact first.trans second .trans

end AlikeInSuccess

end Blocklist
