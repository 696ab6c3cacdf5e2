import Blocklist.Merge

/-! Templates survive merging: what a record shares with those it merges with is the same
before and after another record of that template is taken in.
-/

namespace Blocklist.Merge

open Declarative

/-- Joining values at equal positions changes nothing but values, by induction on both
lists; equal cleared lists have equal lengths, so none of the first list is cut off.
-/
theorem zipWith_joinValues_clear (left right : List HeaderChange)
    (same : left.map clearValue = right.map clearValue)
    : (left.zipWith (fun a b => { a with value := joinValues a.value b.value }) right).map
        clearValue
      = left.map clearValue := by
  induction left generalizing right with
  | nil => simp
  | cons change rest ih =>
      cases right with
      | nil => simp at same
      | cons other more =>
          simp only [List.map_cons, List.cons.injEq] at same
          simp only [List.zipWith_cons_cons, List.map_cons, ih more same.2]
          rfl

/-- Joined header changes have the cleared form of the first ones, whichever are set. -/
theorem joinChanges_clear {left right : Option (List HeaderChange)}
    (same : left.map (·.map clearValue) = right.map (·.map clearValue))
    : (joinChanges left right).map (·.map clearValue) = left.map (·.map clearValue) := by
  cases left with
  | none => rfl
  | some changes =>
      cases right with
      | none => rfl
      | some others =>
          simp only [Option.map_some, Option.some.injEq] at same
          simp only [joinChanges, Option.map_some, zipWith_joinValues_clear changes others same]

/-- A redirect that removes parameters keeps its cleared form when it removes others.
The removed parameters of either side show that the first has a query transform.
-/
theorem joinTransforms_clear {left right : Redirect}
    (same : clearParams left = clearParams right)
    : clearParams { left with transform := joinTransforms left right } = clearParams left := by
  obtain ⟨leftPath, leftTransform, leftUrl, leftRegex⟩ := left
  obtain ⟨rightPath, rightTransform, rightUrl, rightRegex⟩ := right
  simp only [clearParams, Redirect.mk.injEq] at same
  obtain ⟨-, transforms, -⟩ := same
  cases leftTransform with
  | none =>
      cases rightTransform with
      | none => rfl
      | some transform => simp at transforms
  | some transform =>
      cases rightTransform with
      | none => simp at transforms
      | some other =>
          simp only [Option.map_some, Option.some.injEq, UrlTransform.mk.injEq] at transforms
          obtain ⟨leftQuery, leftParams⟩ := transform
          obtain ⟨rightQuery, rightParams⟩ := other
          cases leftParams with
          | none =>
              cases rightParams with
              | none => rfl
              | some params => simp at transforms
          | some params =>
              simp only [joinTransforms, removedParams?, Option.bind_some]
              split <;> simp [clearParams]

/-- Combining two actions with equal cleared forms keeps that form, by cases on what may
be merged and on both actions.
-/
theorem clearAction_combineActions (merge : Merge) {left right : Action}
    (same : merge.clearAction left = merge.clearAction right)
    : merge.clearAction (merge.combineActions left right) = merge.clearAction left := by
  cases merge with
  | csp =>
      cases left <;> cases right <;> simp only [clearAction, combineActions] at same ⊢
      simp only [Action.modifyHeaders.injEq] at same
      rw [joinChanges_clear same.1, joinChanges_clear same.2]
  | removeHeader =>
      cases left <;> cases right <;> simp only [clearAction, combineActions]
  | removeParam =>
      cases left <;> cases right <;> simp only [clearAction, combineActions] at same ⊢
      rw [joinTransforms_clear (Action.redirect.inj same)]

/-- All that combining two actions can give: the first with the mergeable field of both, or the
first as it is.
-/
inductive Combines : Merge → Action → Action → Action → Prop where
  | headerValues (request response request' response' : Option (List HeaderChange))
      : Combines .csp (.modifyHeaders request response) (.modifyHeaders request' response')
          (.modifyHeaders (joinChanges request request') (joinChanges response response'))
  | headerLists (request response request' response' : Option (List HeaderChange))
      : Combines .removeHeader (.modifyHeaders request response)
          (.modifyHeaders request' response')
          (.modifyHeaders (concat? request request') (concat? response response'))
  | removedParams (left right : Redirect)
      : Combines .removeParam (.redirect left) (.redirect right)
          (.redirect { left with transform := joinTransforms left right })
  | first (merge : Merge) (left right : Action) : Combines merge left right left

theorem combines_combineActions (merge : Merge) (left right : Action)
    : Combines merge left right (merge.combineActions left right) := by
  rw [combineActions.eq_def]
  split
  · exact .headerValues _ _ _ _
  · exact .headerLists _ _ _ _
  · exact .removedParams _ _
  · exact .first _ _ _

theorem template_eq_iff (merge : Merge) (record other : Record)
    : merge.template record = merge.template other
      ↔ record.priority = other.priority
        ∧ merge.clearAction record.action = merge.clearAction other.action
        ∧ record.condition = other.condition := by
  simp only [template, Record.mk.injEq, true_and]

/-- Taking a record into one of its template keeps that template. -/
theorem template_combine (merge : Merge) {record next : Record}
    (same : merge.template record = merge.template next)
    : merge.template (merge.combine record next) = merge.template record := by
  obtain ⟨-, actions, -⟩ := (merge.template_eq_iff record next).mp same
  refine (merge.template_eq_iff _ _).mpr ⟨rfl, ?_, rfl⟩
  exact merge.clearAction_combineActions actions

theorem foldl_combine_id (merge : Merge) (first : Record) (rest : List Record)
    : (rest.foldl merge.combine first).id = first.id := by
  induction rest generalizing first with
  | nil => rfl
  | cons next rest ih => exact ih (merge.combine first next)

theorem template_foldl_combine (merge : Merge) (first : Record) (rest : List Record)
    (same : ∀ record ∈ rest, merge.template record = merge.template first)
    : merge.template (rest.foldl merge.combine first) = merge.template first := by
  induction rest generalizing first with
  | nil => rfl
  | cons next rest ih =>
      have kept := merge.template_combine (same next (by simp)).symm
      rw [List.foldl_cons, ih (merge.combine first next), kept]
      intro record member
      rw [kept, same record (List.mem_cons_of_mem next member)]

end Blocklist.Merge
