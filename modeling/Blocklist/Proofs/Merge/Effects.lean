import Blocklist.Proofs.Merge.Run

/-! The effect of merged records. Combining goes pairwise from left to right; this module says
in one step what a merged record does, in terms of all records in it.
-/

namespace Blocklist

open Declarative

-----------------------------------------------------------------------------------------
-- The mergeable fields of an action
-----------------------------------------------------------------------------------------

namespace Declarative.Action

/-- The query parameters that an action removes. -/
def removedParams? : Action → Option (List String)
  | redirect target => Merge.removedParams? target
  | _ => none

/-- The changes an action makes to the headers of requests. -/
def requestChanges? : Action → Option (List HeaderChange)
  | modifyHeaders request _ => request
  | _ => none

/-- The changes an action makes to the headers of responses. -/
def responseChanges? : Action → Option (List HeaderChange)
  | modifyHeaders _ response => response
  | _ => none

end Declarative.Action

namespace Merge

/-- All lists that are set, one after the other; unset when none is set. -/
def concatAll? {α : Type} (lists : List (Option (List α))) : Option (List α) :=
  match lists.filterMap id with
  | [] => none
  | set => some set.flatten

/-- All values that are set, with a separator between them; unset when none is set. -/
def joinAll? (values : List (Option String)) : Option String :=
  match values.filterMap id with
  | [] => none
  | set => some ("; ".intercalate set)

/-- The values that lists of header changes have at one position. -/
def valuesAt (position : Nat) (sides : List (Option (List HeaderChange))) :
    List (Option String) :=
  sides.map fun side => side.bind fun changes => changes[position]?.bind HeaderChange.value

/-- The changes of the first side, each with the values of all sides at its position. -/
def joinSides (sides : List (Option (List HeaderChange))) (first : Option (List HeaderChange)) :
    Option (List HeaderChange) :=
  first.map fun changes => changes.mapIdx fun position change =>
    { change with value := joinAll? (valuesAt position sides) }

/-- A redirect with other removed parameters, where it has a place for them. -/
def withParams (params? : Option (List String)) (target : Redirect) : Redirect :=
  { target with
    transform := target.transform.map fun transform =>
      { transform with
        queryTransform := transform.queryTransform.map fun _ => { removeParams := params? } } }

/-- The first action with the mergeable field of all actions; it is as it was when it has no
such field.
-/
def gather (merge : Merge) (actions : List Action) (first : Action) : Action :=
  match merge, first with
  | csp, .modifyHeaders request response =>
    .modifyHeaders (joinSides (actions.map Action.requestChanges?) request)
      (joinSides (actions.map Action.responseChanges?) response)
  | removeHeader, .modifyHeaders _ _ =>
    .modifyHeaders (concatAll? (actions.map Action.requestChanges?))
      (concatAll? (actions.map Action.responseChanges?))
  | removeParam, .redirect target =>
    .redirect (withParams (concatAll? (actions.map Action.removedParams?)) target)
  | _, action => action

-----------------------------------------------------------------------------------------
-- One more record
-----------------------------------------------------------------------------------------

theorem concatAll?_singleton {α : Type} (list : Option (List α))
    : concatAll? [list] = list := by
  cases list <;> simp [concatAll?]

theorem concatAll?_snoc {α : Type} (lists : List (Option (List α))) (list : Option (List α))
    : concatAll? (lists ++ [list]) = concat? (concatAll? lists) list := by
  simp only [concatAll?, List.filterMap_append]
  cases lists.filterMap id <;> cases list <;> simp [concat?]

theorem joinAll?_singleton (value : Option String)
    : joinAll? [value] = value := by
  cases value <;> simp [joinAll?]

theorem joinAll?_snoc (values : List (Option String)) (value : Option String)
    : joinAll? (values ++ [value]) = joinValues (joinAll? values) value := by
  simp only [joinAll?, List.filterMap_append]
  cases values.filterMap id with
  | nil => cases value <;> simp [joinValues]
  | cons text rest =>
      cases value with
      | none => simp [joinValues]
      | some last =>
          have joined := String.intercalate_append_of_ne_nil (List.cons_ne_nil text rest)
            (List.cons_ne_nil last []) (s := "; ")
          simpa [joinValues] using joined

/-- The changes of a side alone are the side. -/
theorem joinSides_singleton (side : Option (List HeaderChange))
    : joinSides [side] side = side := by
  cases side with
  | none => rfl
  | some changes =>
      simp only [joinSides, Option.map_some, Option.some.injEq]
      apply List.ext_getElem (by simp)
      intro position inside inside'
      simp [valuesAt, joinAll?_singleton, List.getElem?_eq_getElem inside']

/-- Joining one more side with headers and operations of the first. Both have equally many
changes, so none of them is left out.
-/
theorem joinSides_snoc (sides : List (Option (List HeaderChange)))
    {first next : Option (List HeaderChange)}
    (same : next.map (·.map clearValue) = first.map (·.map clearValue))
    : joinSides (sides ++ [next]) first = joinChanges (joinSides sides first) next := by
  cases first with
  | none => rfl
  | some changes =>
      cases next with
      | none => simp at same
      | some others =>
          have lengths : others.length = changes.length := by
            simpa using congrArg (Option.map List.length) same
          simp only [joinSides, joinChanges, Option.map_some, Option.some.injEq]
          apply List.ext_getElem (by simp [lengths])
          intro position inside inside'
          have known : position < others.length := by simpa [lengths] using inside
          simp [valuesAt, joinAll?_snoc, List.getElem?_eq_getElem known]

theorem concatAll?_eq_none {α : Type} {lists : List (Option (List α))}
    (unset : ∀ list ∈ lists, list = none)
    : concatAll? lists = none := by
  have nothing : lists.filterMap id = [] := List.filterMap_eq_nil_iff.mpr unset
  rw [concatAll?, nothing]

theorem concat?_eq_none {α : Type} {left right : Option (List α)}
    : concat? left right = none ↔ left = none ∧ right = none := by
  cases left <;> cases right <;> simp [concat?]

/-- Whether a redirect has a place for removed parameters. -/
def Placed (target : Redirect) : Prop :=
  (target.transform.bind UrlTransform.queryTransform).isSome = true

theorem placed_of_clearParams {left right : Redirect}
    (same : clearParams left = clearParams right) (placed : Placed left)
    : Placed right := by
  have cleared (target : Redirect) : Placed (clearParams target) ↔ Placed target := by
    obtain ⟨path, transform, url, regex⟩ := target
    cases transform <;> simp [Placed, clearParams]
  rwa [← cleared right, ← same, cleared left]

theorem removedParams?_of_not_placed {target : Redirect} (unplaced : ¬Placed target)
    : removedParams? target = none := by
  obtain ⟨path, transform, url, regex⟩ := target
  cases transform with
  | none => rfl
  | some transform =>
      have missing : transform.queryTransform = none := by simpa [Placed] using unplaced
      simp [removedParams?, missing]

/-- A redirect removes the parameters it is given, if there are none for want of a place. -/
theorem removedParams?_withParams {params? : Option (List String)} {target : Redirect}
    (fits : ¬Placed target → params? = none)
    : removedParams? (withParams params? target) = params? := by
  obtain ⟨path, transform, url, regex⟩ := target
  cases transform with
  | none => simp [removedParams?, withParams, fits, Placed]
  | some transform =>
      obtain ⟨query, params⟩ := transform
      cases params with
      | none => simp [removedParams?, withParams, fits, Placed]
      | some params => rfl

/-- Taking in the parameters of one more redirect of the same cleared form. -/
theorem joinTransforms_withParams {params? : Option (List String)} {first next : Redirect}
    (same : clearParams next = clearParams first) (fits : ¬Placed first → params? = none)
    : { withParams params? first with transform := joinTransforms (withParams params? first) next }
      = withParams (concat? params? (removedParams? next)) first := by
  rw [joinTransforms, removedParams?_withParams fits]
  by_cases placed : Placed first
  · obtain ⟨path, transform, url, regex⟩ := first
    obtain ⟨params, held⟩ := Option.isSome_iff_exists.mp placed
    obtain ⟨transform, rfl, inner⟩ := Option.bind_eq_some_iff.mp held
    split
    · next unset =>
        rw [unset, (concat?_eq_none.mp unset).1]
    · simp [withParams, inner]
  · have own := removedParams?_of_not_placed (mt (placed_of_clearParams same) placed)
    simp [fits placed, own, concat?, withParams]

/-- Redirects of one cleared form remove nothing where the first has no place for it. -/
theorem removedParams?_gathered {target : Redirect} {actions : List Action}
    (same : ∀ action ∈ actions,
      clearAction .removeParam action = clearAction .removeParam (.redirect target))
    (unplaced : ¬Placed target)
    : concatAll? (actions.map Action.removedParams?) = none := by
  refine concatAll?_eq_none (List.forall_mem_map.mpr ?_)
  intro action member
  have cleared := same action member
  cases action with
  | redirect other =>
      have inner : clearParams other = clearParams target := Action.redirect.inj cleared
      exact removedParams?_of_not_placed (mt (placed_of_clearParams inner) unplaced)
  | _ => rfl

/-- An action alone gathers to itself. -/
theorem gather_singleton (merge : Merge) (first : Action)
    : merge.gather [first] first = first := by
  rw [gather.eq_def]
  split
  · simp [Action.requestChanges?, Action.responseChanges?, joinSides_singleton]
  · simp [Action.requestChanges?, Action.responseChanges?, concatAll?_singleton]
  · next target =>
      obtain ⟨path, transform, url, regex⟩ := target
      cases transform with
      | none => rfl
      | some transform =>
          obtain ⟨query, params⟩ := transform
          cases params <;>
            simp [withParams, Action.removedParams?, removedParams?, concatAll?_singleton]
  · rfl

/-- Taking in one more action of the cleared form of the first, by cases on what may be merged
and on the first action; the further action is then of the same kind.
-/
theorem gather_snoc {merge : Merge} {actions : List Action} {first next : Action}
    (same : ∀ action ∈ actions, merge.clearAction action = merge.clearAction first)
    (last : merge.clearAction next = merge.clearAction first)
    : merge.gather (actions ++ [next]) first
      = merge.combineActions (merge.gather actions first) next := by
  cases merge with
  | csp =>
      cases first with
      | modifyHeaders request response =>
          cases next with
          | modifyHeaders request' response' =>
              simp only [clearAction, Action.modifyHeaders.injEq] at last
              simp only [gather, combineActions, List.map_append, List.map_singleton,
                Action.requestChanges?, Action.responseChanges?, joinSides_snoc _ last.1,
                joinSides_snoc _ last.2]
          | _ => simp [clearAction] at last
      | _ => simp [gather, combineActions]
  | removeHeader =>
      cases first with
      | modifyHeaders request response =>
          cases next with
          | modifyHeaders request' response' =>
              simp only [gather, combineActions, List.map_append, List.map_singleton,
                Action.requestChanges?, Action.responseChanges?, concatAll?_snoc]
          | _ => simp [clearAction] at last
      | _ => simp [gather, combineActions]
  | removeParam =>
      cases first with
      | redirect target =>
          cases next with
          | redirect other =>
              have joined := joinTransforms_withParams (Action.redirect.inj last)
                (removedParams?_gathered same)
              simp only [gather, combineActions, joined, List.map_append, List.map_singleton,
                Action.removedParams?, concatAll?_snoc]
          | _ => simp [clearAction] at last
      | _ => simp [gather, combineActions]

-----------------------------------------------------------------------------------------
-- Whole families and whole rulesets
-----------------------------------------------------------------------------------------

/-- Records of one template combine to the first with what all of them gather. Witness:
induction on the last record.
-/
theorem foldl_combine_eq {merge : Merge} {first : Record} {rest : List Record}
    (same : ∀ record ∈ rest, merge.template record = merge.template first)
    : rest.foldl merge.combine first
      = { first with action := merge.gather ((first :: rest).map Record.action) first.action } := by
  induction rest using List.reverseRecOn with
  | nil =>
      have alone := merge.gather_singleton first.action
      simp [alone]
  | append_singleton rest next ih =>
      have earlier : ∀ record ∈ rest, merge.template record = merge.template first :=
        fun record member => same record (List.mem_append_left [next] member)
      have cleared : ∀ action ∈ (first :: rest).map Record.action,
          merge.clearAction action = merge.clearAction first.action := by
        refine List.forall_mem_map.mpr (List.forall_mem_cons.mpr ⟨rfl, ?_⟩)
        intro record member
        exact ((merge.template_eq_iff record first).mp (earlier record member)).2.1
      have last := ((merge.template_eq_iff next first).mp (same next (by simp))).2.1
      rw [List.foldl_append, ih earlier, ← List.cons_append, List.map_append]
      simp only [List.foldl_cons, List.foldl_nil, combine, List.map_singleton,
        gather_snoc cleared last]

/-- The parameters that records of one template gather are all those they remove. -/
theorem removedParams?_gather {actions : List Action} {first : Action}
    (same : ∀ action ∈ actions,
      clearAction .removeParam action = clearAction .removeParam first)
    : (gather .removeParam actions first).removedParams?
      = concatAll? (actions.map Action.removedParams?) := by
  cases first with
  | redirect target => exact removedParams?_withParams (removedParams?_gathered same)
  | _ =>
      refine (concatAll?_eq_none (List.forall_mem_map.mpr ?_)).symm
      intro action member
      have cleared := same action member
      cases action with
      | redirect other => simp [clearAction] at cleared
      | _ => rfl

/-- Merging loses and invents no effect. Every merged record stands for the records that have
its template. It is the first of them, but for the mergeable field of its action, and that
field has what all of them have in it, in their order: the values of headers at equal
positions, the changes of headers on both sides, or the removed parameters.
-/
theorem run_gathers_effects {merge : Merge} {records merged : List Record}
    {entries sources : List SourceEntry} {result : Record}
    (done : merge.run records entries = .ok (merged, sources)) (member : result ∈ merged)
    : ∃ first rest,
        records.filter (merge.template · = merge.template result) = first :: rest
        ∧ result
          = { first with
              action := merge.gather ((first :: rest).map Record.action) first.action }
        ∧ (merge = .removeParam
          → result.action.removedParams?
            = concatAll? ((first :: rest).map fun record => record.action.removedParams?)) := by
  rw [run_of_sourced (sourced_of_run done), Except.ok.injEq, Prod.mk.injEq] at done
  obtain ⟨rfl, -⟩ := done
  obtain ⟨family, known, rfl⟩ := List.mem_map.mp member
  have coherent := families_coherent known
  have combined : family.record merge = _ := foldl_combine_eq coherent
  refine ⟨family.first, family.rest, ?_, combined, ?_⟩
  · rw [coherent.template]
    exact (families_members known).symm
  · rintro rfl
    have cleared : ∀ action ∈ family.members.map Record.action,
        clearAction .removeParam action = clearAction .removeParam family.first.action := by
      refine List.forall_mem_map.mpr (List.forall_mem_cons.mpr ⟨rfl, ?_⟩)
      intro record later
      exact ((template_eq_iff .removeParam record family.first).mp (coherent record later)).2.1
    have gathered := removedParams?_gather cleared
    rw [List.map_map] at gathered
    rw [combined]
    exact gathered

/-- A record that sets two policies for responses. -/
def policyRecord (id : UInt32) (first second : Option String) : Record where
  id := id
  priority := 1
  action := .modifyHeaders none (some
    [{ header := "content-security-policy", operation := .append, value := first },
      { header := "permissions-policy", operation := .set, value := second }])
  condition := {}

/-- Three policies become one, with the values that are set at each position. -/
theorem run_gathers_effects_of_three_policies
    : let records := [policyRecord 2 (some "a") none, policyRecord 3 none none,
        policyRecord 4 (some "b") (some "c")]
      let result := policyRecord 2 (some "a; b") (some "c")
      run .csp records [⟨2, 0, 5⟩, ⟨3, 0, 6⟩, ⟨4, 1, 1⟩]
          = .ok ([result], [⟨2, 0, 5⟩, ⟨2, 0, 6⟩, ⟨2, 1, 1⟩])
      ∧ ∃ first rest,
        records.filter (template .csp · = template .csp result) = first :: rest
        ∧ result
          = { first with
              action := gather .csp ((first :: rest).map Record.action) first.action } := by
  intro records result
  have done : run .csp records [⟨2, 0, 5⟩, ⟨3, 0, 6⟩, ⟨4, 1, 1⟩]
      = .ok ([result], [⟨2, 0, 5⟩, ⟨2, 0, 6⟩, ⟨2, 1, 1⟩]) := by decide +kernel
  obtain ⟨first, rest, found, gathered, -⟩ := run_gathers_effects done List.mem_cons_self
  exact ⟨done, first, rest, found, gathered⟩

end Merge

end Blocklist
