import Blocklist.Command.Plan
import Blocklist.Proofs.Conversion.Records
import Blocklist.Proofs.Declarative.RoundTrip

/-! Rulesets between commands. A conversion of files writes the records of its run. What it writes
is read back, passes the check, and is counted in full.
-/

namespace Blocklist

open Declarative

/-- The file that a step writes, with its text. -/
def Step.file? : Step → Option (String × String)
  | .write path text => some (path, text)
  | .print _ => none

namespace Command

-----------------------------------------------------------------------------------------
-- Conditions and actions of a run
-----------------------------------------------------------------------------------------

/-- A pattern is a filter or an expression, and merging leaves conditions alone. -/
theorem unconflicting_invariant (env : Conversion.Environment) (units : List ScannedUnit)
    : Conversion.RecordInvariant env units (fun record => isConflicting record = false) where
  own := by
    intro unit _ rule _ record _ condition
    simp only [isConflicting, condition, Conversion.conditionOf, Conversion.urlFilter?,
      Conversion.regexFilter?]
    cases Pattern.isRegex rule.pattern <;> simp
  combined := fun _ _ _ _ first _ => first

theorem eq_upgradeScheme_of_combines {merge : Merge} {left right : Action}
    (combines : merge.Combines left right .upgradeScheme)
    : left = .upgradeScheme := by
  cases combines
  rfl

/-- No rule upgrades requests, and neither does merging. -/
theorem counted_invariant (env : Conversion.Environment) (units : List ScannedUnit)
    : Conversion.RecordInvariant env units (fun record => record.action ≠ .upgradeScheme) where
  own := by
    intro unit _ rule _ record acts _ upgrades
    have form := Conversion.actionOf_form acts
    rw [upgrades] at form
    cases form
  combined := by
    intro merge record next _ first _ upgrades
    have combines := merge.combines_combineActions record.action next.action
    simp only [Merge.combine] at upgrades
    rw [upgrades] at combines
    exact first (eq_upgradeScheme_of_combines combines)

-----------------------------------------------------------------------------------------
-- Counts
-----------------------------------------------------------------------------------------

/-- Each action is of one of the counted kinds, by induction on the actions. -/
theorem counts_add_up {actions : List Action}
    (counted : ∀ action ∈ actions, action ≠ .upgradeScheme)
    : actions.count .block + actions.count .allow + actions.count .allowAllRequests
        + actions.countP isRedirect + actions.countP isHeaderChange
      = actions.length := by
  induction actions with
  | nil => rfl
  | cons action actions ih =>
      obtain ⟨own, later⟩ := List.forall_mem_cons.mp counted
      have rest := ih later
      simp only [List.count_cons, List.countP_cons, List.length_cons]
      cases action with
      | upgradeScheme => exact absurd rfl own
      | _ =>
          simp only [isRedirect, isHeaderChange, beq_iff_eq, reduceCtorEq, if_true, if_false,
            Bool.false_eq_true]
          omega

theorem countP_isUnsafe (actions : List Action)
    : actions.countP Action.isUnsafe
      = actions.countP isRedirect + actions.countP isHeaderChange := by
  induction actions with
  | nil => rfl
  | cons action actions ih =>
      simp only [List.countP_cons, ih]
      cases action with
      | _ =>
          simp only [Action.isUnsafe, isRedirect, isHeaderChange, if_true, Bool.false_eq_true,
            if_false]
          omega

-----------------------------------------------------------------------------------------
-- What is written
-----------------------------------------------------------------------------------------

theorem filterMap_file?_prints {α : Type} (values : List α) (line : α → String)
    : (values.map fun value => Step.print (line value)).filterMap Step.file? = [] := by
  rw [List.filterMap_map, List.filterMap_eq_nil_iff]
  exact fun _ _ => rfl

theorem filterMap_file?_optional_prints {α : Type} (verbose : Bool) (values : List α)
    (line : α → String)
    : (if verbose then values.map fun value => Step.print (line value) else []).filterMap
        Step.file? = [] := by
  cases verbose with
  | false => rfl
  | true => exact filterMap_file?_prints values line

/-- A conversion of files that were read, and whose run gives an output, does not fail. It writes
the records of the output, and then its source map if that is asked for.
-/
theorem compilePlan_of_run {files : Files} {request : CompileRequest} {loaded : List LoadedUnit}
    {output : Output} {final : IdPool}
    (read : load files request.scanCap 0 request.inputs = (loaded, none))
    (done : Conversion.run (environment request.settings) .empty
      (loaded.map LoadedUnit.scanned) = (.ok output, final))
    : (compilePlan files request).fault? = none
      ∧ (compilePlan files request).steps.filterMap Step.file?
        = (request.output, (encodeRuleset output.records).toPretty)
          :: request.sourceMap.toList.map fun path =>
            (path, (Json.array (output.sources.map SourceEntry.encode)).toCompact) := by
  have plan : compilePlan files request
      = Plan.after (if request.verbose then loaded.map fun unit => Step.print unit.summary else [])
          ⟨compileSteps request loaded output, none⟩ := by
    simp only [compilePlan, read, done]
  rw [plan]
  refine ⟨rfl, ?_⟩
  simp only [Plan.after, compileSteps, List.cons_append, List.filterMap_append,
    List.filterMap_cons, filterMap_file?_prints, filterMap_file?_optional_prints, Step.file?,
    List.filterMap_nil, List.nil_append, List.append_nil]
  cases request.sourceMap <;> rfl

-----------------------------------------------------------------------------------------
-- Commands on what was written
-----------------------------------------------------------------------------------------

theorem loadRuleset_toPretty {files : Files} {path : String} {records : List Record}
    (written : files path = .ok (encodeRuleset records).toPretty)
    : loadRuleset files path = .ok records := by
  simp only [loadRuleset, written, Except.mapError, rulesetOfText_toPretty, bind, Except.bind]

theorem checkRuleset_eq_none {records : List Record}
    (ids : Conversion.idFault? records = none)
    (unconflicting : ∀ record ∈ records, isConflicting record = false)
    : checkRuleset records = none := by
  have none : records.countP isConflicting = 0 := by
    rw [List.countP_eq_zero]
    intro record member
    simp [unconflicting record member]
  simp only [checkRuleset, ids, none, Nat.lt_irrefl, if_false]

/-- Rulesets that a conversion writes, whatever its settings and units are. A file with the
indented text of the records is read back as these records. Their ids are in range and
distinct, and none has both a filter and an expression, so the check prints that the ruleset is
valid and how many rules it has. The summary counts the rules by their actions: every rule is of
one of the kinds, and the unsafe ones are those that redirect or change headers. Such a file is
what the command writes, when its lists can be read and its run is this one.
-/
theorem written_output_is_valid_and_counted {env : Conversion.Environment}
    {pool final : IdPool} {units : List ScannedUnit} {output : Output} {files : Files}
    {path : String} (done : Conversion.run env pool units = (.ok output, final))
    (written : files path = .ok (encodeRuleset output.records).toPretty)
    : let actions := output.records.map (·.action)
      loadRuleset files path = .ok output.records
      ∧ (∀ record ∈ output.records, minId ≤ record.id ∧ record.id ≤ maxId)
      ∧ (output.records.map Record.id).Nodup
      ∧ (∀ record ∈ output.records,
          record.condition.urlFilter = none ∨ record.condition.regexFilter = none)
      ∧ validatePlan files path
        = .printing [s!"Ruleset '{path}' is valid", s!"  Rules:       {output.records.length}"]
      ∧ infoPlan files path
        = .printing
            [s!"Ruleset: {path}", s!"  Rules:       {output.records.length}",
              s!"  Unsafe:      {actions.countP (·.isUnsafe)}",
              s!"  Regex:       {output.records.countP (·.condition.regexFilter.isSome)}", "",
              "Actions:", s!"  Block:             {actions.count .block}",
              s!"  Allow:             {actions.count .allow}",
              s!"  AllowAllRequests:  {actions.count .allowAllRequests}",
              s!"  Redirect:          {actions.countP isRedirect}",
              s!"  ModifyHeaders:     {actions.countP isHeaderChange}"]
      ∧ actions.count .block + actions.count .allow + actions.count .allowAllRequests
          + actions.countP isRedirect + actions.countP isHeaderChange
        = output.records.length
      ∧ actions.countP (·.isUnsafe) = actions.countP isRedirect + actions.countP isHeaderChange
      ∧ ∀ (lists : Files) (request : CompileRequest) (loaded : List LoadedUnit),
          load lists request.scanCap 0 request.inputs = (loaded, none)
          → loaded.map LoadedUnit.scanned = units → environment request.settings = env
          → pool = .empty
          → (compilePlan lists request).fault? = none
            ∧ (compilePlan lists request).steps.filterMap Step.file?
              = (request.output, (encodeRuleset output.records).toPretty)
                :: request.sourceMap.toList.map fun path =>
                  (path, (Json.array (output.sources.map SourceEntry.encode)).toCompact) := by
  obtain ⟨outcomes, batch, produced⟩ := Conversion.run_eq_ok done
  have loaded := loadRuleset_toPretty written
  have ids : Conversion.idFault? output.records = none := by
    rw [produced.output]
    exact produced.faithful.idFault?_apply produced.series env.settings
  have unconflicting := (unconflicting_invariant env units).records produced
  have counted := (counted_invariant env units).records produced
  obtain ⟨valid, distinct⟩ := Conversion.idFault?_eq_none.mp ids
  refine ⟨loaded, ?_, distinct, ?_, ?_, ?_, ?_, countP_isUnsafe _, ?_⟩
  · intro record member
    simpa [Record.hasValidId] using valid record member
  · intro record member
    have apart := unconflicting record member
    rw [isConflicting, Bool.and_eq_false_iff] at apart
    rcases apart with filter | expression
    · exact Or.inl (by simpa using filter)
    · exact Or.inr (by simpa using expression)
  · simp only [validatePlan, loaded, checkRuleset_eq_none ids unconflicting]
  · simp only [infoPlan, loaded, List.countP_map]
    rfl
  · rw [counts_add_up, List.length_map]
    intro action member
    obtain ⟨record, listed, rfl⟩ := List.mem_map.mp member
    exact counted record listed
  · rintro lists request loaded read rfl rfl rfl
    exact compilePlan_of_run read done

/-- A list with a rule for every kind of action, characters that need an escape, and one that is
not ASCII.
-/
def mixedText : String :=
  "||a^\n/b\"\\d/\n@@||c^\n@@||d^$document\n||é^$removeparam=x\n||f^$csp=a\t'b'\n"
    ++ "||g^$redirect=nooptext"

/-- The only file there is before the conversion. -/
def mixedList : Files := fun path =>
  if path = "list.txt" then .ok mixedText else .error .missing

def mixedRequest : CompileRequest :=
  ⟨["list.txt"], "rules.json", none, { resourcesPath := some "/r" }, none, false⟩

/-- The records of an output by kind: all, unsafe, expressions, and those of each action. -/
def tally (output : Output) : List Nat :=
  let actions := output.records.map (·.action)
  [output.records.length, actions.countP (·.isUnsafe),
    output.records.countP (·.condition.regexFilter.isSome), actions.count .block,
    actions.count .allow, actions.count .allowAllRequests, actions.countP isRedirect,
    actions.countP isHeaderChange]

/-- The conversion writes a single file, which is valid and counted. -/
theorem compiled_list_is_valid_and_counted
    : ∃ output final text files,
        Conversion.run (environment mixedRequest.settings) .empty
          [ScannedUnit.scan 0 mixedText none fun _ => true] = (.ok output, final)
        ∧ (compilePlan mixedList mixedRequest).fault? = none
        ∧ (compilePlan mixedList mixedRequest).steps.filterMap Step.file?
          = [("rules.json", text)]
        ∧ files "rules.json" = .ok text
        ∧ loadRuleset files "rules.json" = .ok output.records
        ∧ validatePlan files "rules.json"
          = .printing ["Ruleset 'rules.json' is valid", "  Rules:       7"]
        ∧ infoPlan files "rules.json"
          = .printing
              ["Ruleset: rules.json", "  Rules:       7", "  Unsafe:      3", "  Regex:       1",
                "", "Actions:", "  Block:             2", "  Allow:             1",
                "  AllowAllRequests:  1", "  Redirect:          2", "  ModifyHeaders:     1"] := by
  obtain ⟨output, final, done, tallied⟩ := Conversion.exists_output (show
      (Conversion.run (environment mixedRequest.settings) .empty
        [ScannedUnit.scan 0 mixedText none fun _ => true]).1.toOption.map tally
        = some [7, 3, 1, 2, 1, 1, 2, 1] by decide +kernel)
  let files : Files := fun _ => .ok (encodeRuleset output.records).toPretty
  have written : files "rules.json" = .ok (encodeRuleset output.records).toPretty := rfl
  simp only [tally, List.cons.injEq, and_true] at tallied
  obtain ⟨all, risky, regex, block, allow, allowAll, redirect, headers⟩ := tallied
  obtain ⟨loaded, -, -, -, valid, info, -, -, compiled⟩ :=
    written_output_is_valid_and_counted done written
  rw [all] at valid
  simp only [all, risky, regex, block, allow, allowAll, redirect, headers] at info
  obtain ⟨sound, steps⟩ := compiled mixedList mixedRequest _ rfl rfl rfl rfl
  exact ⟨output, final, _, files, done, sound, steps, written, loaded, valid, info⟩

end Command

end Blocklist
