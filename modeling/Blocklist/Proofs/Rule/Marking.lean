import Blocklist.Filter.Line
import Blocklist.Proofs.Alike
import Blocklist.Proofs.Filter.Expansion
import Blocklist.Proofs.Rule.Modifiers
import Blocklist.Proofs.Rule.Spelling

/-! Filters marked with badfilter. A filter may be marked at any place among its modifiers and
may list its domains and methods in any order: its rules, taken one by one, cancel those of the
filter without the mark.
-/

namespace Blocklist

-----------------------------------------------------------------------------------------
-- Lists with bars in another order
-----------------------------------------------------------------------------------------

/-- The same entries between bars, in any order. -/
def SameBarEntries (value other : String) : Prop :=
  (value.toList.splitOn '|').Perm (other.toList.splitOn '|')

namespace SameBarEntries

variable {value other : String}

theorem refl (value : String) : SameBarEntries value value :=
  List.Perm.refl _

theorem symm (same : SameBarEntries value other) : SameBarEntries other value :=
  List.Perm.symm same

/-- An empty value has one empty entry and no other order. -/
theorem eq_empty (same : SameBarEntries "" other) : other = "" := by
  have single : other.toList.splitOn '|' = [[]] := List.perm_singleton.mp same.symm
  have joined : ['|'].intercalate (other.toList.splitOn '|') = other.toList :=
    List.intercalate_splitOn '|'
  rw [single] at joined
  exact String.toList_eq_nil_iff.mp joined.symm

theorem isEmpty_eq (same : SameBarEntries value other) : value.isEmpty = other.isEmpty := by
  rw [Bool.eq_iff_iff, String.isEmpty_iff, String.isEmpty_iff]
  constructor
  · intro empty
    subst empty
    exact same.eq_empty
  · intro empty
    subst empty
    exact same.symm.eq_empty

theorem barEntries (same : SameBarEntries value other)
    : (barEntries value).Perm (barEntries other) :=
  List.Perm.map Text.trim same

end SameBarEntries

/-- Domain lists with the same entries are both at fault, or have the same domains. -/
theorem readDomains_alike {value other : String} (same : SameBarEntries value other)
    : AlikeInSuccess Sided.Perm (readDomains value) (readDomains other) := by
  have each (entry : List Char)
      : AlikeInSuccess Eq (readDomain value entry) (readDomain other entry) := by
    simp only [readDomain]
    split
    · exact .error trivial
    · exact .ok rfl
  have entries := (AlikeInSuccess.mapM_perm (readDomain value)
    (same.barEntries.filter (!·.isEmpty))).trans (AlikeInSuccess.mapM_congr each _)
    fun reordered equal => equal ▸ reordered
  refine entries.bind ?_
  intro read read' reordered
  simp only [reordered.isEmpty_eq]
  split
  · exact .error trivial
  · exact .ok (Sided.ofMarked_perm reordered)

theorem readPlainDomains_alike {value other : String} (same : SameBarEntries value other)
    : AlikeInSuccess List.Perm (readPlainDomains value) (readPlainDomains other) := by
  refine (readDomains_alike same).bind ?_
  intro domains domains' reordered
  simp only [reordered.restricted.isEmpty_eq, reordered.permitted.any_eq]
  split
  · exact .error trivial
  · split
    · exact .error trivial
    · exact .ok reordered.permitted

theorem readMethods_alike {value other : String} (same : SameBarEntries value other)
    : AlikeInSuccess Sided.Perm (readMethods value) (readMethods other) :=
  (AlikeInSuccess.mapM_perm readMethod same.barEntries).map Sided.ofMarked_perm

-----------------------------------------------------------------------------------------
-- Modifiers with reordered lists
-----------------------------------------------------------------------------------------

namespace Modifier

/-- Modifiers whose value is a list written with bars. -/
def listNames : List String := ["domain", "from", "to", "denyallow", "method"]

/-- A modifier, and the same one with the entries of its list in any order. The value of a
modifier that has no list is kept.
-/
structure Reordered (modifier other : Modifier) : Prop where
  name : modifier.name = other.name
  negated : modifier.negated = other.negated
  entries : Option.Rel SameBarEntries modifier.value other.value
  kept : modifier.name ∉ listNames → modifier.value = other.value

theorem Reordered.refl (modifier : Modifier) : Reordered modifier modifier where
  name := rfl
  negated := rfl
  entries := by
    cases modifier.value with
    | none => exact .none
    | some value => exact .some (.refl value)
  kept := fun _ => rfl

variable {modifier other : Modifier}

theorem requireValue_alike (reordered : Reordered modifier other)
    : AlikeInSuccess SameBarEntries modifier.requireValue other.requireValue := by
  have entries := reordered.entries
  simp only [requireValue]
  generalize modifier.value = value, other.value = value' at entries
  cases entries with
  | none => exact .error trivial
  | some same =>
      simp only [same.isEmpty_eq]
      split
      · exact .error trivial
      · exact .ok same

end Modifier

namespace Rule

variable {rule other : Rule} {modifier modifier' : Modifier}

/-- A value is taken in alike by rules that spell out the same, by cases on its feature. -/
theorem applyValue_alike (same : rule.SameSpelling other)
    (reordered : modifier.Reordered modifier') (feature : Feature)
    (named : feature.name = modifier.name)
    : AlikeInSuccess SameSpelling (rule.applyValue feature modifier)
        (other.applyValue feature modifier') := by
  have given := Modifier.requireValue_alike reordered
  have kept : feature.name ∉ Modifier.listNames → modifier.value = modifier'.value :=
    fun unlisted => reordered.kept (named ▸ unlisted)
  cases feature with
  | targets =>
      refine given.bind fun entries => (readDomains_alike entries).bind fun targets => ?_
      exact .ok { same with targets := same.targets.append targets }
  | denyallow =>
      refine given.bind fun entries => (readPlainDomains_alike entries).bind fun domains => ?_
      exact .ok { same with denyallow := same.denyallow.append domains }
  | method =>
      refine given.bind fun entries => (readMethods_alike entries).bind fun methods => ?_
      exact .ok { same with methods := same.methods.append methods }
  | removeheader =>
      simp only [applyValue, kept (by decide)]
      split
      · exact .ok { same with advancedValue := rfl }
      · exact .ok { same with advancedValue := rfl }
      · rename_i value _ _
        have header : AlikeInSuccess Eq (HeaderRemoval.ofValue value)
            (HeaderRemoval.ofValue value) := .refl (fun _ => rfl) _
        exact header.bind fun _ => .ok { same with advancedValue := rfl }
  | redirect | removeparam | csp | permissions | cookie =>
      exact .ok { same with advancedValue := kept (by decide) }
  | _ => exact .ok same

theorem SameSpelling.enable (same : rule.SameSpelling other) (features : List Feature)
    : SameSpelling { rule with enabled := rule.enabled.insertAll features }
        { other with enabled := other.enabled.insertAll features } :=
  { same with
    enabled := fun feature differs => by
      simp only [FeatureSet.contains_insertAll, same.enabled feature differs] }

theorem applyFeature_alike (same : rule.SameSpelling other)
    (reordered : modifier.Reordered modifier') (feature : Feature)
    (named : feature.name = modifier.name)
    : AlikeInSuccess SameSpelling (rule.applyFeature feature modifier)
        (other.applyFeature feature modifier') := by
  simp only [applyFeature, reordered.negated]
  split
  · exact applyValue_alike (same.enable [feature]) reordered feature named
  · split
    · refine .ok { same with disabled := ?_ }
      simp only [same.disabled]
    · exact .error trivial

theorem applyType_same (same : rule.SameSpelling other) (type : ResourceType) (negated : Bool)
    : (rule.applyType type negated).SameSpelling (other.applyType type negated) := by
  have types := Sided.insert_perm same.types negated type
  simp only [applyType, same.exception]
  split
  · exact { same.enable Feature.documentParts with types, exception := rfl }
  · exact { same with types, exception := rfl }

/-- One modifier is taken in alike by rules that spell out the same. -/
theorem apply_alike (same : rule.SameSpelling other)
    (reordered : modifier.Reordered modifier')
    : AlikeInSuccess SameSpelling (rule.apply modifier) (other.apply modifier') := by
  simp only [apply, ← reordered.name, ← reordered.negated]
  split
  · refine (Modifier.requireValue_alike reordered).bind fun entries => ?_
    refine (readDomains_alike entries).bind fun domains => ?_
    exact .ok { same with domains := same.domains.append domains }
  · split
    · exact .ok (applyType_same same _ modifier.negated)
    · split
      · rename_i feature found
        exact applyFeature_alike same reordered feature (Feature.ofModifier?_eq_some found)
      · exact .error trivial

end Rule

-----------------------------------------------------------------------------------------
-- Marked modifiers
-----------------------------------------------------------------------------------------

namespace Modifier

/-- A badfilter modifier. Whatever value it has says nothing. -/
def badfilter (value : Option String) : Modifier where
  name := "badfilter"
  value := value

/-- Modifiers, and the same ones with a badfilter modifier at some place and lists in any
order.
-/
inductive Marks : List Modifier → List Modifier → Prop
  | here {modifiers others : List Modifier} (value : Option String)
      (reordered : List.Forall₂ Reordered modifiers others)
    : Marks modifiers (badfilter value :: others)
  | later {modifier other : Modifier} {modifiers others : List Modifier}
      (reordered : Reordered modifier other) (marks : Marks modifiers others)
    : Marks (modifier :: modifiers) (other :: others)

theorem forall₂_reordered_refl (modifiers : List Modifier)
    : List.Forall₂ Reordered modifiers modifiers :=
  List.forall₂_same.mpr fun modifier _ => .refl modifier

variable {modifiers marked more others : List Modifier}

theorem Marks.append_right (marks : Marks modifiers marked) (more : List Modifier)
    : Marks (modifiers ++ more) (marked ++ more) := by
  induction marks with
  | here value reordered =>
      exact .here value (List.rel_append reordered (forall₂_reordered_refl more))
  | later reordered _ ih => exact .later reordered ih

theorem Marks.append_left (reordered : List.Forall₂ Reordered more others)
    (marks : Marks modifiers marked)
    : Marks (more ++ modifiers) (others ++ marked) := by
  induction reordered with
  | nil => exact marks
  | cons first _ ih => exact .later first ih

theorem Marks.exists_badfilter (marks : Marks modifiers marked)
    : ∃ value, badfilter value ∈ marked := by
  induction marks with
  | here value _ => exact ⟨value, List.mem_cons_self⟩
  | later _ _ ih =>
      obtain ⟨value, listed⟩ := ih
      exact ⟨value, List.mem_cons_of_mem _ listed⟩

theorem map_name_eq (reordered : List.Forall₂ Reordered modifiers others)
    : modifiers.map name = others.map name := by
  induction reordered with
  | nil => rfl
  | cons first _ ih => simp only [List.map_cons, first.name, ih]

theorem Marks.mem_map_name (marks : Marks modifiers marked) {other : String}
    (plain : other ≠ "badfilter")
    : other ∈ marked.map name ↔ other ∈ modifiers.map name := by
  induction marks with
  | here value reordered => simp [map_name_eq reordered, badfilter, plain]
  | later reordered _ ih => simp only [List.map_cons, List.mem_cons, reordered.name, ih]

/-- Aliases of lists stand for lists. -/
theorem resolve_mem_listNames {name : String} (listed : name ∈ listNames)
    : (resolve name).1 ∈ listNames := by
  have all : listNames.all (fun name => listNames.contains (resolve name).1) = true := by decide
  simpa using List.all_eq_true.mp all name listed

/-- A modifier with a reordered list means the same modifiers, with that list reordered. -/
theorem expand_reordered {modifier other : Modifier} (reordered : Reordered modifier other)
    : List.Forall₂ Reordered modifier.expand other.expand := by
  by_cases short : modifier.name ∈ shorthands
  · rw [expand_of_shorthand short reordered.name]
    exact forall₂_reordered_refl _
  · rw [expand_of_plain short, expand_of_plain (reordered.name ▸ short), ← reordered.name,
      ← reordered.negated]
    refine .cons ⟨rfl, rfl, reordered.entries, ?_⟩ .nil
    intro unlisted
    exact reordered.kept fun listed => unlisted (resolve_mem_listNames listed)

theorem flatMap_expand_reordered (reordered : List.Forall₂ Reordered modifiers others)
    : List.Forall₂ Reordered (modifiers.flatMap expand) (others.flatMap expand) := by
  induction reordered with
  | nil => exact .nil
  | cons first _ ih =>
      simp only [List.flatMap_cons]
      exact List.rel_append (expand_reordered first) ih

/-- The mark survives the expansion of aliases. -/
theorem Marks.flatMap_expand (marks : Marks modifiers marked)
    : Marks (modifiers.flatMap expand) (marked.flatMap expand) := by
  induction marks with
  | here value reordered => exact .here value (flatMap_expand_reordered reordered)
  | later reordered _ ih =>
      simp only [List.flatMap_cons]
      exact ih.append_left (expand_reordered reordered)

theorem name_ne_badfilter_of_mem_standIns {part : Modifier} (listed : part ∈ standIns)
    : part.name ≠ "badfilter" := by
  have all : standIns.all (·.name != "badfilter") = true := by decide
  exact bne_iff_ne.mp (List.all_eq_true.mp all part listed)

/-- No other modifier means badfilter. -/
theorem name_ne_badfilter_of_mem_expand {modifier part : Modifier}
    (plain : modifier.name ≠ "badfilter") (member : part ∈ modifier.expand)
    : part.name ≠ "badfilter" := by
  by_cases short : modifier.name ∈ shorthands
  · exact name_ne_badfilter_of_mem_standIns (mem_standIns short member)
  · rw [expand_of_plain short, List.mem_singleton] at member
    subst member
    by_cases aliased : modifier.name ∈ aliases.map Prod.fst
    · have all : aliases.all (fun entry => entry.2.1 != "badfilter") = true := by decide
      exact bne_iff_ne.mp (List.all_eq_true.mp all _ (resolve_mem_aliases aliased))
    · rw [resolve_of_not_alias aliased]
      exact plain

end Modifier

namespace Rule

/-- Modifiers with reordered lists are taken in alike, one after the other. -/
theorem foldlM_apply_alike {rule other : Rule} {modifiers others : List Modifier}
    (same : rule.SameSpelling other)
    (reordered : List.Forall₂ Modifier.Reordered modifiers others)
    : AlikeInSuccess SameSpelling (modifiers.foldlM apply rule)
        (others.foldlM apply other) := by
  induction reordered generalizing rule other with
  | nil => exact .ok same
  | cons first _ ih =>
      simp only [List.foldlM_cons]
      exact (apply_alike same first).bind fun taken => ih taken

theorem apply_badfilter (rule : Rule) (value : Option String)
    : rule.apply (Modifier.badfilter value)
      = .ok { rule with enabled := rule.enabled.insert .badfilter } :=
  rfl

/-- Modifiers and the marked ones are taken in alike, by induction on where the mark stands. -/
theorem foldlM_apply_marks {rule other : Rule} {modifiers marked : List Modifier}
    (same : rule.SameSpelling other) (marks : Modifier.Marks modifiers marked)
    : AlikeInSuccess SameSpelling (modifiers.foldlM apply rule)
        (marked.foldlM apply other) := by
  induction marks generalizing rule other with
  | here value reordered =>
      have enabled : rule.SameSpelling
          { other with enabled := other.enabled.insert .badfilter } := by
        refine { same with enabled := fun feature differs => ?_ }
        simp [same.enabled feature differs, Ne.symm differs]
      simp only [List.foldlM_cons, apply_badfilter]
      exact foldlM_apply_alike enabled reordered
  | later first _ ih =>
      simp only [List.foldlM_cons]
      exact (apply_alike same first).bind fun taken => ih taken

-----------------------------------------------------------------------------------------
-- Which rules are badfilter rules
-----------------------------------------------------------------------------------------

/-- The badfilter rules are those with a badfilter modifier, which cannot have a `~`. -/
theorem ofFilter_isBadfilter {filter : Filter} {origin : Origin} {rule : Rule}
    (built : ofFilter filter origin = .ok rule)
    : rule.isBadfilter = decide ("badfilter" ∈ filter.modifiers.map Modifier.name) := by
  have enabled : rule.isBadfilter = true ↔ filter.Has "badfilter" false :=
    ofFilter_contains_enabled built (by decide)
  have positive : ∀ modifier ∈ filter.modifiers,
      modifier.name = "badfilter" → modifier.negated = false := by
    intro modifier listed named
    by_contra negated
    have usable := (ofFilter_eq_ok_iff.mp built).1 modifier listed
    have negatable : .badfilter ∈ Feature.negatable :=
      mem_negatable_of_usable usable named (by simpa using negated)
    exact absurd negatable (by decide)
  rw [Bool.eq_iff_iff, enabled, decide_eq_true_iff, List.mem_map]
  constructor
  · intro ⟨modifier, listed, named, _⟩
    exact ⟨modifier, listed, named⟩
  · intro ⟨modifier, listed, named⟩
    exact ⟨modifier, listed, named, positive modifier listed named⟩

end Rule

-----------------------------------------------------------------------------------------
-- Marked filters
-----------------------------------------------------------------------------------------

namespace Filter

/-- A filter, and the same one with a badfilter modifier at some place and lists in any
order.
-/
structure Marked (filter marked : Filter) : Prop where
  exception : filter.exception = marked.exception
  pattern : filter.pattern = marked.pattern
  modifiers : Modifier.Marks filter.modifiers marked.modifiers

variable {filter marked : Filter}

theorem Marked.additions_eq (marks : filter.Marked marked)
    : marked.additions = filter.additions := by
  have forAll : marked.isForAll = filter.isForAll := by
    have names := marks.modifiers.mem_map_name (show "all" ≠ "badfilter" by decide)
    rw [Bool.eq_iff_iff]
    simpa [isForAll] using names
  simp only [additions, forAll, marks.exception]

/-- A marked filter means the filters of the unmarked one, each with the mark. -/
theorem expand_marked (marks : filter.Marked marked)
    : List.Forall₂ Marked filter.expand marked.expand := by
  rw [expand_eq, expand_eq, marks.additions_eq, List.forall₂_map_left_iff,
    List.forall₂_map_right_iff, List.forall₂_same]
  intro more _
  exact ⟨marks.exception, marks.pattern, marks.modifiers.flatMap_expand.append_right more⟩

theorem ofFilter_alike (marks : filter.Marked marked) (origin place : Origin)
    : AlikeInSuccess Rule.SameSpelling (Rule.ofFilter filter origin)
        (Rule.ofFilter marked place) := by
  refine Rule.foldlM_apply_marks ?_ marks.modifiers
  exact ⟨marks.pattern, marks.exception, fun _ _ => rfl, rfl, rfl, .refl _, .refl _, .rfl,
    .refl _, .refl _⟩

theorem badfilter_not_mem_expand
    (plain : ∀ modifier ∈ filter.modifiers, modifier.name ≠ "badfilter") {part : Filter}
    (member : part ∈ filter.expand)
    : "badfilter" ∉ part.modifiers.map Modifier.name := by
  rw [expand_eq] at member
  obtain ⟨more, added, rfl⟩ := List.mem_map.mp member
  intro listed
  rw [List.map_append, List.mem_append] at listed
  rcases listed with own | addition
  · obtain ⟨modifier, inside, named⟩ := List.mem_map.mp own
    obtain ⟨source, known, expanded⟩ := List.mem_flatMap.mp inside
    exact Modifier.name_ne_badfilter_of_mem_expand (plain source known) expanded named
  · obtain ⟨modifier, inside, named⟩ := List.mem_map.mp addition
    have standIn := additions_standIns more added modifier inside
    exact Modifier.name_ne_badfilter_of_mem_standIns standIn named

/-- Marking a filter cancels it. A filter without badfilter and the same one with a badfilter
modifier at any place, its lists in any order, mean equally many filters. Of those at one
position both give a rule or neither does, and the rule with the mark cancels the other one,
not the other way round.
-/
theorem expand_marked_negates {filter marked : Filter}
    (plain : ∀ modifier ∈ filter.modifiers, modifier.name ≠ "badfilter")
    (marks : filter.Marked marked)
    : filter.expand.length = marked.expand.length
      ∧ ∀ (position : Nat) (part other : Filter), filter.expand[position]? = some part
          → marked.expand[position]? = some other
          → ∀ origin place,
            ((∃ rule, Rule.ofFilter part origin = .ok rule)
                ↔ ∃ negation, Rule.ofFilter other place = .ok negation)
            ∧ ∀ rule negation, Rule.ofFilter part origin = .ok rule
              → Rule.ofFilter other place = .ok negation
              → negation.negates rule = true ∧ rule.negates negation = false := by
  have expanded := expand_marked marks
  refine ⟨expanded.length_eq, ?_⟩
  intro position part other found found' origin place
  have both : part.Marked other := by
    obtain ⟨inside, own⟩ := List.getElem?_eq_some_iff.mp found
    obtain ⟨inside', own'⟩ := List.getElem?_eq_some_iff.mp found'
    simpa [own, own'] using expanded.get inside inside'
  have alike := ofFilter_alike both origin place
  refine ⟨alike.succeeds_iff, ?_⟩
  intro rule negation built built'
  have unmarked : rule.isBadfilter = false := by
    have absent := badfilter_not_mem_expand plain (List.mem_of_getElem? found)
    rw [Rule.ofFilter_isBadfilter built, decide_eq_false absent]
  have bad : negation.isBadfilter = true := by
    obtain ⟨value, listed⟩ := both.modifiers.exists_badfilter
    have named : "badfilter" ∈ other.modifiers.map Modifier.name :=
      List.mem_map.mpr ⟨_, listed, rfl⟩
    rw [Rule.ofFilter_isBadfilter built', decide_eq_true named]
  refine ⟨Rule.negates_iff.mpr ⟨bad, unmarked, (alike.related built built').symm⟩, ?_⟩
  simp [Rule.negates, unmarked]

/-- A blocking filter for everything on some pages, with a policy of its own. -/
def everything : Filter where
  exception := false
  pattern := "||a^"
  modifiers :=
    [{ name := "all" }, { name := "from", value := some "b.com| ~C.com |" },
      { name := "method", value := some "get|~POST" }, { name := "csp", value := some "x" }]

/-- The same filter with both lists turned round and a mark between them. -/
def everythingMarked : Filter where
  exception := false
  pattern := "||a^"
  modifiers :=
    [{ name := "all" }, { name := "from", value := some "| ~C.com |b.com" },
      { name := "badfilter" }, { name := "method", value := some "~POST|get" },
      { name := "csp", value := some "x" }]

/-- All three filters that the filter for everything means are cancelled one by one. -/
theorem expand_marked_negates_everything
    : Line.ofString "||a^$all,from=b.com| ~C.com |,method=get|~POST,csp=x" = .network everything
      ∧ Line.ofString "||a^$all,from=| ~C.com |b.com,badfilter,method=~POST|get,csp=x"
        = .network everythingMarked
      ∧ everything.expand.length = 3
      ∧ ∀ position < 3, ∃ part other rule negation,
          everything.expand[position]? = some part
          ∧ everythingMarked.expand[position]? = some other
          ∧ Rule.ofFilter part {} = .ok rule ∧ Rule.ofFilter other {} = .ok negation
          ∧ negation.negates rule = true ∧ rule.negates negation = false := by
  have plain : ∀ modifier ∈ everything.modifiers, modifier.name ≠ "badfilter" := by decide
  have marks : everything.Marked everythingMarked := by
    refine ⟨rfl, rfl, .later (.refl _) (.later ?_ (.here none (.cons ?_ (.cons (.refl _) .nil))))⟩
    · refine ⟨rfl, rfl, .some ?_, by decide⟩
      show List.Perm _ _
      decide +kernel
    · refine ⟨rfl, rfl, .some ?_, by decide⟩
      show List.Perm _ _
      decide +kernel
  have built : everything.expand.all (fun part => (Rule.ofFilter part {}).toOption.isSome)
      = true := by decide +kernel
  obtain ⟨lengths, cancelled⟩ := expand_marked_negates plain marks
  have count : everything.expand.length = 3 := by decide +kernel
  refine ⟨by decide +kernel, by decide +kernel, count, ?_⟩
  rw [← count]
  intro position inside
  have found := List.getElem?_eq_getElem inside
  have found' := List.getElem?_eq_getElem (lengths ▸ inside)
  obtain ⟨same, negated⟩ := cancelled position _ _ found found' {} {}
  have own := List.all_eq_true.mp built _ (List.mem_of_getElem? found)
  obtain ⟨rule, kept⟩ := Option.isSome_iff_exists.mp own
  have done : Rule.ofFilter everything.expand[position] {} = .ok rule := by
    cases reached : Rule.ofFilter everything.expand[position] {} with
    | error fault =>
        rw [reached] at kept
        cases kept
    | ok other =>
        rw [reached] at kept
        exact congrArg Except.ok (Option.some.inj kept)
  obtain ⟨negation, done'⟩ := same.mp ⟨rule, done⟩
  exact ⟨_, _, rule, negation, found, found', done, done', negated rule negation done done'⟩

end Filter

end Blocklist
