import Blocklist.Proofs.Rule.Modifiers
import Blocklist.Proofs.Rule.Recognition
import Mathlib.Data.List.Forall2

/-! Modifiers with a `~` and without. The sign counts for types and features: a rule restricts
the type or switches the feature off, or is refused. It is lost where a modifier lists the domains
of pages or is a shorthand.
-/

namespace Blocklist

-----------------------------------------------------------------------------------------
-- Lists of domains
-----------------------------------------------------------------------------------------

/-- A list between bars that names a domain and has no lone `~`. -/
def ListsDomains (list : String) : Prop :=
  (∃ entry ∈ barEntries list, entry ≠ []) ∧ ['~'] ∉ barEntries list

theorem readDomain_succeeds_iff {list : String} {entry : List Char} (filled : entry ≠ [])
    : (∃ domain, readDomain list entry = .ok domain) ↔ entry ≠ ['~'] := by
  constructor
  · intro ⟨domain, read⟩ lone
    subst lone
    cases read
  · intro other
    obtain ⟨c, rest, rfl⟩ := List.exists_cons_of_ne_nil filled
    by_cases marked : c = '~'
    · subst marked
      obtain ⟨d, more, rfl⟩ := List.exists_cons_of_ne_nil (show rest ≠ [] by simpa using other)
      exact ⟨_, rfl⟩
    · exact ⟨(false, domainForm (c :: rest)), by simp [readDomain, Text.dropMark, marked]⟩

theorem mapM_succeeds_iff {ε α β : Type} {read : α → Except ε β} {items : List α}
    : (∃ results, items.mapM read = .ok results)
      ↔ ∀ item ∈ items, ∃ result, read item = .ok result := by
  constructor
  · intro ⟨results, all⟩ item member
    have own : read item ∈ results.map .ok :=
      Line.mapM_eq_ok_iff.mp all ▸ List.mem_map_of_mem member
    obtain ⟨result, -, same⟩ := List.mem_map.mp own
    exact ⟨result, same.symm⟩
  · intro each
    induction items with
    | nil => exact ⟨[], rfl⟩
    | cons item items ih =>
        obtain ⟨⟨result, own⟩, later⟩ := List.forall_mem_cons.mp each
        obtain ⟨results, others⟩ := ih later
        exact ⟨result :: results, by rw [List.mapM_cons, own, others]; rfl⟩

theorem mem_filled_iff {list : String} {entry : List Char}
    : entry ∈ (barEntries list).filter (!·.isEmpty) ↔ entry ∈ barEntries list ∧ entry ≠ [] := by
  simp [List.mem_filter]

/-- The entries of a list can be read unless one is a lone `~`. -/
theorem readEntries_succeeds_iff {list : String}
    : (∃ found, ((barEntries list).filter (!·.isEmpty)).mapM (readDomain list) = .ok found)
      ↔ ['~'] ∉ barEntries list := by
  rw [mapM_succeeds_iff]
  constructor
  · intro each lone
    have filled : ['~'] ≠ [] := List.cons_ne_nil _ _
    exact (readDomain_succeeds_iff filled).mp (each _ (mem_filled_iff.mpr ⟨lone, filled⟩)) rfl
  · intro marked entry member
    obtain ⟨inside, filled⟩ := mem_filled_iff.mp member
    exact (readDomain_succeeds_iff filled).mpr fun lone => marked (lone ▸ inside)

/-- A list of domains can be read when one is named and each `~` has a domain. -/
theorem readDomains_succeeds_iff {list : String}
    : (∃ domains, readDomains list = .ok domains) ↔ ListsDomains list := by
  rw [readDomains]
  cases entries : ((barEntries list).filter (!·.isEmpty)).mapM (readDomain list) with
  | error fault =>
      refine iff_of_false nofun ?_
      intro ⟨_, marked⟩
      obtain ⟨found, read⟩ := readEntries_succeeds_iff.mpr marked
      rw [entries] at read
      cases read
  | ok found =>
      have marked := readEntries_succeeds_iff.mp ⟨found, entries⟩
      have same := Line.mapM_eq_ok_iff.mp entries
      cases found with
      | nil =>
          refine iff_of_false nofun ?_
          intro ⟨⟨entry, inside, filled⟩, _⟩
          have none := List.map_eq_nil_iff.mp same
          exact absurd (mem_filled_iff.mpr ⟨inside, filled⟩) (none ▸ List.not_mem_nil)
      | cons domain more =>
          obtain ⟨entry, rest, kept, -⟩ := List.map_eq_cons_iff.mp same
          have first := mem_filled_iff.mp (kept ▸ List.mem_cons_self)
          exact iff_of_true ⟨Sided.ofMarked (domain :: more), rfl⟩ ⟨⟨entry, first⟩, marked⟩

-----------------------------------------------------------------------------------------
-- Usable modifiers
-----------------------------------------------------------------------------------------

/-- A rule that says nothing. -/
def Rule.blank : Rule :=
  start ⟨false, "", []⟩ {}

namespace Modifier

theorem resolve_eq_domain_iff {name : String}
    : (resolve name).1 = "domain" ↔ name = "domain" ∨ name = "from" := by
  by_cases aliased : name ∈ aliases.map Prod.fst
  · have all : aliases.all (fun entry =>
        decide (entry.2.1 = "domain" ↔ entry.1 = "domain" ∨ entry.1 = "from")) = true := by
      decide
    exact of_decide_eq_true (List.all_eq_true.mp all _ (resolve_mem_aliases aliased))
  · have other : name ≠ "from" := by
      intro same
      subst same
      exact aliased (by decide)
    simp [resolve_of_not_alias aliased, other]

variable {modifier : Modifier}

theorem isUnderstood_of_usable (usable : modifier.IsUsable) : IsUnderstood modifier.name := by
  obtain ⟨rule, next, applied⟩ := usable
  by_contra unknown
  simp only [IsUnderstood, not_or, Bool.not_eq_true, Option.isSome_eq_false_iff,
    Option.isNone_iff_eq_none] at unknown
  obtain ⟨unpaged, untyped, unfeatured⟩ := unknown
  simp [Rule.apply, unpaged, untyped, unfeatured] at applied

theorem requireValue_eq_ok_iff {value : String}
    : modifier.requireValue = .ok value ↔ modifier.value = some value ∧ value ≠ "" := by
  simp only [requireValue]
  cases modifier.value with
  | none => simp
  | some own =>
      by_cases empty : own = ""
      · subst empty
        simp
      · simp only [String.isEmpty_iff, empty, if_false, Except.ok.injEq, Option.some.injEq]
        constructor
        · intro same
          exact ⟨same, same ▸ empty⟩
        · intro same
          exact same.1

/-- Domains of pages can be taken in when they can be read, whatever the sign. -/
theorem isUsable_of_domain_iff (paged : modifier.name = "domain")
    : modifier.IsUsable ↔ ∃ list, modifier.value = some list ∧ ListsDomains list := by
  simp only [IsUsable, Rule.apply, paged, if_true]
  constructor
  · intro usable
    obtain ⟨rule, next, applied⟩ := usable
    cases given : modifier.requireValue with
    | error fault =>
        rw [given] at applied
        cases applied
    | ok list =>
        rw [given] at applied
        cases read : readDomains list with
        | error fault => simp [bind, Except.bind, read] at applied
        | ok domains =>
            exact ⟨list, (requireValue_eq_ok_iff.mp given).1,
              readDomains_succeeds_iff.mp ⟨domains, read⟩⟩
  · intro valued
    obtain ⟨list, given, lists⟩ := valued
    have filled : list ≠ "" := by
      intro empty
      subst empty
      obtain ⟨entry, inside, filled⟩ := lists.1
      exact filled (List.mem_singleton.mp inside)
    obtain ⟨domains, read⟩ := readDomains_succeeds_iff.mpr lists
    refine ⟨.blank, { Rule.blank with domains := Rule.blank.domains.append domains }, ?_⟩
    rw [requireValue_eq_ok_iff.mpr ⟨given, filled⟩]
    simp only [bind, Except.bind, read]
    rfl

/-- What a shorthand stands for can always be taken in. -/
theorem isUsable_of_mem_standIns (listed : modifier ∈ standIns) : modifier.IsUsable := by
  have all : standIns.all (fun modifier => (Rule.blank.apply modifier).toBool) = true := by
    decide +kernel
  have own := List.all_eq_true.mp all modifier listed
  cases applied : Rule.blank.apply modifier with
  | error fault =>
      rw [applied] at own
      cases own
  | ok next => exact ⟨_, next, applied⟩

end Modifier

-----------------------------------------------------------------------------------------
-- Filters that mean the same
-----------------------------------------------------------------------------------------

/-- Rules that say the same, at the same place, whatever their texts. -/
def Rule.SameFacets (rule other : Rule) : Prop :=
  { rule with text := other.text } = other

theorem Rule.SameFacets.facet_eq {α : Type} {rule other : Rule} (same : rule.SameFacets other)
    {facet : Rule → α} (blind : ∀ text, facet { rule with text } = facet rule)
    : facet rule = facet other :=
  (blind other.text).symm.trans (congrArg facet same)

namespace Filter

/-- Filters that mean the same: equally many filters, of which those at one position give rules
that say the same.
-/
def MeansAlike (origin : Origin) (filter other : Filter) : Prop :=
  List.Forall₂
    (fun part part' => ∃ rule rule', Rule.ofFilter part origin = .ok rule
      ∧ Rule.ofFilter part' origin = .ok rule' ∧ rule.SameFacets rule')
    filter.expand other.expand

variable {exception : Bool} {pattern : String} {modifier other : Modifier}

theorem has_singleton_iff {name : String} {negated : Bool}
    : Has ⟨exception, pattern, [modifier]⟩ name negated ↔ modifier.Is name negated := by
  simp [Has]

theorem expand_singleton (plain : modifier.name ∉ Modifier.shorthands)
    : expand ⟨exception, pattern, [modifier]⟩ = [⟨exception, pattern, modifier.expand⟩] := by
  have some : modifier.name ≠ "all" := by
    intro forAll
    rw [forAll] at plain
    exact plain (by decide)
  simp [expand, isForAll, some]

/-- A shorthand means the same with every value and sign. -/
theorem meansAlike_of_shorthand (short : modifier.name ∈ Modifier.shorthands)
    (same : modifier.name = other.name) (origin : Origin)
    : MeansAlike origin ⟨exception, pattern, [modifier]⟩ ⟨exception, pattern, [other]⟩ := by
  have expands : expand ⟨exception, pattern, [modifier]⟩
      = expand ⟨exception, pattern, [other]⟩ := by
    simp only [expand, isForAll, List.flatMap_cons, List.any_cons, same,
      Modifier.expand_of_shorthand short same]
  rw [MeansAlike, ← expands, List.forall₂_same]
  intro part member
  have usable : ∀ own ∈ part.modifiers, own.IsUsable := by
    rw [expand_eq] at member
    obtain ⟨more, added, rfl⟩ := List.mem_map.mp member
    intro own listed
    refine Modifier.isUsable_of_mem_standIns ?_
    rcases List.mem_append.mp listed with expanded | addition
    · exact Modifier.mem_standIns short (by simpa using expanded)
    · exact additions_standIns more added own addition
  have built : Rule.ofFilter part origin = .ok _ := Rule.ofFilter_eq_ok_iff.mpr ⟨usable, rfl⟩
  exact ⟨_, _, built, built, rfl⟩

/-- The opposite of a type or a feature gives a rule that says something else: only one of the
two is restricted or switched off.
-/
theorem name_eq_domain_of_sameFacets {origin : Origin} {rule rule' : Rule}
    (named : modifier.name = other.name) (opposite : modifier.negated = !other.negated)
    (built : Rule.ofFilter ⟨exception, pattern, [modifier]⟩ origin = .ok rule)
    (built' : Rule.ofFilter ⟨exception, pattern, [other]⟩ origin = .ok rule')
    (same : rule.SameFacets rule')
    : modifier.name = "domain" := by
  have usable := (Rule.ofFilter_eq_ok_iff.mp built).1 modifier List.mem_cons_self
  have apart : ¬(modifier.negated = true ↔ other.negated = true) := by
    rw [opposite]
    cases other.negated <;> decide
  rcases Modifier.isUnderstood_of_usable usable with paged | typed | featured
  · exact paged
  · obtain ⟨type, found⟩ := Option.isSome_iff_exists.mp typed
    have own := ResourceType.ofModifier?_eq_some.mp found
    have left := Rule.ofFilter_mem_types built type true
    have right := Rule.ofFilter_mem_types built' type true
    have types : rule.types = rule'.types := same.facet_eq fun _ => rfl
    rw [has_singleton_iff, Modifier.Is, own, types, right, has_singleton_iff, Modifier.Is,
      ← named, own] at left
    simp only [true_and] at left
    exact absurd left.symm apart
  · obtain ⟨feature, found⟩ := Option.isSome_iff_exists.mp featured
    have own := Feature.ofModifier?_eq_some_iff.mp found
    have left : rule.disabled.contains feature = true
        ↔ Has ⟨exception, pattern, [modifier]⟩ feature.name true :=
      Rule.ofFilter_contains_disabled built
    have right : rule'.disabled.contains feature = true
        ↔ Has ⟨exception, pattern, [other]⟩ feature.name true :=
      Rule.ofFilter_contains_disabled built'
    have disabled : rule.disabled = rule'.disabled := same.facet_eq fun _ => rfl
    rw [has_singleton_iff, Modifier.Is, own, disabled, right, has_singleton_iff, Modifier.Is,
      ← named, own] at left
    simp only [true_and] at left
    exact absurd left.symm apart

/-- One modifier without aliases and its opposite give rules that say the same only if they list
domains of pages.
-/
theorem sameFacets_iff (named : modifier.name = other.name)
    (valued : modifier.value = other.value) (opposite : modifier.negated = !other.negated)
    (origin : Origin)
    : (∃ rule rule', Rule.ofFilter ⟨exception, pattern, [modifier]⟩ origin = .ok rule
        ∧ Rule.ofFilter ⟨exception, pattern, [other]⟩ origin = .ok rule'
        ∧ rule.SameFacets rule')
      ↔ modifier.name = "domain" ∧ ∃ list, modifier.value = some list ∧ ListsDomains list := by
  constructor
  · intro ⟨rule, rule', built, built', same⟩
    have paged := name_eq_domain_of_sameFacets named opposite built built' same
    have usable := (Rule.ofFilter_eq_ok_iff.mp built).1 modifier List.mem_cons_self
    exact ⟨paged, (Modifier.isUsable_of_domain_iff paged).mp usable⟩
  · intro ⟨paged, lists⟩
    have usable := (Modifier.isUsable_of_domain_iff paged).mpr lists
    have usable' := (Modifier.isUsable_of_domain_iff (named ▸ paged)).mpr (valued ▸ lists)
    have read : modifier.listed? readDomains = other.listed? readDomains := by
      simp only [Modifier.listed?, Modifier.requireValue, named, valued]
    refine ⟨_, _, Rule.ofFilter_eq_ok_iff.mpr ⟨List.forall_mem_singleton.mpr usable, rfl⟩,
      Rule.ofFilter_eq_ok_iff.mpr ⟨List.forall_mem_singleton.mpr usable', rfl⟩, ?_⟩
    simp only [List.foldl_cons, List.foldl_nil, Rule.take_of_domain paged,
      Rule.take_of_domain (named ▸ paged), read]
    rfl

/-- A name that is no shorthand means the same with a `~` only if it lists domains of pages. -/
theorem meansAlike_of_plain_iff {name : String} (plain : name ∉ Modifier.shorthands)
    {value : Option String} {origin : Origin}
    : MeansAlike origin ⟨exception, pattern, [{ name, value }]⟩
        ⟨exception, pattern, [{ name, value, negated := true }]⟩
      ↔ (name = "domain" ∨ name = "from") ∧ ∃ list, value = some list ∧ ListsDomains list := by
  have opposite (inverts : Bool) : (false != inverts) = !(true != inverts) := by
    cases inverts <;> rfl
  rw [MeansAlike, expand_singleton plain, expand_singleton plain, Modifier.expand_of_plain plain,
    Modifier.expand_of_plain plain, List.forall₂_cons,
    sameFacets_iff (by rfl) (by rfl) (opposite _), Modifier.resolve_eq_domain_iff]
  simp only [List.forall₂_nil_left_iff, and_true]

/-- A modifier and the same one with a `~` mean the same in exactly two cases, whatever the
filter: the modifier is a shorthand, or it lists domains of pages that can be read.
-/
theorem meansAlike_negated_iff (exception : Bool) (pattern name : String)
    (value : Option String) (origin : Origin)
    : MeansAlike origin ⟨exception, pattern, [{ name, value }]⟩
        ⟨exception, pattern, [{ name, value, negated := true }]⟩
      ↔ name ∈ Modifier.shorthands
        ∨ (name = "domain" ∨ name = "from") ∧ ∃ list, value = some list ∧ ListsDomains list := by
  by_cases short : name ∈ Modifier.shorthands
  · have alike : MeansAlike origin ⟨exception, pattern, [{ name, value }]⟩
        ⟨exception, pattern, [{ name, value, negated := true }]⟩ :=
      meansAlike_of_shorthand short (by rfl) origin
    exact iff_of_true alike (Or.inl short)
  · rw [meansAlike_of_plain_iff short, or_iff_right short]

/-- The sign is lost in both cases: `~domain` asks for the pages that it seems to leave out, and
`~all` is `all`.
-/
theorem meansAlike_negated_of_lost_signs
    : Line.ofString "||a^$domain=b.com"
        = .network ⟨false, "||a^", [{ name := "domain", value := some "b.com" }]⟩
      ∧ Line.ofString "||a^$~domain=b.com"
        = .network ⟨false, "||a^", [{ name := "domain", value := some "b.com", negated := true }]⟩
      ∧ MeansAlike {} ⟨false, "||a^", [{ name := "domain", value := some "b.com" }]⟩
          ⟨false, "||a^", [{ name := "domain", value := some "b.com", negated := true }]⟩
      ∧ Line.ofString "||a^$all" = .network ⟨false, "||a^", [{ name := "all" }]⟩
      ∧ Line.ofString "||a^$~all" = .network ⟨false, "||a^", [{ name := "all", negated := true }]⟩
      ∧ MeansAlike {} ⟨false, "||a^", [{ name := "all" }]⟩
          ⟨false, "||a^", [{ name := "all", negated := true }]⟩ := by
  have lists : ListsDomains "b.com" := ⟨⟨"b.com".toList, by decide, by decide⟩, by decide⟩
  refine ⟨by decide +kernel, by decide +kernel, ?_, by decide +kernel, by decide +kernel, ?_⟩
  · exact (meansAlike_of_plain_iff (by decide)).mpr ⟨Or.inl rfl, "b.com", rfl, lists⟩
  · exact meansAlike_of_shorthand (by decide) rfl {}

end Filter

end Blocklist
