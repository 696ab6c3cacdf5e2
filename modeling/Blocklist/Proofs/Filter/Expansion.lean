import Blocklist.Filter.Alias
import Blocklist.Proofs.Feature

/-! What filters mean without aliases and shorthands. A shorthand stands for modifiers that are
fixed, whatever value or sign it is written with; every other name stands for one modifier, which
is its own meaning. So a filter that was expanded once is expanded to itself.
-/

namespace Blocklist

namespace Modifier

-----------------------------------------------------------------------------------------
-- Names
-----------------------------------------------------------------------------------------

/-- A name that stands for itself only. -/
def IsCanonical (name : String) : Prop :=
  name ∉ shorthands ∧ name ∉ aliases.map Prod.fst

instance (name : String) : Decidable (IsCanonical name) :=
  inferInstanceAs (Decidable (_ ∧ _))

/-- A name that rules understand: the domains of pages, a type or a feature. -/
def IsUnderstood (name : String) : Prop :=
  name = "domain" ∨ (ResourceType.ofModifier? name).isSome = true
    ∨ (Feature.ofModifier? name).isSome = true

instance (name : String) : Decidable (IsUnderstood name) :=
  inferInstanceAs (Decidable (_ ∨ _ ∨ _))

theorem isKnown_iff {name : String}
    : isKnown name = true ↔ name ∈ shorthands ∨ IsUnderstood (resolve name).1 := by
  simp [isKnown, IsUnderstood, or_assoc]

theorem resolve_of_not_alias {name : String} (own : name ∉ aliases.map Prod.fst)
    : resolve name = (name, false) := by
  have none : aliases.lookup name = none := by
    refine List.lookup_eq_none_iff.mpr ?_
    intro entry listed
    refine bne_iff_ne.mpr ?_
    intro same
    exact own (same ▸ List.mem_map_of_mem listed)
  rw [resolve, none]
  rfl

theorem resolve_mem_aliases {name : String} (aliased : name ∈ aliases.map Prod.fst)
    : (name, resolve name) ∈ aliases := by
  have all : aliases.all (fun entry => resolve entry.1 == entry.2) = true := by decide
  obtain ⟨entry, listed, rfl⟩ := List.mem_map.mp aliased
  have same := beq_iff_eq.mp (List.all_eq_true.mp all entry listed)
  rw [same]
  exact listed

/-- No alias stands for an alias or a shorthand. -/
theorem isCanonical_resolve {name : String} (plain : name ∉ shorthands)
    : IsCanonical (resolve name).1 := by
  by_cases aliased : name ∈ aliases.map Prod.fst
  · have all : aliases.all (fun entry => decide (IsCanonical entry.2.1)) = true := by decide
    exact of_decide_eq_true (List.all_eq_true.mp all _ (resolve_mem_aliases aliased))
  · rw [resolve_of_not_alias aliased]
    exact ⟨plain, aliased⟩

-----------------------------------------------------------------------------------------
-- One modifier
-----------------------------------------------------------------------------------------

/-- The modifiers that shorthands stand for. -/
def standIns : List Modifier :=
  [inlineScript, inlineFont, { name := "redirect", value := some "nooptext" }, { name := "media" },
    { name := "redirect", value := some "noopmp4-1s" }, { name := "document" },
    { name := "popup" }]

variable {modifier other part : Modifier}

theorem expand_of_plain (plain : modifier.name ∉ shorthands)
    : modifier.expand
      = [{ name := (resolve modifier.name).1
           value := modifier.value
           negated := modifier.negated != (resolve modifier.name).2 }] := by
  simp only [expand]
  split
  case h_6 => rfl
  all_goals simp_all [shorthands]

/-- What a shorthand stands for hangs on its name alone. -/
theorem expand_of_shorthand (short : modifier.name ∈ shorthands)
    (same : modifier.name = other.name)
    : modifier.expand = other.expand := by
  simp only [expand, ← same]
  split
  case h_6 => simp_all [shorthands]
  all_goals rfl

theorem mem_standIns (short : modifier.name ∈ shorthands) (member : part ∈ modifier.expand)
    : part ∈ standIns := by
  have all : shorthands.all (fun name => (expand { name }).all standIns.contains) = true := by
    decide
  have same : modifier.expand = expand { name := modifier.name } := expand_of_shorthand short rfl
  rw [same] at member
  have own := List.all_eq_true.mp (List.all_eq_true.mp all _ short) part member
  exact List.contains_iff_mem.mp own

theorem mem_standIns_names (listed : part ∈ standIns)
    : IsCanonical part.name ∧ IsUnderstood part.name := by
  have all : standIns.all (fun part => decide (IsCanonical part.name ∧ IsUnderstood part.name))
      = true := by decide
  exact of_decide_eq_true (List.all_eq_true.mp all part listed)

/-- A modifier with a canonical name means itself. -/
theorem expand_of_canonical (canonical : IsCanonical modifier.name)
    : modifier.expand = [modifier] := by
  rw [expand_of_plain canonical.1, resolve_of_not_alias canonical.2]
  simp

/-- What a modifier means has canonical names, which rules understand if its own is known. -/
theorem mem_expand_names (member : part ∈ modifier.expand)
    : IsCanonical part.name ∧ (isKnown modifier.name = true → IsUnderstood part.name) := by
  by_cases short : modifier.name ∈ shorthands
  · obtain ⟨canonical, understood⟩ := mem_standIns_names (mem_standIns short member)
    exact ⟨canonical, fun _ => understood⟩
  · rw [expand_of_plain short, List.mem_singleton] at member
    subst member
    exact ⟨isCanonical_resolve short, fun known => (isKnown_iff.mp known).resolve_left short⟩

end Modifier

-----------------------------------------------------------------------------------------
-- All modifiers of a filter
-----------------------------------------------------------------------------------------

namespace Filter

variable {filter part : Filter}

/-- What the filters that a filter means have besides its own modifiers. -/
def additions (filter : Filter) : List (List Modifier) :=
  if !filter.isForAll then [[]]
  else if filter.exception then [[{ name := "document" }]]
  else
    [[{ name := "document" }, { name := "popup" }], [Modifier.inlineScript],
      [Modifier.inlineFont]]

theorem expand_eq (filter : Filter)
    : filter.expand
      = filter.additions.map fun more =>
          { filter with modifiers := filter.modifiers.flatMap Modifier.expand ++ more } := by
  simp only [expand, additions]
  split
  · rfl
  · split <;> rfl

theorem additions_standIns
    : ∀ more ∈ filter.additions, ∀ modifier ∈ more, modifier ∈ Modifier.standIns := by
  simp only [additions]
  split
  · simp
  · split <;> decide

theorem length_additions (filter : Filter)
    : filter.additions.length
      = if filter.exception = false ∧ "all" ∈ filter.modifiers.map Modifier.name then 3
        else 1 := by
  have forAll : filter.isForAll = true ↔ "all" ∈ filter.modifiers.map Modifier.name := by
    simp [isForAll]
  simp only [← forAll, additions]
  cases filter.isForAll <;> cases filter.exception <;> rfl

/-- The modifiers of an expanded filter have canonical names, which rules understand if those of
the filter are known.
-/
theorem mem_expand_names (member : part ∈ filter.expand) {modifier : Modifier}
    (listed : modifier ∈ part.modifiers)
    : Modifier.IsCanonical modifier.name
      ∧ ((∀ source ∈ filter.modifiers, Modifier.isKnown source.name = true)
        → Modifier.IsUnderstood modifier.name) := by
  rw [expand_eq] at member
  obtain ⟨more, added, rfl⟩ := List.mem_map.mp member
  rcases List.mem_append.mp listed with own | addition
  · obtain ⟨source, inside, expanded⟩ := List.mem_flatMap.mp own
    obtain ⟨canonical, understood⟩ := Modifier.mem_expand_names expanded
    exact ⟨canonical, fun known => understood (known source inside)⟩
  · obtain ⟨canonical, understood⟩ :=
      Modifier.mem_standIns_names (additions_standIns more added modifier addition)
    exact ⟨canonical, fun _ => understood⟩

/-- A filter whose names are all canonical means itself. -/
theorem expand_of_canonical
    (canonical : ∀ modifier ∈ filter.modifiers, Modifier.IsCanonical modifier.name)
    : filter.expand = [filter] := by
  have some : filter.isForAll = false := by
    rw [isForAll, List.any_eq_false]
    intro modifier listed forAll
    refine (canonical modifier listed).1 ?_
    rw [beq_iff_eq.mp forAll]
    decide
  have own : filter.modifiers.flatMap Modifier.expand = filter.modifiers := by
    rw [List.flatMap_congr fun modifier listed =>
      Modifier.expand_of_canonical (canonical modifier listed)]
    exact List.flatMap_singleton' filter.modifiers
  rw [expand_eq, additions, some, own]
  simp

end Filter

end Blocklist
