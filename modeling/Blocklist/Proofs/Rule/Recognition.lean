import Blocklist.Proofs.Filter.Expansion
import Blocklist.Proofs.Filter.Reading
import Blocklist.Rule.Build

/-! Names that a line may use are names that rules understand. A filter that was read from a line
can still be at fault, in its values and signs, but none of its modifiers is unknown once aliases
are gone.
-/

namespace Blocklist

-----------------------------------------------------------------------------------------
-- Computations by their faults
-----------------------------------------------------------------------------------------

/-- Whatever fault a computation ends with is one of the given ones. -/
def FaultsIn {ε α : Type} (faults : ε → Prop) (computation : Except ε α) : Prop :=
  ∀ fault, computation = .error fault → faults fault

namespace FaultsIn

variable {ε α β : Type} {faults : ε → Prop}

theorem ok (result : α) : FaultsIn faults (.ok result : Except ε α) := by
  intro fault failed
  cases failed

theorem error {fault : ε} (own : faults fault)
    : FaultsIn faults (.error fault : Except ε α) := by
  intro other failed
  cases failed
  exact own

theorem ite {condition : Prop} [Decidable condition] {left right : Except ε α}
    (first : FaultsIn faults left) (second : FaultsIn faults right)
    : FaultsIn faults (if condition then left else right) := by
  split
  · exact first
  · exact second

theorem bind {computation : Except ε α} {next : α → Except ε β}
    (first : FaultsIn faults computation) (later : ∀ result, FaultsIn faults (next result))
    : FaultsIn faults (computation >>= next) := by
  cases computation with
  | error fault => exact error (first fault rfl)
  | ok result => exact later result

theorem mapM {read : α → Except ε β} (each : ∀ item, FaultsIn faults (read item))
    (items : List α)
    : FaultsIn faults (items.mapM read) := by
  induction items with
  | nil => exact ok []
  | cons item items ih =>
      rw [List.mapM_cons]
      exact (each item).bind fun result => ih.bind fun results => ok (result :: results)

theorem foldlM {step : β → α → Except ε β} {items : List α}
    (each : ∀ item ∈ items, ∀ state, FaultsIn faults (step state item)) (state : β)
    : FaultsIn faults (items.foldlM step state) := by
  induction items generalizing state with
  | nil => exact ok state
  | cons item items ih =>
      obtain ⟨first, later⟩ := List.forall_mem_cons.mp each
      rw [List.foldlM_cons]
      exact (first state).bind fun next => ih later next

end FaultsIn

-----------------------------------------------------------------------------------------
-- Faults of modifiers that rules understand
-----------------------------------------------------------------------------------------

namespace RuleFault

/-- A fault other than a name that no rule understands. -/
def IsRecognised (fault : RuleFault) : Prop :=
  ∀ name, fault ≠ unknownModifier name

/-- Texts differ when neither of their stems begins the other. -/
theorem append_ne_append {stem other : String}
    (apart : stem.toList.isPrefixOf other.toList = false
      ∧ other.toList.isPrefixOf stem.toList = false)
    (rest more : String)
    : stem ++ rest ≠ other ++ more := by
  intro same
  have first : stem.toList <+: (stem ++ rest).toList :=
    String.toList_append ▸ List.prefix_append _ _
  have second : other.toList <+: (stem ++ rest).toList := by
    rw [same, String.toList_append]
    exact List.prefix_append _ _
  rcases List.prefix_or_prefix_of_prefix first second with begins | begins
  · rw [List.isPrefixOf_iff_prefix.mpr begins] at apart
    cases apart.1
  · rw [List.isPrefixOf_iff_prefix.mpr begins] at apart
    cases apart.2

/-- The wording of a fault tells whether it is about an unknown name. -/
theorem message_ne {fault : RuleFault} (recognised : fault.IsRecognised) (name : String)
    : fault.message ≠ (unknownModifier name).message := by
  have apart (stem rest : String)
      (differs : stem.toList.isPrefixOf "unknown modifier: ".toList = false
        ∧ "unknown modifier: ".toList.isPrefixOf stem.toList = false)
      : stem ++ rest ≠ (unknownModifier name).message :=
    append_ne_append differs rest name
  cases fault with
  | unknownModifier other => exact absurd rfl (recognised other)
  | missingValue other =>
      have differs := apart "modifier `" (other ++ "` requires a value") (by decide +kernel)
      rwa [← String.append_assoc] at differs
  | notNegatable other =>
      have differs := apart "modifier `" (other ++ "` cannot be negated") (by decide +kernel)
      rwa [← String.append_assoc] at differs
  | emptyDomain list => exact apart "empty domain in list: " list (by decide +kernel)
  | emptyDomainList list => exact apart "empty domain list: " list (by decide +kernel)
  | negatedDenyallow =>
      exact apart "`denyallow` " "does not accept negated domains" (by decide +kernel)
  | wildcardDenyallow =>
      exact apart "`denyallow` " "does not accept wildcard domains" (by decide +kernel)
  | unknownMethod method => exact apart "unknown request method: " method (by decide +kernel)
  | missingHeaderName =>
      exact apart "`removeheader` " "requires a header name" (by decide +kernel)
  | protectedHeader header =>
      have differs := apart "header `" (header ++ "` cannot be removed") (by decide +kernel)
      rwa [← String.append_assoc] at differs

end RuleFault

open RuleFault (IsRecognised)

theorem requireValue_recognised (modifier : Modifier)
    : FaultsIn IsRecognised modifier.requireValue := by
  simp only [Modifier.requireValue]
  split
  · exact .ite (.error nofun) (.ok _)
  · exact .error nofun

theorem readDomains_recognised (list : String) : FaultsIn IsRecognised (readDomains list) := by
  have each (entry : List Char) : FaultsIn IsRecognised (readDomain list entry) :=
    .ite (.error nofun) (.ok _)
  exact (FaultsIn.mapM each _).bind fun entries => .ite (.error nofun) (.ok _)

theorem readPlainDomains_recognised (list : String)
    : FaultsIn IsRecognised (readPlainDomains list) :=
  (readDomains_recognised list).bind fun _ =>
    .ite (.error nofun) (.ite (.error nofun) (.ok _))

theorem readMethods_recognised (list : String) : FaultsIn IsRecognised (readMethods list) := by
  have each (entry : List Char) : FaultsIn IsRecognised (readMethod entry) := by
    simp only [readMethod]
    split
    · exact .ok _
    · exact .error nofun
  rw [readMethods, map_eq_pure_bind]
  exact (FaultsIn.mapM each _).bind fun _ => .ok _

theorem ofValue_recognised (value : String)
    : FaultsIn IsRecognised (HeaderRemoval.ofValue value) := by
  simp only [HeaderRemoval.ofValue]
  split
  · exact .ite (.error nofun) (.ite (.error nofun) (.ok _))
  · exact .ite (.error nofun) (.ite (.error nofun) (.ok _))

namespace Rule

/-- The value of a modifier is taken in or at fault, by cases on its feature. -/
theorem applyValue_recognised (rule : Rule) (feature : Feature) (modifier : Modifier)
    : FaultsIn IsRecognised (rule.applyValue feature modifier) := by
  have given := requireValue_recognised modifier
  cases feature with
  | targets =>
      exact given.bind fun list => (readDomains_recognised list).bind fun _ => .ok _
  | denyallow =>
      exact given.bind fun list => (readPlainDomains_recognised list).bind fun _ => .ok _
  | method =>
      exact given.bind fun list => (readMethods_recognised list).bind fun _ => .ok _
  | removeheader =>
      simp only [applyValue]
      split
      · exact .ok _
      · exact .ok _
      · exact (ofValue_recognised _).bind fun _ => .ok _
  | _ => exact .ok _

/-- A modifier whose name rules understand can only be at fault otherwise. -/
theorem apply_recognised (rule : Rule) {modifier : Modifier}
    (understood : Modifier.IsUnderstood modifier.name)
    : FaultsIn IsRecognised (rule.apply modifier) := by
  simp only [apply]
  split
  · refine (requireValue_recognised modifier).bind ?_
    exact fun list => (readDomains_recognised list).bind fun _ => .ok _
  · rename_i unpaged
    split
    · exact .ok _
    · rename_i untyped
      split
      · simp only [applyFeature]
        split
        · exact applyValue_recognised _ _ modifier
        · split
          · exact .ok _
          · exact .error nofun
      · rename_i unfeatured
        simp [Modifier.IsUnderstood, unpaged, untyped, unfeatured] at understood

end Rule

-----------------------------------------------------------------------------------------
-- Filters that were read from lines
-----------------------------------------------------------------------------------------

namespace Filter

/-- Expansion reaches filters that it leaves as they are. A filter means three filters if it
blocks everything and one otherwise, all with its pattern and of its kind, and each of them means
itself. If it was read from a line, none of its rules is refused for an unknown modifier.
-/
theorem expand_reaches_canonical_filters
    : (∀ filter : Filter,
        filter.expand.length
          = (if filter.exception = false ∧ "all" ∈ filter.modifiers.map Modifier.name then 3
            else 1)
        ∧ ∀ part ∈ filter.expand,
            part.exception = filter.exception ∧ part.pattern = filter.pattern
            ∧ part.expand = [part])
      ∧ ∀ (text : String) (filter : Filter), Line.ofString text = .network filter
        → ∀ part ∈ filter.expand, ∀ (origin : Origin) (fault : RuleFault),
            Rule.ofFilter part origin = .error fault
            → ∀ name, fault.message ≠ (RuleFault.unknownModifier name).message := by
  constructor
  · intro filter
    constructor
    · rw [expand_eq, List.length_map, length_additions]
    · intro part member
      have whole := expand_of_canonical fun modifier listed => (mem_expand_names member listed).1
      rw [expand_eq] at member
      obtain ⟨more, -, rfl⟩ := List.mem_map.mp member
      exact ⟨rfl, rfl, whole⟩
  · intro text filter read part member origin fault failed
    have known := Line.isKnown_of_ofString read
    have recognised : FaultsIn IsRecognised (Rule.ofFilter part origin) := by
      refine FaultsIn.foldlM ?_ _
      intro modifier listed rule
      exact rule.apply_recognised ((mem_expand_names member listed).2 known)
    exact RuleFault.message_ne (recognised fault failed)

/-- A blocking filter for everything with two aliases, one of which lacks its value. -/
def aliased : Filter where
  exception := false
  pattern := "||a^"
  modifiers := [{ name := "all" }, { name := "1p" }, { name := "from", value := some "" }]

/-- Its three filters have canonical names, and are refused for the missing value only. -/
theorem expand_reaches_canonical_filters_of_aliased
    : Line.ofString "||a^$all,1p,from=" = .network aliased ∧ aliased.expand.length = 3
      ∧ ∀ part ∈ aliased.expand,
          part.expand = [part] ∧ Rule.ofFilter part {} = .error (.missingValue "domain")
          ∧ ∀ name,
              (RuleFault.missingValue "domain").message
              ≠ (RuleFault.unknownModifier name).message := by
  obtain ⟨meaning, faults⟩ := expand_reaches_canonical_filters
  have read : Line.ofString "||a^$all,1p,from=" = .network aliased := by decide +kernel
  have failed : ∀ part ∈ aliased.expand,
      Rule.ofFilter part {} = .error (.missingValue "domain") := by
    decide +kernel
  refine ⟨read, (meaning aliased).1, ?_⟩
  intro part member
  exact ⟨((meaning aliased).2 part member).2.2, failed part member,
    faults _ aliased read part member {} _ (failed part member)⟩

end Filter

end Blocklist
