import Blocklist.Proofs.Filter.Reading

/-! Canonical texts of filters and what is read from them. A filter is read back from its text if
the text can be told from other lines, and its parts from each other.
-/

namespace Blocklist.Filter

open Line (EvenRuns RunEnd isPaired joinCommas optionsCut? readFilter)
open Text (beginsWith endsWith nextWord trim)

-----------------------------------------------------------------------------------------
-- Texts
-----------------------------------------------------------------------------------------

/-- The text of the modifiers, after the dollar sign. -/
def optionChars (filter : Filter) : List Char :=
  joinCommas (filter.modifiers.map Modifier.plainChars)

section

variable {filter : Filter}

theorem chars_of_bare (bare : filter.modifiers = [])
    : filter.chars = filter.markChars ++ filter.pattern.toList := by
  rw [chars, bare, modifierChars, List.append_nil, markChars]

theorem chars_of_modifiers (filled : filter.modifiers ≠ [])
    (known : ∀ modifier ∈ filter.modifiers, Modifier.isKnown modifier.name = true)
    : filter.chars
      = filter.markChars ++ (filter.pattern.toList ++ '$' :: filter.optionChars) := by
  obtain ⟨first, rest, listed⟩ := List.exists_cons_of_ne_nil filled
  rw [listed] at known
  obtain ⟨own, later⟩ := List.forall_mem_cons.mp known
  have more : rest.flatMap (fun modifier => ',' :: modifier.chars)
      = (rest.map Modifier.plainChars).flatMap (',' :: Modifier.escapeCommas ·) := by
    rw [List.flatMap_map]
    refine List.flatMap_congr ?_
    intro modifier member
    rw [Modifier.chars_eq_escapeCommas (later modifier member)]
  rw [chars, optionChars, listed, modifierChars, List.map_cons, joinCommas, more,
    Modifier.chars_eq_escapeCommas own, markChars, List.append_assoc, List.cons_append]

/-- The text of the modifiers begins with a name or a sign before it. -/
theorem exists_optionChars_eq_cons (filled : filter.modifiers ≠ [])
    (known : ∀ modifier ∈ filter.modifiers, Modifier.isKnown modifier.name = true)
    : ∃ c rest, filter.optionChars = c :: rest ∧ c ∈ '~' :: Modifier.nameChars := by
  obtain ⟨first, rest, listed⟩ := List.exists_cons_of_ne_nil filled
  rw [listed] at known
  obtain ⟨c, more, chars, member⟩ :=
    Modifier.exists_plainChars_eq_cons (known first List.mem_cons_self)
  have plain : c ≠ ',' := by
    rintro rfl
    exact absurd member (by decide)
  rw [optionChars, listed, List.map_cons, joinCommas, chars, Line.escapeCommas_cons_of_ne plain]
  exact ⟨c, _, rfl, member⟩

theorem beginsWith_optionChars (filled : filter.modifiers ≠ [])
    (known : ∀ modifier ∈ filter.modifiers, Modifier.isKnown modifier.name = true)
    : beginsWith '/' filter.optionChars = false := by
  obtain ⟨c, rest, chars, member⟩ := exists_optionChars_eq_cons filled known
  rw [chars, Text.beginsWith_cons, beq_eq_false_iff_ne]
  rintro rfl
  exact absurd member (by decide)

theorem unmarked_append {text : List Char} (unmarked : ¬['@', '@'] <+: text) (rest : List Char)
    : ¬['@', '@'] <+: text ++ '$' :: rest := by
  match text with
  | [] => simp
  | [c] => simp
  | c :: d :: more => simpa using unmarked

theorem readFilter_of_bare (bare : filter.modifiers = []) (filled : filter.pattern.toList ≠ [])
    (whole : optionsCut? filter.pattern.toList = none)
    (unmarked : filter.exception = false → ¬['@', '@'] <+: filter.pattern.toList)
    : readFilter filter.chars = .ok filter := by
  rw [chars_of_bare bare, Line.readFilter_eq_ok_iff]
  refine ⟨filter.pattern.toList, rfl, ?_, ?_⟩
  · intro plain
    rw [markChars, plain]
    exact unmarked plain
  · exact Line.readBody_eq_ok_iff.mpr ⟨rfl, Or.inl filled, Or.inl ⟨whole, rfl, bare⟩⟩

theorem readFilter_of_modifiers (filled : filter.modifiers ≠ [])
    (formed : ∀ modifier ∈ filter.modifiers, modifier.WellFormed)
    (closed : ∀ modifier ∈ filter.modifiers.dropLast, ∀ value, modifier.value = some value
      → isPaired false value.toList = true)
    (cut : optionsCut? (filter.pattern.toList ++ '$' :: filter.optionChars)
      = some (filter.pattern.toList, filter.optionChars))
    (unmarked : filter.exception = false → ¬['@', '@'] <+: filter.pattern.toList)
    : readFilter filter.chars = .ok filter := by
  rw [chars_of_modifiers filled fun modifier member => (formed modifier member).known,
    Line.readFilter_eq_ok_iff]
  refine ⟨_, rfl, ?_, ?_⟩
  · intro plain
    rw [markChars, plain]
    exact unmarked_append (unmarked plain) _
  · exact Line.readBody_eq_ok_iff.mpr ⟨rfl, Or.inr filled,
      Or.inr ⟨_, cut, Line.readModifiers_joinCommas filled formed closed⟩⟩

theorem ofString_text_of_readFilter (trimmed : trim filter.chars = filter.chars)
    (notCosmetic : Line.isCosmetic filter.chars = false)
    (notComment : Line.isComment filter.chars = false)
    (notHosts : Line.readHosts? filter.chars = none) (read : readFilter filter.chars = .ok filter)
    : Line.ofString filter.text = .network filter := by
  rw [Line.ofString, text, String.toList_ofList, Line.ofChars_eq_network_iff, trimmed]
  exact ⟨Line.ne_nil_of_readFilter read, notCosmetic, notComment, Or.inr ⟨notHosts, read⟩⟩

end

-----------------------------------------------------------------------------------------
-- Legible filters
-----------------------------------------------------------------------------------------

/-- A modifier whose text says the same wherever it stands in a filter. -/
structure Legible.Part (modifier : Modifier) : Prop where
  known : Modifier.isKnown modifier.name = true
  trimmed : ∀ value, modifier.value = some value → trim value.toList = value.toList
  plain : ∀ value, modifier.value = some value → '$' ∉ value.toList
  even : ∀ value, modifier.value = some value → EvenRuns (RunEnd false) value.toList

/-- A filter whose text can be told from other lines, and its parts from each other. -/
structure Legible (filter : Filter) : Prop where
  parts : ∀ modifier ∈ filter.modifiers, Legible.Part modifier
  unmarked : filter.exception = false → ¬['@', '@'] <+: filter.pattern.toList
  unescaped : endsWith '\\' filter.pattern.toList = false
  enclosed : beginsWith '/' filter.pattern.toList = true
    → 2 ≤ filter.pattern.toList.length ∧ endsWith '/' filter.pattern.toList = true
  bare : filter.modifiers = [] → filter.pattern ≠ "" ∧ '$' ∉ filter.pattern.toList
  trimmed : trim filter.chars = filter.chars
  notCosmetic : ∀ mark ∈ Line.cosmeticMarks, ¬mark <:+: filter.chars
  notComment : Line.isComment filter.chars = false
  notHosts : (nextWord (nextWord filter.chars).2).1 = []
    ∨ Host.Address.isAddress (nextWord filter.chars).1 = false

namespace Legible

variable {modifier : Modifier} {filter : Filter}

theorem Part.of_paired (known : Modifier.isKnown modifier.name = true)
    (checked : ∀ value ∈ modifier.value, trim value.toList = value.toList ∧ '$' ∉ value.toList
      ∧ isPaired false value.toList = true)
    : Part modifier where
  known := known
  trimmed := fun value given => (checked value given).1
  plain := fun value given => (checked value given).2.1
  even := fun value given =>
    (Line.isPaired_iff_evenRuns false value.toList).mp (checked value given).2.2

theorem Part.closed (part : Part modifier)
    : ∀ value, modifier.value = some value → isPaired false value.toList = true :=
  fun value given => (Line.isPaired_iff_evenRuns false value.toList).mpr (part.even value given)

theorem Part.wellFormed (part : Part modifier) : modifier.WellFormed := by
  refine ⟨part.known, part.trimmed, ?_⟩
  intro value given
  have closed := part.closed value given
  rw [← List.append_nil value.toList] at closed
  exact Line.isPaired_left closed

theorem Part.dollar_not_mem (part : Part modifier) : '$' ∉ modifier.plainChars := by
  rw [Modifier.plainChars, List.mem_append, not_or]
  refine ⟨Modifier.not_mem_headChars part.known (by decide), ?_⟩
  rw [Modifier.valueChars]
  cases given : modifier.value with
  | none => exact List.not_mem_nil
  | some value => simpa using part.plain value given

theorem dollar_not_mem_optionChars (legible : filter.Legible) : '$' ∉ filter.optionChars := by
  intro member
  obtain ⟨piece, listed, inside⟩ :=
    Line.exists_mem_of_mem_joinCommas (by decide) (by decide) member
  obtain ⟨modifier, among, rfl⟩ := List.mem_map.mp listed
  exact (legible.parts modifier among).dollar_not_mem inside

theorem readFilter_chars (legible : filter.Legible) : readFilter filter.chars = .ok filter := by
  by_cases bare : filter.modifiers = []
  · obtain ⟨filled, plain⟩ := legible.bare bare
    refine readFilter_of_bare bare ?_ (Line.optionsCut?_eq_none plain) legible.unmarked
    rwa [Ne, String.toList_eq_nil_iff]
  · have known : ∀ modifier ∈ filter.modifiers, Modifier.isKnown modifier.name = true :=
      fun modifier member => (legible.parts modifier member).known
    refine readFilter_of_modifiers bare ?_ ?_ ?_ legible.unmarked
    · exact fun modifier member => (legible.parts modifier member).wellFormed
    · exact fun modifier member => (legible.parts modifier (List.mem_of_mem_dropLast member)).closed
    · exact Line.optionsCut?_append legible.unescaped legible.enclosed
        (beginsWith_optionChars bare known) legible.dollar_not_mem_optionChars

end Legible

/-- The text of a legible filter is read as the filter. -/
theorem ofString_text_eq_network {filter : Filter} (legible : filter.Legible)
    : Line.ofString filter.text = .network filter :=
  ofString_text_of_readFilter legible.trimmed
    (Line.isCosmetic_eq_false_iff.mpr legible.notCosmetic) legible.notComment
    (Line.readHosts?_eq_none_iff.mpr legible.notHosts) legible.readFilter_chars

/-- An exception whose pattern looks like a mark and has a dollar sign, and whose values have
commas and backslashes.
-/
def crowded : Filter :=
  { exception := true
    pattern := "@@|/a,b=c$d"
    modifiers :=
      [{ name := "domain", value := some "x.org|y.org" },
        { name := "csp", value := some "a\\\\,b\\c" },
        { name := "removeparam", value := some "" },
        { name := "third-party", negated := true }] }

theorem ofString_text_eq_network_of_crowded
    : crowded.Legible
      ∧ crowded.text
        = "@@@@|/a,b=c$d$domain=x.org|y.org,csp=a\\\\\\,b\\c,removeparam=,~third-party"
      ∧ Line.ofString crowded.text = .network crowded := by
  have checked : ∀ modifier ∈ crowded.modifiers, Modifier.isKnown modifier.name = true
      ∧ ∀ value ∈ modifier.value, trim value.toList = value.toList ∧ '$' ∉ value.toList
        ∧ isPaired false value.toList = true := by
    decide
  have legible : crowded.Legible :=
    { parts := fun modifier member =>
        Legible.Part.of_paired (checked modifier member).1 (checked modifier member).2
      unmarked := by
        intro plain
        cases plain
      unescaped := by decide
      enclosed := by
        intro slash
        cases slash
      bare := by
        intro bare
        cases bare
      trimmed := by decide
      notCosmetic := Line.isCosmetic_eq_false_iff.mp (by decide)
      notComment := by decide
      notHosts := Or.inl (by decide) }
  exact ⟨legible, by decide, ofString_text_eq_network legible⟩

end Blocklist.Filter
