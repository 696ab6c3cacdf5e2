import Blocklist.Proofs.Filter.Commas

/-! Modifiers and their texts. The text of a modifier is read back as that modifier, and what
is read from a piece keeps its value from there.
-/

namespace Blocklist

namespace Modifier

-----------------------------------------------------------------------------------------
-- Names
-----------------------------------------------------------------------------------------

/-- All names that mean something to the converter. -/
def knownNames : List String :=
  "domain" :: shorthands ++ aliases.map Prod.fst ++ ResourceType.all.map ResourceType.modifier
    ++ Feature.all.map Feature.name

/-- The characters of names. -/
def nameChars : List Char :=
  ['a', 'b', 'c', 'd', 'e', 'f', 'g', 'h', 'i', 'j', 'k', 'l', 'm', 'n', 'o', 'p', 'q', 'r', 's',
    't', 'u', 'v', 'w', 'x', 'y', 'z', '1', '3', '4', '-', '_']

theorem mem_knownNames {name : String} (known : isKnown name = true) : name ∈ knownNames := by
  simp only [isKnown, Bool.or_eq_true, List.contains_iff_mem, beq_iff_eq] at known
  cases found : aliases.lookup name with
  | some target =>
      obtain ⟨before, after, listed, -⟩ := List.lookup_eq_some_iff.mp found
      have aliased : name ∈ aliases.map Prod.fst := by simp [listed]
      simp [knownNames, aliased]
  | none =>
      have own : (resolve name).1 = name := by rw [resolve, found]; rfl
      rw [own] at known
      rcases known with ((short | domain) | type) | feature
      · simp [knownNames, short]
      · simp [knownNames, domain]
      · obtain ⟨type, listed, same⟩ := List.find?_isSome.mp type
        have member : name ∈ ResourceType.all.map ResourceType.modifier :=
          List.mem_map.mpr ⟨type, listed, by simpa using same⟩
        simp [knownNames, member]
      · obtain ⟨feature, listed, same⟩ := List.find?_isSome.mp feature
        have member : name ∈ Feature.all.map Feature.name :=
          List.mem_map.mpr ⟨feature, listed, by simpa using same⟩
        simp [knownNames, member]

theorem nameChars_of_mem_knownNames
    : ∀ name ∈ knownNames, name.toList ≠ [] ∧ ∀ c ∈ name.toList, c ∈ nameChars := by
  have all : knownNames.all (fun name =>
      !name.toList.isEmpty && name.toList.all nameChars.contains) = true := by
    decide +kernel
  intro name member
  have own := List.all_eq_true.mp all name member
  rw [Bool.and_eq_true, Bool.not_eq_true', List.isEmpty_eq_false_iff, List.all_eq_true] at own
  exact ⟨own.1, fun c inside => List.contains_iff_mem.mp (own.2 c inside)⟩

theorem lower_of_mem_nameChars : ∀ c ∈ nameChars, c.toLower = c := by
  have all : nameChars.all (fun c => c.toLower == c) = true := by decide
  exact fun c member => beq_iff_eq.mp (List.all_eq_true.mp all c member)

theorem not_blank_of_mem_nameChars : ∀ c ∈ '~' :: nameChars, Text.isBlank c = false := by
  have all : ('~' :: nameChars).all (!Text.isBlank ·) = true := by decide
  exact fun c member => (Bool.not_eq_true' _).mp (List.all_eq_true.mp all c member)

section

variable {name : String} (known : isKnown name = true)

include known

theorem mem_nameChars {c : Char} (member : c ∈ name.toList) : c ∈ nameChars :=
  (nameChars_of_mem_knownNames name (mem_knownNames known)).2 c member

theorem not_mem_name {c : Char} (other : c ∉ nameChars) : c ∉ name.toList :=
  fun member => other (mem_nameChars known member)

theorem exists_name_eq_cons : ∃ c rest, name.toList = c :: rest ∧ c ∈ nameChars := by
  obtain ⟨c, rest, chars⟩ :=
    List.exists_cons_of_ne_nil (nameChars_of_mem_knownNames name (mem_knownNames known)).1
  exact ⟨c, rest, chars, mem_nameChars known (by simp [chars])⟩

theorem asciiLower_name : Text.asciiLower name.toList = name.toList := by
  have lower (c : Char) (member : c ∈ name.toList) : c.toLower = id c :=
    lower_of_mem_nameChars c (mem_nameChars known member)
  rw [Text.asciiLower, List.map_congr_left lower, List.map_id]

theorem trim_name : Text.trim name.toList = name.toList := by
  refine Text.trim_eq_self_iff.mpr ⟨?_, ?_⟩
  · intro c first
    have listed := mem_nameChars known (List.mem_of_mem_head? first)
    exact not_blank_of_mem_nameChars c (List.mem_cons_of_mem _ listed)
  · intro c last
    have listed := mem_nameChars known (List.mem_of_getLast? last)
    exact not_blank_of_mem_nameChars c (List.mem_cons_of_mem _ listed)

end

-----------------------------------------------------------------------------------------
-- Texts
-----------------------------------------------------------------------------------------

/-- The sign and the name of a modifier. -/
def headChars (modifier : Modifier) : List Char :=
  (if modifier.negated then ['~'] else []) ++ modifier.name.toList

/-- The value of a modifier with the sign before it. -/
def valueChars (modifier : Modifier) : List Char :=
  match modifier.value with
  | some value => '=' :: value.toList
  | none => []

/-- The characters of a modifier before its commas are escaped. -/
def plainChars (modifier : Modifier) : List Char :=
  modifier.headChars ++ modifier.valueChars

/-- Modifiers as they can stand in a filter: the name is known, and the value has no blanks at
its ends and no escaped comma.
-/
structure WellFormed (modifier : Modifier) : Prop where
  known : isKnown modifier.name = true
  trimmed : ∀ value, modifier.value = some value → Text.trim value.toList = value.toList
  paired : ∀ value, modifier.value = some value → Line.isPaired true value.toList = true

theorem not_mem_headChars {modifier : Modifier} (known : isKnown modifier.name = true) {c : Char}
    (other : c ∉ '~' :: nameChars)
    : c ∉ modifier.headChars := by
  rw [List.mem_cons, not_or] at other
  intro member
  rcases List.mem_append.mp member with sign | name
  · split at sign
    · exact other.1 (List.mem_singleton.mp sign)
    · cases sign
  · exact not_mem_name known other.2 name

theorem chars_eq_escapeCommas {modifier : Modifier} (known : isKnown modifier.name = true)
    : modifier.chars = escapeCommas modifier.plainChars := by
  have head := Line.escapeCommas_eq_self (not_mem_headChars known (c := ',') (by decide))
  rw [plainChars, Line.escapeCommas_append, head, chars, headChars, valueChars]
  cases modifier.value with
  | none => rfl
  | some value => simp [Line.escapeCommas_cons_of_ne]

/-- A modifier begins with a character of its name or with its sign. -/
theorem exists_plainChars_eq_cons {modifier : Modifier} (known : isKnown modifier.name = true)
    : ∃ c rest, modifier.plainChars = c :: rest ∧ c ∈ '~' :: nameChars := by
  obtain ⟨c, rest, name, listed⟩ := exists_name_eq_cons known
  cases negated : modifier.negated with
  | false =>
      refine ⟨c, rest ++ modifier.valueChars, ?_, List.mem_cons_of_mem _ listed⟩
      simp [plainChars, headChars, negated, name]
  | true =>
      refine ⟨'~', modifier.name.toList ++ modifier.valueChars, ?_, List.mem_cons_self⟩
      simp [plainChars, headChars, negated]

theorem isPaired_plainChars {modifier : Modifier} (known : isKnown modifier.name = true)
    {loose : Bool}
    : Line.isPaired loose modifier.plainChars = true
      ↔ ∀ value, modifier.value = some value → Line.isPaired loose value.toList = true := by
  have head := Line.isPaired_of_plain (not_mem_headChars known (c := '\\') (by decide))
  rw [plainChars, Line.isPaired_append head, valueChars]
  cases modifier.value with
  | none => simp [Line.isPaired]
  | some value => simp [Line.isPaired_cons]

theorem trim_plainChars {modifier : Modifier} (formed : modifier.WellFormed)
    : Text.trim modifier.plainChars = modifier.plainChars := by
  refine Text.trim_eq_self_iff.mpr ⟨?_, ?_⟩
  · intro c first
    obtain ⟨start, rest, chars, listed⟩ := exists_plainChars_eq_cons formed.known
    rw [chars] at first
    obtain rfl := Option.some.inj first
    exact not_blank_of_mem_nameChars start listed
  · intro c last
    cases given : modifier.value with
    | none =>
        rw [plainChars, valueChars, given, List.append_nil] at last
        have member := List.mem_of_getLast? last
        by_contra blank
        refine not_mem_headChars formed.known ?_ member
        intro listed
        exact blank (not_blank_of_mem_nameChars c listed)
    | some value =>
        simp only [plainChars, valueChars, given, List.getLast?_append] at last
        have trimmed := (Text.trim_eq_self_iff.mp (formed.trimmed value given)).2 c
        cases chars : value.toList with
        | nil =>
            rw [chars] at last
            obtain rfl := Option.some.inj last
            rfl
        | cons d rest =>
            rw [chars] at last trimmed
            exact trimmed (by simpa using last)

end Modifier

namespace Line

/-- The text of a modifier is read back as the modifier. -/
theorem readModifier_plainChars {modifier : Modifier} (formed : modifier.WellFormed)
    : readModifier modifier.plainChars = .ok modifier := by
  have equals := Modifier.not_mem_name formed.known (c := '=') (by decide)
  have marked : Text.dropMark '~' modifier.plainChars
      = (modifier.negated, modifier.name.toList ++ modifier.valueChars) := by
    obtain ⟨c, rest, name, listed⟩ := Modifier.exists_name_eq_cons formed.known
    have other : c ≠ '~' := by
      rintro rfl
      exact absurd listed (by decide)
    cases negated : modifier.negated with
    | false => simp [Modifier.plainChars, Modifier.headChars, negated, name, Text.dropMark, other]
    | true => simp [Modifier.plainChars, Modifier.headChars, negated, Text.dropMark]
  obtain ⟨name, value, negated⟩ := modifier
  cases value with
  | none =>
      simp only [readModifier, marked, Modifier.valueChars, List.append_nil,
        Text.cutAt?_eq_none equals, Modifier.trim_name formed.known,
        Modifier.asciiLower_name formed.known, String.ofList_toList, formed.known, if_true,
        Option.map_none]
  | some value =>
      simp only [readModifier, marked, Modifier.valueChars, Text.cutAt?_append equals,
        Modifier.trim_name formed.known, Modifier.asciiLower_name formed.known,
        String.ofList_toList, formed.known, if_true, Option.map_some, formed.trimmed value rfl]

theorem backslash_not_mem_of_blank {blanks : List Char}
    (blank : ∀ c ∈ blanks, Text.isBlank c = true)
    : '\\' ∉ blanks := by
  intro member
  cases blank _ member

/-- Nothing but blanks can stand around a name that is read, in any case of its letters. -/
theorem backslash_not_mem_of_name {text : List Char}
    (known : Modifier.isKnown (String.ofList (Text.asciiLower (Text.trim text))) = true)
    : '\\' ∉ text := by
  obtain ⟨before, after, whole, blankBefore, blankAfter⟩ := Text.exists_trim text
  rw [whole, List.mem_append, List.mem_append, not_or, not_or]
  refine ⟨backslash_not_mem_of_blank blankBefore, ?_, backslash_not_mem_of_blank blankAfter⟩
  intro member
  have lowered : '\\' ∈ Text.asciiLower (Text.trim text) :=
    List.mem_map.mpr ⟨'\\', member, rfl⟩
  refine Modifier.not_mem_name known (c := '\\') (by decide) ?_
  rwa [String.toList_ofList]

/-- What is read from the trimmed text of a piece. The value stands in the piece, after
characters that are no backslashes and before blanks.
-/
theorem readModifier_eq_ok {piece : List Char} {modifier : Modifier}
    (read : readModifier (Text.trim piece) = .ok modifier)
    : Modifier.isKnown modifier.name = true
      ∧ ∀ value, modifier.value = some value
        → Text.trim value.toList = value.toList
          ∧ ∃ before after, piece = before ++ (value.toList ++ after) ∧ '\\' ∉ before
            ∧ ∀ c ∈ after, Text.isBlank c = true := by
  obtain ⟨front, back, whole, blankFront, blankBack⟩ := Text.exists_trim piece
  cases marked : Text.dropMark '~' (Text.trim piece) with
  | mk negated body =>
      have signed := Text.dropMark_eq marked
      cases cut : Text.cutAt? '=' body with
      | none =>
          simp only [readModifier, marked, cut, Option.map_none] at read
          split at read
          · rename_i known
            obtain rfl := Except.ok.inj read
            refine ⟨known, ?_⟩
            intro value none
            cases none
          · cases read
      | some sides =>
          obtain ⟨left, right⟩ := sides
          have named := Text.cutAt?_eq_some cut
          obtain ⟨before, after, valued, blankBefore, blankAfter⟩ := Text.exists_trim right
          simp only [readModifier, marked, cut, Option.map_some] at read
          split at read
          · rename_i known
            obtain rfl := Except.ok.inj read
            refine ⟨known, ?_⟩
            intro value given
            obtain rfl := Option.some.inj given
            rw [String.toList_ofList]
            refine ⟨Text.trim_trim right,
              front ++ ((if negated then ['~'] else []) ++ (left ++ '=' :: before)), after ++ back,
              ?_, ?_, ?_⟩
            · nth_rewrite 1 [whole, signed, named, valued]
              simp only [List.append_assoc, List.cons_append]
            · simp only [List.mem_append, List.mem_cons, not_or]
              refine ⟨backslash_not_mem_of_blank blankFront, ?_, backslash_not_mem_of_name known,
                by decide, backslash_not_mem_of_blank blankBefore⟩
              cases negated <;> decide
            · intro c member
              rcases List.mem_append.mp member with inner | outer
              · exact blankAfter c inner
              · exact blankBack c outer
          · cases read

-----------------------------------------------------------------------------------------
-- Lists of modifiers
-----------------------------------------------------------------------------------------

/-- A list is read when every text in it is. -/
theorem mapM_eq_ok_iff {α β ε : Type} {read : α → Except ε β} {texts : List α}
    {values : List β}
    : texts.mapM read = .ok values ↔ texts.map read = values.map .ok := by
  induction texts generalizing values with
  | nil => cases values <;> simp [pure, Except.pure]
  | cons text texts ih =>
      rw [List.mapM_cons, List.map_cons]
      cases own : read text with
      | error fault => cases values <;> simp [bind, Except.bind]
      | ok value =>
          cases values with
          | nil => cases later : texts.mapM read <;> simp [bind, Except.bind, pure, Except.pure]
          | cons first values =>
              rw [List.map_cons, List.cons.injEq, ← ih]
              cases later : texts.mapM read <;> simp [bind, Except.bind, pure, Except.pure]

/-- Modifiers are read from pieces between commas. -/
theorem exists_piece_of_readModifiers {text : List Char} {modifiers : List Modifier}
    (read : readModifiers text = .ok modifiers) {modifier : Modifier}
    (member : modifier ∈ modifiers)
    : ∃ piece ∈ splitCommas text, readModifier (Text.trim piece) = .ok modifier := by
  have listed : (.ok modifier : Except LineFault Modifier) ∈ modifiers.map .ok :=
    List.mem_map_of_mem member
  rw [← mapM_eq_ok_iff.mp read] at listed
  obtain ⟨trimmed, among, own⟩ := List.mem_map.mp listed
  obtain ⟨piece, found, rfl⟩ := List.mem_map.mp (List.mem_of_mem_filter among)
  exact ⟨piece, found, own⟩

/-- Each piece gives one modifier at most. -/
theorem length_le_of_readModifiers {text : List Char} {modifiers : List Modifier}
    (read : readModifiers text = .ok modifiers)
    : modifiers.length ≤ (splitCommas text).length := by
  have counted := congrArg List.length (mapM_eq_ok_iff.mp read)
  rw [List.length_map, List.length_map] at counted
  have pieces : ((splitCommas text).map Text.trim).length = (splitCommas text).length :=
    List.length_map _
  rw [← counted, ← pieces]
  exact List.length_filter_le _ _

theorem wellFormed_of_readModifiers {text : List Char} {modifiers : List Modifier}
    (read : readModifiers text = .ok modifiers)
    : ∀ modifier ∈ modifiers, modifier.WellFormed := by
  intro modifier member
  obtain ⟨piece, listed, own⟩ := exists_piece_of_readModifiers read member
  obtain ⟨known, values⟩ := readModifier_eq_ok own
  refine ⟨known, fun value given => (values value given).1, ?_⟩
  intro value given
  obtain ⟨-, before, after, whole, plain, -⟩ := values value given
  have paired := splitCommas_paired text piece listed
  rw [whole, isPaired_append (isPaired_of_plain plain)] at paired
  exact isPaired_left paired

/-- Modifiers with commas between them are read back, if no value swallows a comma. -/
theorem readModifiers_joinCommas {modifiers : List Modifier} (filled : modifiers ≠ [])
    (formed : ∀ modifier ∈ modifiers, modifier.WellFormed)
    (closed : ∀ modifier ∈ modifiers.dropLast, ∀ value, modifier.value = some value
      → isPaired false value.toList = true)
    : readModifiers (joinCommas (modifiers.map Modifier.plainChars)) = .ok modifiers := by
  have split : splitCommas (joinCommas (modifiers.map Modifier.plainChars))
      = modifiers.map Modifier.plainChars := by
    obtain ⟨modifier, rest, rfl⟩ := List.exists_cons_of_ne_nil filled
    refine splitCommas_joinCommas ?_ ?_
    · rw [← List.map_cons, ← List.map_dropLast, List.forall_mem_map]
      intro other member
      have known := (formed other (List.mem_of_mem_dropLast member)).known
      exact (Modifier.isPaired_plainChars known).mpr (closed other member)
    · rw [← List.map_cons, List.forall_mem_map]
      intro other member
      exact (Modifier.isPaired_plainChars (formed other member).known).mpr
        (formed other member).paired
  have trimmed : (modifiers.map Modifier.plainChars).map Text.trim
      = modifiers.map Modifier.plainChars := by
    rw [List.map_map]
    exact List.map_congr_left fun other member => Modifier.trim_plainChars (formed other member)
  have nonempty : (modifiers.map Modifier.plainChars).filter (!·.isEmpty)
      = modifiers.map Modifier.plainChars := by
    rw [List.filter_eq_self, List.forall_mem_map]
    intro other member
    obtain ⟨c, rest, chars, -⟩ := Modifier.exists_plainChars_eq_cons (formed other member).known
    rw [chars]
    rfl
  rw [readModifiers, split, trimmed, nonempty, mapM_eq_ok_iff, List.map_map]
  refine List.map_congr_left ?_
  intro other member
  rw [Function.comp_apply]
  exact readModifier_plainChars (formed other member)

/-- If they are read back, no value swallows a comma. -/
theorem closed_of_readModifiers {modifiers : List Modifier}
    (formed : ∀ modifier ∈ modifiers, modifier.WellFormed)
    (read : readModifiers (joinCommas (modifiers.map Modifier.plainChars)) = .ok modifiers)
    : ∀ modifier ∈ modifiers.dropLast, ∀ value, modifier.value = some value
        → isPaired false value.toList = true := by
  intro modifier member
  obtain ⟨first, rest, rfl⟩ :=
    List.exists_cons_of_ne_nil (List.ne_nil_of_mem (List.mem_of_mem_dropLast member))
  have paired
      : ∀ piece ∈ (first :: rest).map Modifier.plainChars, isPaired true piece = true := by
    rw [List.forall_mem_map]
    intro other listed
    exact (Modifier.isPaired_plainChars (formed other listed).known).mpr
      (formed other listed).paired
  have counted := length_splitCommas_joinCommas paired
  have enough := length_le_of_readModifiers read
  rw [← List.map_cons, List.length_map, ← List.map_dropLast] at counted
  have none : ((first :: rest).dropLast.map Modifier.plainChars).countP (!isPaired false ·)
      = 0 := by
    omega
  rw [List.countP_eq_zero, List.forall_mem_map] at none
  have known := (formed modifier (List.mem_of_mem_dropLast member)).known
  exact (Modifier.isPaired_plainChars known).mp (by simpa using none modifier member)

end Line

end Blocklist
