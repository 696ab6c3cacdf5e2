import Blocklist.Proofs.Filter.CanonicalText

/-! Filters that were read from a line, read again from their canonical text. The theory says
exactly when the text gives the same filter, and shows lines where it does not.
-/

namespace Blocklist.Filter

open Line (EvenRuns Follows optionsCut? readFilter readHosts?)
open Text (endsWith isBlank trim)

/-- What it takes for a filter that was read to be read again from its text. The text must not
have become a comment. A pattern without modifiers must not end with a blank, and must not be cut
for want of the dollar sign that its line had. No value may end with a backslash that escapes the
comma after it.
-/
structure Rereadable (filter : Filter) : Prop where
  notComment : Line.isComment filter.chars = false
  bare : filter.modifiers = []
    → (∀ c, filter.pattern.toList.getLast? = some c → isBlank c = false)
      ∧ optionsCut? filter.pattern.toList = none
  closed : ∀ modifier ∈ filter.modifiers.dropLast, ∀ value, modifier.value = some value
    → EvenRuns (· = []) value.toList

-----------------------------------------------------------------------------------------
-- Entries of hosts files
-----------------------------------------------------------------------------------------

section

variable {domain : List Char} (plain : Line.IsDomain domain)

theorem chars_ofDomain (domain : List Char)
    : (ofDomain domain).chars = '|' :: '|' :: (domain ++ ['^']) := by
  rw [chars_of_bare rfl, ofDomain, String.toList_ofList]
  rfl

include plain

theorem signs_not_mem_ofDomain {c : Char} (sign : c ∈ Line.signs)
    : c ∉ (ofDomain domain).chars := by
  have all : Line.signs.all (fun c =>
      c ≠ '|' ∧ c ≠ '^' ∧ (c.isAlphanum || c == '.' || c == '-') = false) = true := by
    decide
  obtain ⟨bar, caret, apart⟩ := of_decide_eq_true (List.all_eq_true.mp all c sign)
  have outside : c ∉ domain := by
    intro member
    rw [plain c member] at apart
    cases apart
  rw [chars_ofDomain]
  simp [bar, caret, outside]

theorem optionsCut?_ofDomain : optionsCut? (ofDomain domain).pattern.toList = none := by
  have absent : '$' ∉ (ofDomain domain).chars := signs_not_mem_ofDomain plain (by decide)
  rw [chars_of_bare rfl] at absent
  exact Line.optionsCut?_eq_none absent

theorem rereadable_ofDomain : (ofDomain domain).Rereadable := by
  refine ⟨?_, fun _ => ⟨?_, optionsCut?_ofDomain plain⟩, ?_⟩
  · rw [chars_ofDomain]
    rfl
  · intro c last
    rw [ofDomain, String.toList_ofList, List.getLast?_append] at last
    obtain rfl := Option.some.inj last
    rfl
  · intro modifier member
    cases member

theorem ofString_text_ofDomain
    : Line.ofString (ofDomain domain).text = .network (ofDomain domain) := by
  have bar : isBlank '|' = false := rfl
  apply ofString_text_of_readFilter
  · rw [chars_ofDomain, Text.trim_eq_self_iff]
    refine ⟨?_, ?_⟩
    · intro c first
      obtain rfl := Option.some.inj first
      exact bar
    · intro c last
      rw [← List.cons_append, ← List.cons_append, List.getLast?_append] at last
      obtain rfl := Option.some.inj last
      rfl
  · refine Line.isCosmetic_eq_false_iff.mpr ?_
    intro mark listed found
    have isRun := Line.IsRun.of_cosmeticMark listed
    obtain ⟨c, rest, rfl⟩ := List.exists_cons_of_ne_nil isRun.filled
    exact signs_not_mem_ofDomain plain (isRun.signed c List.mem_cons_self)
      (found.subset List.mem_cons_self)
  · exact (rereadable_ofDomain plain).notComment
  · refine Line.readHosts?_eq_none_iff.mpr (Or.inr (Bool.eq_false_iff.mpr ?_))
    intro address
    have member : '|' ∈ (Text.nextWord (ofDomain domain).chars).1 := by
      rw [chars_ofDomain, Text.nextWord_eq]
      simp [bar]
    cases Host.Address.isAddressChar_of_isAddress address '|' member
  · refine readFilter_of_bare rfl ?_ (optionsCut?_ofDomain plain) ?_
    · simp [ofDomain]
    · simp [ofDomain]

end

-----------------------------------------------------------------------------------------
-- Filters that are read again
-----------------------------------------------------------------------------------------

section

variable {filter : Filter}

theorem ofString_text_cases (again : Line.ofString filter.text = .network filter)
    : Line.isComment (trim filter.chars) = false
      ∧ (filter.Rereadable ∨ readFilter (trim filter.chars) = .ok filter) := by
  rw [Line.ofString, text, String.toList_ofList, Line.ofChars_eq_network_iff] at again
  obtain ⟨-, -, notComment, hosts | ⟨-, read⟩⟩ := again
  · obtain ⟨domain, plain, rfl⟩ := Line.readHosts?_eq_network hosts
    exact ⟨notComment, Or.inl (rereadable_ofDomain plain)⟩
  · exact ⟨notComment, Or.inr read⟩

theorem rereadable_of_bare (bare : filter.modifiers = [])
    (again : Line.ofString filter.text = .network filter)
    : filter.Rereadable := by
  obtain ⟨notComment, rereadable | read⟩ := ofString_text_cases again
  · exact rereadable
  · obtain ⟨body, whole, -, parts⟩ := Line.readFilter_eq_ok_iff.mp read
    obtain ⟨-, -, ⟨none, rfl, -⟩ | ⟨options, cut, -⟩⟩ := Line.readBody_eq_ok_iff.mp parts
    · have trimmed : trim filter.chars = filter.chars := by rw [whole, chars_of_bare bare]
      rw [trimmed] at notComment
      refine ⟨notComment, fun _ => ⟨?_, none⟩, by simp [bare]⟩
      intro c last
      refine (Text.trim_eq_self_iff.mp trimmed).2 c ?_
      rw [chars_of_bare bare, List.getLast?_append, last]
      rfl
    · -- A pattern that is cut off would be shorter than itself.
      have short := Text.length_trim_le filter.chars
      rw [whole, Line.optionsCut?_whole cut, chars_of_bare bare] at short
      simp only [List.length_append, List.length_cons] at short
      omega

theorem rereadable_of_modifiers (filled : filter.modifiers ≠ [])
    (formed : ∀ modifier ∈ filter.modifiers, modifier.WellFormed)
    (trimmed : trim filter.chars = filter.chars)
    (again : Line.ofString filter.text = .network filter)
    : filter.Rereadable := by
  obtain ⟨notComment, rereadable | read⟩ := ofString_text_cases again
  · exact rereadable
  · rw [trimmed] at notComment read
    refine ⟨notComment, fun bare => absurd bare filled, ?_⟩
    have known : ∀ modifier ∈ filter.modifiers, Modifier.isKnown modifier.name = true :=
      fun modifier member => (formed modifier member).known
    obtain ⟨body, whole, -, parts⟩ := Line.readFilter_eq_ok_iff.mp read
    rw [chars_of_modifiers filled known] at whole
    obtain rfl := List.append_cancel_left whole
    obtain ⟨-, -, ⟨-, -, bare⟩ | ⟨options, cut, listed⟩⟩ := Line.readBody_eq_ok_iff.mp parts
    · exact absurd bare filled
    · have same := List.append_cancel_left (Line.optionsCut?_whole cut)
      obtain ⟨-, rfl⟩ := List.cons.inj same
      intro modifier member value given
      have closed := Line.closed_of_readModifiers formed listed modifier member value given
      have paired := (formed modifier (List.mem_of_mem_dropLast member)).paired value given
      exact (Line.isPaired_iff_evenRuns_end paired).mp closed

end

-----------------------------------------------------------------------------------------
-- Lines and the texts of their filters
-----------------------------------------------------------------------------------------

/-- A line that spells a filter by its pattern and modifiers. -/
structure Spells (line : List Char) (filter : Filter) : Prop where
  trimmed : trim line = line
  notCosmetic : Line.isCosmetic line = false
  notHosts : readHosts? line = none
  read : readFilter line = .ok filter

namespace Spells

variable {line : List Char} {filter : Filter} (spells : Spells line filter)

include spells

/-- The line is the text itself, or goes on with a dollar sign after the pattern. -/
theorem line_cases
    : (filter.modifiers = [] ∧ line = filter.chars)
      ∨ ∃ options, line = (filter.markChars ++ filter.pattern.toList) ++ '$' :: options
        ∧ optionsCut? (filter.pattern.toList ++ '$' :: options)
          = some (filter.pattern.toList, options)
        ∧ Line.readModifiers options = .ok filter.modifiers := by
  obtain ⟨body, whole, -, read⟩ := Line.readFilter_eq_ok_iff.mp spells.read
  obtain ⟨-, -, ⟨-, same, bare⟩ | ⟨options, cut, listed⟩⟩ := Line.readBody_eq_ok_iff.mp read
  · exact Or.inl ⟨bare, by rw [whole, same, chars_of_bare bare]⟩
  · have split := Line.optionsCut?_whole cut
    exact Or.inr ⟨options, by rw [whole, split, List.append_assoc], split ▸ cut, listed⟩

theorem filled : filter.pattern.toList ≠ [] ∨ filter.modifiers ≠ [] := by
  obtain ⟨body, -, -, read⟩ := Line.readFilter_eq_ok_iff.mp spells.read
  exact (Line.readBody_eq_ok_iff.mp read).2.1

theorem unmarked (plain : filter.exception = false) : ¬['@', '@'] <+: filter.pattern.toList := by
  obtain ⟨-, -, unmarked, -⟩ := Line.readFilter_eq_ok_iff.mp spells.read
  have start : filter.pattern.toList <+: line := by
    rcases spells.line_cases with ⟨bare, same⟩ | ⟨options, same, -⟩
    · rw [same, chars_of_bare bare, markChars, plain]
      exact List.prefix_rfl
    · rw [same, markChars, plain]
      exact List.prefix_append _ _
  exact fun marked => unmarked plain (marked.trans start)

theorem first_not_blank : ∀ c, line.head? = some c → isBlank c = false :=
  (Text.trim_eq_self_iff.mp spells.trimmed).1

theorem not_infix {mark : List Char} (listed : mark ∈ Line.cosmeticMarks) : ¬mark <:+: line :=
  Line.isCosmetic_eq_false_iff.mp spells.notCosmetic mark listed

/-- Without modifiers, the text begins the line. -/
theorem ofString_text_of_bare (bare : filter.modifiers = []) (rereadable : filter.Rereadable)
    : Line.ofString filter.text = .network filter := by
  obtain ⟨last, whole⟩ := rereadable.bare bare
  have filled : filter.pattern.toList ≠ [] := spells.filled.resolve_right (fun some => some bare)
  have start : filter.chars <+: line := by
    rcases spells.line_cases with ⟨-, same⟩ | ⟨options, same, -⟩
    · rw [same]
    · rw [same, chars_of_bare bare]
      exact List.prefix_append _ _
  have first : ∀ c, filter.chars.head? = some c → isBlank c = false := by
    obtain ⟨rest, same⟩ := start
    intro c head
    refine spells.first_not_blank c ?_
    rw [← same, List.head?_append, head]
    rfl
  apply ofString_text_of_readFilter
  · refine Text.trim_eq_self_iff.mpr ⟨first, ?_⟩
    intro c ending
    rw [chars_of_bare bare, List.getLast?_append_of_ne_nil _ filled] at ending
    exact last c ending
  · refine Line.isCosmetic_eq_false_iff.mpr ?_
    intro mark listed found
    exact spells.not_infix listed (found.trans start.isInfix)
  · exact rereadable.notComment
  · rcases spells.line_cases with ⟨-, same⟩ | ⟨options, same, -⟩
    · rw [← same]
      exact spells.notHosts
    · have past := spells.notHosts
      rw [same, ← chars_of_bare bare] at past
      exact Line.readHosts?_of_front past first (Or.inl rfl)
  · exact readFilter_of_bare bare filled whole spells.unmarked

section

variable (filled : filter.modifiers ≠ [])

include filled

/-- With modifiers, the line and the text are the same up to the dollar sign. -/
theorem exists_options
    : ∃ options, line = (filter.markChars ++ filter.pattern.toList) ++ '$' :: options
      ∧ filter.chars = (filter.markChars ++ filter.pattern.toList) ++ '$' :: filter.optionChars
      ∧ optionsCut? (filter.pattern.toList ++ '$' :: options)
        = some (filter.pattern.toList, options)
      ∧ (∀ modifier ∈ filter.modifiers, modifier.WellFormed)
      ∧ Follows filter.optionChars options := by
  rcases spells.line_cases with ⟨bare, -⟩ | ⟨options, same, cut, listed⟩
  · exact absurd bare filled
  · have formed := Line.wellFormed_of_readModifiers listed
    refine ⟨options, same, ?_, cut, formed, Line.follows_of_readModifiers listed⟩
    rw [chars_of_modifiers filled fun modifier member => (formed modifier member).known,
      List.append_assoc]

theorem first_not_blank_of_modifiers : ∀ c, filter.chars.head? = some c → isBlank c = false := by
  obtain ⟨options, same, chars, -⟩ := spells.exists_options filled
  have first := spells.first_not_blank
  rw [same] at first
  rw [chars]
  cases start : filter.markChars ++ filter.pattern.toList with
  | nil =>
      intro c head
      obtain rfl := Option.some.inj head
      rfl
  | cons d rest =>
      rw [start] at first
      exact first

theorem trim_chars : trim filter.chars = filter.chars := by
  obtain ⟨-, -, chars, -, formed, -⟩ := spells.exists_options filled
  refine Text.trim_eq_self_iff.mpr ⟨spells.first_not_blank_of_modifiers filled, ?_⟩
  intro c last
  by_contra blank
  rw [Bool.not_eq_false] at blank
  have dollar : '$' ≠ c := by
    rintro rfl
    cases blank
  have comma : c ≠ ',' := by
    rintro rfl
    cases blank
  have kept : endsWith c filter.optionChars = false := by
    apply Line.endsWith_joinCommas comma
    rw [List.forall_mem_map]
    intro modifier member
    have trimmed := Text.trim_eq_self_iff.mp (Modifier.trim_plainChars (formed modifier member))
    rw [Bool.eq_false_iff, Ne, Text.endsWith_iff]
    intro ending
    rw [trimmed.2 c ending] at blank
    cases blank
  rw [← Text.endsWith_iff, chars, Text.endsWith_append_cons, Text.endsWith_cons_of_ne dollar,
    kept] at last
  cases last

/-- No mark of a cosmetic line comes up in the text. -/
theorem isCosmetic_chars : Line.isCosmetic filter.chars = false := by
  obtain ⟨options, same, chars, -, formed, follows⟩ := spells.exists_options filled
  obtain ⟨c, rest, opens, named⟩ :=
    exists_optionChars_eq_cons filled fun modifier member => (formed modifier member).known
  have other : c ∉ Line.signs := fun sign => Line.signs_not_mem_nameChars c sign named
  refine Line.isCosmetic_eq_false_iff.mpr ?_
  intro mark listed found
  have isRun := Line.IsRun.of_cosmeticMark listed
  obtain ⟨before, after, whole⟩ := found
  have split : ((filter.markChars ++ filter.pattern.toList) ++ ['$']) ++ c :: rest
      = before ++ (mark ++ after) := by
    rw [← List.append_assoc before, whole, chars, opens]
    exact (List.append_cons _ _ _).symm
  -- A mark cannot hold the first character of the modifiers, so it stands before or after it.
  refine spells.not_infix listed ?_
  rcases Line.run_cases other isRun split with ⟨back, early, -⟩ | ⟨back, -, late⟩
  · rw [same, List.append_cons, early]
    exact ⟨before, back ++ options, by simp only [List.append_assoc]⟩
  · obtain ⟨front, back', past, -⟩ :=
      follows mark isRun (c :: back) after (by rw [opens, late, List.cons_append])
    rw [same, past]
    exact ⟨(filter.markChars ++ filter.pattern.toList) ++ '$' :: front, back',
      by simp only [List.append_assoc, List.cons_append]⟩

theorem ofString_text_of_modifiers (rereadable : filter.Rereadable)
    : Line.ofString filter.text = .network filter := by
  obtain ⟨options, same, chars, cut, formed, follows⟩ := spells.exists_options filled
  apply ofString_text_of_readFilter (spells.trim_chars filled) (spells.isCosmetic_chars filled)
    rereadable.notComment
  · have past := spells.notHosts
    rw [same] at past
    exact Line.readHosts?_of_front past (spells.first_not_blank_of_modifiers filled)
      (Or.inr ⟨filter.optionChars, chars⟩)
  · refine readFilter_of_modifiers filled formed ?_ ?_ spells.unmarked
    · intro modifier member value given
      have paired := (formed modifier (List.mem_of_mem_dropLast member)).paired value given
      exact (Line.isPaired_iff_evenRuns_end paired).mpr
        (rereadable.closed modifier member value given)
    · refine Line.optionsCut?_anew cut ?_ follows
      exact beginsWith_optionChars filled fun modifier member => (formed modifier member).known

end

end Spells

/-- A filter that was read from a line is read again from its text when it is rereadable. -/
theorem ofString_text_eq_network_iff {line : String} {filter : Filter}
    (read : Line.ofString line = .network filter)
    : Line.ofString filter.text = .network filter ↔ filter.Rereadable := by
  obtain ⟨-, notCosmetic, -, hosts | ⟨notHosts, parts⟩⟩ := Line.ofChars_eq_network_iff.mp read
  · obtain ⟨domain, plain, rfl⟩ := Line.readHosts?_eq_network hosts
    exact iff_of_true (ofString_text_ofDomain plain) (rereadable_ofDomain plain)
  · have spells : Spells (trim line.toList) filter :=
      ⟨Text.trim_trim line.toList, notCosmetic, notHosts, parts⟩
    by_cases bare : filter.modifiers = []
    · exact ⟨rereadable_of_bare bare, spells.ofString_text_of_bare bare⟩
    · obtain ⟨-, -, -, -, formed, -⟩ := spells.exists_options bare
      exact ⟨rereadable_of_modifiers bare formed (spells.trim_chars bare),
        spells.ofString_text_of_modifiers bare⟩

/-- An exception with a value that holds a comma. -/
def spaced : Filter :=
  { exception := true
    pattern := "|/a$b"
    modifiers :=
      [{ name := "csp", value := some "x, y\\\\" }, { name := "script", negated := true }] }

/-- A line with blanks, an empty place and capitals, whose text is read again: the backslash at
the end of its first value has a partner.
-/
theorem ofString_text_eq_network_of_spaced_line
    : Line.ofString " @@|/a$b$ CSP = x\\, y\\\\ ,, ~Script " = .network spaced
      ∧ spaced.text = "@@|/a$b$csp=x\\, y\\\\,~script"
      ∧ Line.ofString spaced.text = .network spaced := by
  have read : Line.ofString " @@|/a$b$ CSP = x\\, y\\\\ ,, ~Script " = .network spaced := by
    decide +kernel
  refine ⟨read, by decide +kernel, (ofString_text_eq_network_iff read).mpr ⟨?_, ?_, ?_⟩⟩
  · decide +kernel
  · intro bare
    cases bare
  · intro modifier member value given
    obtain rfl := List.mem_singleton.mp member
    obtain rfl := Option.some.inj given
    exact (Line.isPaired_iff_evenRuns_end (by decide)).mp (by decide)

/-- The pattern of a line whose lone dollar sign at the end says nothing. -/
def dollared : Filter :=
  { exception := false, pattern := "||a$b", modifiers := [] }

/-- A filter with a value that ends with a backslash. -/
def escaping : Filter :=
  { exception := false
    pattern := "||a^"
    modifiers := [{ name := "csp", value := some "a\\" }, { name := "script" }] }

/-- Two lines whose texts say something else: without the dollar sign at its end the first one is
cut in its pattern, and in the second one the backslash swallows a comma that a blank kept apart.
-/
theorem ofString_text_ne_network_of_lost_characters
    : Line.ofString "||a$b$" = .network dollared
      ∧ Line.ofString dollared.text = .invalid (.unknownModifier "b")
      ∧ Line.ofString "||a^$csp=a\\ ,script" = .network escaping
      ∧ Line.ofString escaping.text
        = .network { escaping with modifiers := [{ name := "csp", value := some "a,script" }] }
      ∧ ¬∀ (line : String) (filter : Filter),
        Line.ofString line = .network filter → Line.ofString filter.text = .network filter := by
  have read : Line.ofString "||a$b$" = .network dollared := by decide +kernel
  have again : Line.ofString dollared.text = .invalid (.unknownModifier "b") := by decide +kernel
  refine ⟨read, again, by decide +kernel, by decide +kernel, ?_⟩
  intro fixed
  have same := fixed "||a$b$" dollared read
  rw [again] at same
  cases same

end Blocklist.Filter
