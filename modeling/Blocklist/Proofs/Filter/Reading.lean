import Blocklist.Proofs.Filter.OptionsCut
import Blocklist.Proofs.Host.Address

/-! When a line gives a network filter: as an entry of a hosts file, or from its exception mark,
its pattern and its modifiers.
-/

namespace Blocklist

/-- The mark of an exception. -/
def Filter.markChars (filter : Filter) : List Char :=
  if filter.exception then ['@', '@'] else []

/-- The filter that blocks a domain. -/
def Filter.ofDomain (domain : List Char) : Filter :=
  { exception := false, pattern := String.ofList (['|', '|'] ++ domain ++ ['^']), modifiers := [] }

namespace Line

open Host.Address (isAddress)
open Text (isBlank nextWord trim)

-----------------------------------------------------------------------------------------
-- Filters
-----------------------------------------------------------------------------------------

/-- Reads a filter after its exception mark. -/
def readBody (exception : Bool) (body : List Char) : Except LineFault Filter := do
  let (pattern, options?) := splitOptions body
  let modifiers ←
    match options? with
    | some options => readModifiers options
    | none => pure []
  if pattern.isEmpty && modifiers.isEmpty then throw .emptyRule
  return { exception, pattern := String.ofList pattern, modifiers }

theorem readFilter_exception (body : List Char)
    : readFilter (['@', '@'] ++ body) = readBody true body := rfl

theorem readFilter_plain {line : List Char} (plain : ¬['@', '@'] <+: line)
    : readFilter line = readBody false line := by
  have none : Text.after? ['@', '@'] line = none := by
    rw [Option.eq_none_iff_forall_ne_some]
    intro rest found
    exact plain ⟨rest, (Text.after?_eq_some.mp found).symm⟩
  rw [readFilter, none]
  rfl

/-- A filter of a pattern and modifiers, if there are any. -/
def assemble (exception : Bool) (pattern : List Char) (modifiers : List Modifier)
    : Except LineFault Filter :=
  if pattern.isEmpty && modifiers.isEmpty then .error .emptyRule
  else .ok { exception, pattern := String.ofList pattern, modifiers }

theorem assemble_eq_ok_iff {exception : Bool} {pattern : List Char} {modifiers : List Modifier}
    {filter : Filter}
    : assemble exception pattern modifiers = .ok filter
      ↔ (pattern ≠ [] ∨ modifiers ≠ [])
        ∧ filter = { exception, pattern := String.ofList pattern, modifiers } := by
  rw [assemble]
  split
  · rename_i none
    rw [Bool.and_eq_true, List.isEmpty_iff, List.isEmpty_iff] at none
    simp [none]
  · rename_i some
    rw [Bool.and_eq_true, List.isEmpty_iff, List.isEmpty_iff, not_and_or] at some
    simp [some, eq_comm]

theorem readBody_of_cut {body pattern options : List Char}
    (cut : optionsCut? body = some (pattern, options)) (exception : Bool)
    : readBody exception body = readModifiers options >>= assemble exception pattern := by
  simp only [readBody, splitOptions, cut]
  rfl

theorem readBody_of_no_cut {body : List Char} (none : optionsCut? body = none) (exception : Bool)
    : readBody exception body = assemble exception body [] := by
  simp only [readBody, splitOptions, none, pure_bind]
  rw [assemble]
  split <;> rfl

/-- A filter from a text without modifiers, or with a cut between the two. -/
theorem readBody_eq_ok_iff {exception : Bool} {body : List Char} {filter : Filter}
    : readBody exception body = .ok filter
      ↔ filter.exception = exception
        ∧ (filter.pattern.toList ≠ [] ∨ filter.modifiers ≠ [])
        ∧ (optionsCut? body = none ∧ body = filter.pattern.toList ∧ filter.modifiers = []
          ∨ ∃ options, optionsCut? body = some (filter.pattern.toList, options)
            ∧ readModifiers options = .ok filter.modifiers) := by
  obtain ⟨excepted, pattern, modifiers⟩ := filter
  cases cut : optionsCut? body with
  | none =>
      rw [readBody_of_no_cut cut, assemble_eq_ok_iff, Filter.mk.injEq]
      constructor
      · rintro ⟨filled, rfl, rfl, rfl⟩
        rw [String.toList_ofList]
        exact ⟨rfl, filled, Or.inl ⟨rfl, rfl, rfl⟩⟩
      · rintro ⟨rfl, filled, ⟨-, rfl, rfl⟩ | ⟨options, other, -⟩⟩
        · exact ⟨filled, rfl, String.ofList_toList.symm, rfl⟩
        · cases other
  | some sides =>
      obtain ⟨left, options⟩ := sides
      rw [readBody_of_cut cut]
      constructor
      · intro read
        cases listed : readModifiers options with
        | error fault =>
            rw [listed] at read
            cases read
        | ok found =>
            rw [listed] at read
            obtain ⟨filled, same⟩ := assemble_eq_ok_iff.mp read
            obtain ⟨rfl, rfl, rfl⟩ := Filter.mk.inj same
            rw [String.toList_ofList]
            exact ⟨rfl, filled, Or.inr ⟨options, rfl, listed⟩⟩
      · rintro ⟨rfl, filled, ⟨other, -⟩ | ⟨written, same, listed⟩⟩
        · cases other
        · obtain ⟨rfl, rfl⟩ := Prod.mk.inj (Option.some.inj same)
          rw [listed]
          exact assemble_eq_ok_iff.mpr ⟨filled, by rw [String.ofList_toList]⟩

theorem readFilter_eq_ok_iff {line : List Char} {filter : Filter}
    : readFilter line = .ok filter
      ↔ ∃ body, line = filter.markChars ++ body
        ∧ (filter.exception = false → ¬['@', '@'] <+: line)
        ∧ readBody filter.exception body = .ok filter := by
  by_cases marked : ['@', '@'] <+: line
  · obtain ⟨body, rfl⟩ := marked
    rw [readFilter_exception]
    constructor
    · intro read
      have excepted := (readBody_eq_ok_iff.mp read).1
      refine ⟨body, by rw [Filter.markChars, excepted]; rfl, ?_, by rw [excepted]; exact read⟩
      intro plain
      rw [excepted] at plain
      cases plain
    · rintro ⟨written, same, unmarked, read⟩
      cases excepted : filter.exception with
      | false => exact absurd (List.prefix_append _ _) (unmarked excepted)
      | true =>
          rw [Filter.markChars, excepted] at same
          obtain rfl := List.append_cancel_left same
          rwa [excepted] at read
  · rw [readFilter_plain marked]
    constructor
    · intro read
      have plain := (readBody_eq_ok_iff.mp read).1
      refine ⟨line, by rw [Filter.markChars, plain]; rfl, fun _ => marked, by rwa [plain]⟩
    · rintro ⟨body, same, -, read⟩
      cases excepted : filter.exception with
      | false =>
          rw [Filter.markChars, excepted] at same
          rwa [excepted, ← show line = body from same] at read
      | true =>
          rw [Filter.markChars, excepted] at same
          exact absurd ⟨body, same.symm⟩ marked

theorem ne_nil_of_readFilter {line : List Char} {filter : Filter}
    (read : readFilter line = .ok filter)
    : line ≠ [] := by
  rintro rfl
  cases read

-----------------------------------------------------------------------------------------
-- Entries of hosts files
-----------------------------------------------------------------------------------------

/-- Domains that an entry can block have letters, digits, points and hyphens only. -/
def IsDomain (domain : List Char) : Prop :=
  ∀ c ∈ domain, (c.isAlphanum || c == '.' || c == '-') = true

theorem readHosts?_eq_none_iff {line : List Char}
    : readHosts? line = none
      ↔ (nextWord (nextWord line).2).1 = [] ∨ isAddress (nextWord line).1 = false := by
  simp only [readHosts?]
  split
  · rename_i skipped
    simpa using skipped
  · rename_i taken
    rw [Bool.or_eq_true, List.isEmpty_iff, Bool.not_eq_true'] at taken
    refine iff_of_false ?_ taken
    split <;> exact Option.some_ne_none _

/-- An address with more after it makes an entry. -/
theorem readHosts?_ne_none {word rest : List Char} {blank : Char} (address : isAddress word = true)
    (plain : ∀ c ∈ word, isBlank c = false) (stops : isBlank blank = true)
    (more : ∃ c ∈ rest, isBlank c = false)
    : readHosts? (word ++ blank :: rest) ≠ none := by
  have filled : word ≠ [] := by
    rintro rfl
    cases address
  rw [Ne, readHosts?_eq_none_iff, Text.nextWord_append filled plain stops, address,
    Text.nextWord_fst_eq_nil_iff, List.forall_mem_cons]
  rintro (⟨-, blanks⟩ | other)
  · obtain ⟨c, member, other⟩ := more
    rw [blanks c member] at other
    cases other
  · cases other

theorem exists_address_of_readHosts? {line : List Char} (hosts : readHosts? line ≠ none)
    (start : ∀ c, line.head? = some c → isBlank c = false)
    : ∃ word blank rest, line = word ++ blank :: rest ∧ isAddress word = true
      ∧ (∀ c ∈ word, isBlank c = false) ∧ isBlank blank = true := by
  rw [Ne, readHosts?_eq_none_iff, not_or, Bool.not_eq_false] at hosts
  obtain ⟨more, address⟩ := hosts
  have front : line.dropWhile isBlank = line := by
    cases line with
    | nil => rfl
    | cons c line => simp [start c rfl]
  rw [Text.nextWord_eq line, front] at more address
  have stops := List.head?_dropWhile_not (!isBlank ·) line
  cases back : line.dropWhile (!isBlank ·) with
  | nil =>
      rw [back] at more
      exact absurd rfl more
  | cons blank rest =>
      rw [back] at stops
      refine ⟨line.takeWhile (!isBlank ·), blank, rest, ?_, address, ?_, by simpa using stops⟩
      · rw [← back, List.takeWhile_append_dropWhile]
      · intro c member
        simpa using List.mem_takeWhile_imp member

/-- Whether a line is an entry shows before its first dollar sign. -/
theorem readHosts?_of_front {front options line : List Char}
    (past : readHosts? (front ++ '$' :: options) = none)
    (start : ∀ c, line.head? = some c → isBlank c = false)
    (shared : line = front ∨ ∃ rest, line = front ++ '$' :: rest)
    : readHosts? line = none := by
  by_contra hosts
  obtain ⟨word, blank, rest, whole, address, plain, stops⟩ :=
    exists_address_of_readHosts? hosts start
  have absent : '$' ∉ word := by
    intro member
    cases Host.Address.isAddressChar_of_isAddress address '$' member
  have early : ∃ more, front = word ++ blank :: more := by
    rcases shared with rfl | ⟨after, rfl⟩
    · exact ⟨rest, whole⟩
    · rcases List.append_eq_append_iff.mp whole with ⟨more, rfl, same⟩ | ⟨more, rfl, same⟩
      · cases more with
        | nil =>
            obtain ⟨rfl, -⟩ := List.cons.inj same
            cases stops
        | cons c more =>
            obtain ⟨rfl, -⟩ := List.cons.inj same
            simp at absent
      · cases more with
        | nil =>
            obtain ⟨rfl, -⟩ := List.cons.inj same
            cases stops
        | cons c more =>
            obtain ⟨rfl, -⟩ := List.cons.inj same
            exact ⟨more, rfl⟩
  obtain ⟨more, rfl⟩ := early
  rw [List.append_assoc] at past
  exact readHosts?_ne_none address plain stops ⟨'$', by simp, rfl⟩ past

theorem readHosts?_eq_network {line : List Char} {filter : Filter}
    (read : readHosts? line = some (network filter))
    : ∃ domain, IsDomain domain ∧ filter = Filter.ofDomain domain := by
  simp only [readHosts?] at read
  split at read
  · cases read
  · split at read
    · cases read
    · rename_i blockable
      rw [Bool.not_eq_true', Bool.not_eq_false, isBlockable, Bool.and_eq_true,
        List.all_eq_true] at blockable
      exact ⟨_, blockable.2, (network.inj (Option.some.inj read)).symm⟩

-----------------------------------------------------------------------------------------
-- Lines
-----------------------------------------------------------------------------------------

theorem isCosmetic_eq_false_iff {line : List Char}
    : isCosmetic line = false ↔ ∀ mark ∈ cosmeticMarks, ¬mark <:+: line := by
  rw [isCosmetic, List.any_eq_false]
  simp only [Text.occursIn_iff]

theorem ofChars_eq_network_iff {chars : List Char} {filter : Filter}
    : ofChars chars = network filter
      ↔ trim chars ≠ [] ∧ isCosmetic (trim chars) = false ∧ isComment (trim chars) = false
        ∧ (readHosts? (trim chars) = some (network filter)
          ∨ readHosts? (trim chars) = none ∧ readFilter (trim chars) = .ok filter) := by
  simp only [ofChars]
  split
  · rename_i none
    exact iff_of_false (by simp) fun filled => filled.1 (List.isEmpty_iff.mp none)
  · rename_i filled
    rw [List.isEmpty_iff] at filled
    split
    · rename_i cosmetic
      simp [cosmetic]
    · rename_i plain
      split
      · rename_i comment
        simp [comment]
      · rename_i said
        split
        · rename_i hosts found
          simp [filled, plain, said, found]
        · rename_i none
          cases read : readFilter (trim chars) with
          | error fault => simp [none]
          | ok found => simp [filled, plain, said, none]

/-- The modifiers of a filter that was read from a line have names that are known. -/
theorem isKnown_of_ofString {text : String} {filter : Filter}
    (read : ofString text = network filter)
    : ∀ modifier ∈ filter.modifiers, Modifier.isKnown modifier.name = true := by
  obtain ⟨-, -, -, hosts | ⟨-, spelled⟩⟩ := ofChars_eq_network_iff.mp read
  · obtain ⟨domain, -, rfl⟩ := readHosts?_eq_network hosts
    exact List.forall_mem_nil _
  · obtain ⟨body, -, -, parts⟩ := readFilter_eq_ok_iff.mp spelled
    obtain ⟨-, -, ⟨-, -, bare⟩ | ⟨options, -, listed⟩⟩ := readBody_eq_ok_iff.mp parts
    · rw [bare]
      exact List.forall_mem_nil _
    · exact fun modifier member => (wellFormed_of_readModifiers listed modifier member).known

end Line

end Blocklist
