import Mathlib.Data.Option.Basic
import Blocklist.Proofs.Filter.Signs

/-! Where a filter is cut into pattern and modifiers. The cut that the scan from the end finds is
the last one that passes a test, and stays in place when the modifiers are written anew with the
same dollar signs.
-/

namespace Blocklist.Line

open Text (beginsWith endsWith)

-----------------------------------------------------------------------------------------
-- Last cuts
-----------------------------------------------------------------------------------------

/-- All ways to cut a text at the character `mark`, from left to right. -/
def cuts (mark : Char) : List Char → List (List Char × List Char)
  | [] => []
  | c :: rest =>
    let later := (cuts mark rest).map fun (left, right) => (c :: left, right)
    if c = mark then ([], rest) :: later else later

theorem mem_cuts {mark : Char} {text left right : List Char}
    : (left, right) ∈ cuts mark text ↔ text = left ++ mark :: right := by
  induction text generalizing left with
  | nil => simp [cuts]
  | cons c text ih =>
      cases left with
      | nil =>
          by_cases same : c = mark
          · simp [cuts, same, eq_comm]
          · simp [cuts, same]
      | cons d left =>
          by_cases same : c = mark
          · simp [cuts, same, ih, eq_comm, and_comm]
          · simp [cuts, same, ih, eq_comm, and_comm]

/-- The cuts before a cut, the cut itself, and those after it. -/
theorem cuts_append (mark : Char) (left right : List Char)
    : cuts mark (left ++ mark :: right)
      = (cuts mark left).map (fun (before, after) => (before, after ++ mark :: right))
        ++ (left, right)
          :: (cuts mark right).map fun (before, after) => (left ++ mark :: before, after) := by
  induction left with
  | nil => simp [cuts]
  | cons c left ih =>
      by_cases same : c = mark
      · simp [cuts, same, ih, Function.comp_def]
      · simp [cuts, same, ih, Function.comp_def]

/-- Where else a text with a cut can be cut. -/
theorem cut_cases {mark : Char} {left right before after : List Char}
    (whole : left ++ mark :: right = before ++ mark :: after)
    : (∃ between, left = before ++ mark :: between ∧ after = between ++ mark :: right)
      ∨ (before = left ∧ after = right)
      ∨ ∃ between, before = left ++ mark :: between ∧ right = between ++ mark :: after := by
  have member := mem_cuts.mpr whole
  rw [cuts_append, List.mem_append, List.mem_cons, List.mem_map, List.mem_map] at member
  rcases member with ⟨⟨front, back⟩, inner, same⟩ | same | ⟨⟨front, back⟩, inner, same⟩
  · obtain ⟨rfl, rfl⟩ := Prod.mk.inj same
    exact Or.inl ⟨back, mem_cuts.mp inner, rfl⟩
  · exact Or.inr (Or.inl (Prod.mk.inj same))
  · obtain ⟨rfl, rfl⟩ := Prod.mk.inj same
    exact Or.inr (Or.inr ⟨front, rfl, mem_cuts.mp inner⟩)

/-- A cut that passes a test, and after which no other one does. -/
structure LastCut (mark : Char) (test : List Char × List Char → Bool)
    (text left right : List Char)
    : Prop where
  whole : text = left ++ mark :: right
  passes : test (left, right) = true
  last : ∀ before after, right = before ++ mark :: after
    → test (left ++ mark :: before, after) = false

theorem getLast?_filter_cuts {mark : Char} {test : List Char × List Char → Bool}
    {text left right : List Char}
    : ((cuts mark text).filter test).getLast? = some (left, right)
      ↔ LastCut mark test text left right := by
  constructor
  · intro found
    obtain ⟨member, passes⟩ := List.mem_filter.mp (List.mem_of_getLast? found)
    have whole := mem_cuts.mp member
    refine ⟨whole, passes, ?_⟩
    intro before after split
    by_contra later
    rw [Bool.not_eq_false] at later
    have filled : ((cuts mark right).map
        fun (before, after) => (left ++ mark :: before, after)).filter test ≠ [] :=
      List.ne_nil_of_mem (List.mem_filter.mpr
        ⟨List.mem_map.mpr ⟨(before, after), mem_cuts.mpr split, rfl⟩, later⟩)
    rw [whole, cuts_append, List.filter_append, List.filter_cons_of_pos passes, List.append_cons,
      List.getLast?_append_of_ne_nil _ filled] at found
    have listed := List.mem_of_mem_filter (List.mem_of_getLast? found)
    obtain ⟨other, -, same⟩ := List.mem_map.mp listed
    have length := congrArg (fun sides => sides.1.length) same
    simp at length
  · rintro ⟨rfl, passes, last⟩
    have none : ((cuts mark right).map
        fun (before, after) => (left ++ mark :: before, after)).filter test = [] := by
      rw [List.filter_eq_nil_iff, List.forall_mem_map]
      rintro ⟨before, after⟩ member
      rw [last before after (mem_cuts.mp member)]
      exact Bool.false_ne_true
    rw [cuts_append, List.filter_append, List.filter_cons_of_pos passes, none]
    exact List.getLast?_concat

theorem getLast?_filter_cuts_eq_none {mark : Char} {test : List Char × List Char → Bool}
    {text : List Char}
    : ((cuts mark text).filter test).getLast? = none
      ↔ ∀ left right, text = left ++ mark :: right → test (left, right) = false := by
  rw [List.getLast?_eq_none_iff, List.filter_eq_nil_iff]
  constructor
  · intro none left right whole
    exact Bool.eq_false_iff.mpr (none (left, right) (mem_cuts.mpr whole))
  · rintro none ⟨left, right⟩ member
    rw [none left right (mem_cuts.mp member)]
    exact Bool.false_ne_true

-----------------------------------------------------------------------------------------
-- Tests of a cut
-----------------------------------------------------------------------------------------

/-- The dollar sign is neither escaped nor the end anchor of an expression. -/
def isCandidate : List Char × List Char → Bool
  | (left, right) => !endsWith '\\' left && !beginsWith '/' right

/-- The dollar sign stands right after a slash that is not the first character. -/
def isAfterSlash : List Char × List Char → Bool
  | (left, right) => (1 < left.length && endsWith '/' left) && isCandidate (left, right)

/-- The dollar sign stands after all slashes. -/
def isAfterSlashes : List Char × List Char → Bool
  | (left, right) => !right.contains '/' && isCandidate (left, right)

theorem isAfterSlashes_iff {left right : List Char}
    : isAfterSlashes (left, right) = true ↔ '/' ∉ right ∧ isCandidate (left, right) = true := by
  simp [isAfterSlashes]

-----------------------------------------------------------------------------------------
-- The scan from the end
-----------------------------------------------------------------------------------------

/-- The cuts that a scan from the end has still to pass, from left to right. -/
def cutsAhead (before after : List Char) : List (List Char × List Char) :=
  (cuts '$' before.reverse).map fun (left, right) => (left, right ++ after)

theorem cuts_concat_of_ne {mark c : Char} (other : c ≠ mark) (text : List Char)
    : cuts mark (text ++ [c])
      = (cuts mark text).map fun (left, right) => (left, right ++ [c]) := by
  induction text with
  | nil => simp [cuts, other]
  | cons d text ih =>
      by_cases own : d = mark
      · simp [cuts, own, ih, Function.comp_def]
      · simp [cuts, own, ih, Function.comp_def]

/-- The next character of a scan is the last cut ahead, or no cut. -/
theorem cutsAhead_cons (c : Char) (before after : List Char)
    : cutsAhead (c :: before) after
      = cutsAhead before (c :: after)
        ++ if c = '$' then [(before.reverse, after)] else [] := by
  rw [cutsAhead, cutsAhead, List.reverse_cons]
  by_cases sign : c = '$'
  · rw [sign, cuts_append]
    simp [cuts, Function.comp_def]
  · rw [cuts_concat_of_ne sign]
    simp [sign, Function.comp_def]

theorem cutsAhead_reverse (line : List Char) : cutsAhead line.reverse [] = cuts '$' line := by
  simp [cutsAhead]

/-- The last cut ahead that passes a test, when the next character is read. -/
theorem getLast?_filter_cutsAhead_cons (test : List Char × List Char → Bool) (c : Char)
    (before after : List Char)
    : ((cutsAhead (c :: before) after).filter test).getLast?
      = if c = '$' && test (before.reverse, after) then some (before.reverse, after)
        else ((cutsAhead before (c :: after)).filter test).getLast? := by
  rw [cutsAhead_cons, List.filter_append]
  by_cases sign : c = '$'
  · by_cases passes : test (before.reverse, after) = true
    · simp [sign, passes]
    · simp [sign, passes]
  · simp [sign]

theorem isCandidate_reverse (before after : List Char)
    : isCandidate (before.reverse, after)
      = (!beginsWith '\\' before && !beginsWith '/' after) := by
  rw [isCandidate, Text.endsWith_reverse]

/-- In a line that begins with no slash, the scan ends at the last candidate, by induction on
what is still to be read.
-/
theorem scanCut?_of_plain (fallback? : Option (List Char × List Char)) (before after : List Char)
    : scanCut? false fallback? before after
      = (((cutsAhead before after).filter isCandidate).getLast? <|> fallback?) := by
  induction before generalizing after with
  | nil => simp [scanCut?, cutsAhead, cuts]
  | cons c before ih =>
      rw [getLast?_filter_cutsAhead_cons, isCandidate_reverse, ← Bool.and_assoc, scanCut?]
      split
      · rfl
      · exact ih (c :: after)

/-- In a line that begins with a slash, the scan ends at the last cut right after a further
slash. Without one it gives what it remembers, which is the last cut after all slashes, by
induction on what is still to be read.
-/
theorem scanCut?_of_slash (fallback? : Option (List Char × List Char)) (before after : List Char)
    : scanCut? true fallback? before after
      = (((cutsAhead before after).filter isAfterSlash).getLast?
        <|> fallback?
        <|> ((cutsAhead before after).filter isAfterSlashes).getLast?) := by
  induction before generalizing after fallback? with
  | nil => simp [scanCut?, cutsAhead, cuts]
  | cons c before ih =>
      have stops : (c = '$' && isAfterSlash (before.reverse, after))
          = ((c = '$' && !beginsWith '\\' before && !beginsWith '/' after)
            && (1 < before.length && beginsWith '/' before)) := by
        rw [isAfterSlash, isCandidate_reverse, Text.endsWith_reverse, List.length_reverse]
        ac_rfl
      have remembers : (c = '$' && isAfterSlashes (before.reverse, after))
          = ((c = '$' && !beginsWith '\\' before && !beginsWith '/' after)
            && !after.contains '/') := by
        rw [isAfterSlashes, isCandidate_reverse]
        ac_rfl
      rw [getLast?_filter_cutsAhead_cons, getLast?_filter_cutsAhead_cons, stops, remembers,
        scanCut?]
      split
      · rename_i candidate
        rw [candidate, Bool.true_and, Bool.true_and, Bool.not_true, Bool.false_or]
        split
        · rfl
        · split
          · -- what was remembered before comes from further right
            rw [ih]
            cases fallback? <;> rfl
          · exact ih fallback? (c :: after)
      · rename_i other
        rw [Bool.eq_false_iff.mpr other]
        exact ih fallback? (c :: after)

theorem optionsCut?_eq_of_plain {line : List Char} (plain : beginsWith '/' line = false)
    : optionsCut? line = ((cuts '$' line).filter isCandidate).getLast? := by
  rw [optionsCut?, plain, scanCut?_of_plain, cutsAhead_reverse, Option.orElse_eq_orElse,
    Option.orElse_eq_or, Option.or_none]

theorem optionsCut?_eq_of_slash {line : List Char} (slash : beginsWith '/' line = true)
    : optionsCut? line
      = (((cuts '$' line).filter isAfterSlash).getLast?
        <|> ((cuts '$' line).filter isAfterSlashes).getLast?) := by
  rw [optionsCut?, slash, scanCut?_of_slash, cutsAhead_reverse]
  rfl

theorem optionsCut?_of_plain {line : List Char} (plain : beginsWith '/' line = false)
    {left right : List Char}
    : optionsCut? line = some (left, right) ↔ LastCut '$' isCandidate line left right := by
  rw [← getLast?_filter_cuts, optionsCut?_eq_of_plain plain]

theorem optionsCut?_of_slash {line : List Char} (slash : beginsWith '/' line = true)
    {left right : List Char}
    : optionsCut? line = some (left, right)
      ↔ LastCut '$' isAfterSlash line left right
        ∨ (∀ before after, line = before ++ '$' :: after → isAfterSlash (before, after) = false)
          ∧ LastCut '$' isAfterSlashes line left right := by
  rw [← getLast?_filter_cuts, ← getLast?_filter_cuts, ← getLast?_filter_cuts_eq_none,
    optionsCut?_eq_of_slash slash]
  exact Option.orElse_eq_some _ _ _

theorem optionsCut?_whole {line left right : List Char}
    (cut : optionsCut? line = some (left, right))
    : line = left ++ '$' :: right := by
  cases slash : beginsWith '/' line with
  | false => exact ((optionsCut?_of_plain slash).mp cut).whole
  | true =>
      rcases (optionsCut?_of_slash slash).mp cut with found | ⟨-, found⟩
      · exact found.whole
      · exact found.whole

theorem optionsCut?_eq_none {line : List Char} (absent : '$' ∉ line)
    : optionsCut? line = none := by
  have none : cuts '$' line = [] := by
    rw [List.eq_nil_iff_forall_not_mem]
    rintro ⟨left, right⟩ member
    rw [mem_cuts.mp member] at absent
    simp at absent
  cases slash : beginsWith '/' line with
  | false => simp [optionsCut?_eq_of_plain slash, none]
  | true => simp [optionsCut?_eq_of_slash slash, none]

-----------------------------------------------------------------------------------------
-- Modifiers written anew
-----------------------------------------------------------------------------------------

section

variable {pattern options anew : List Char}

theorem isCandidate_append (pattern before after : List Char)
    : isCandidate (pattern ++ '$' :: before, after)
      = (!endsWith '\\' before && !beginsWith '/' after) := by
  rw [isCandidate, Text.endsWith_append_cons, Text.endsWith_cons_of_ne (by decide)]

/-- A dollar sign right after a slash is not escaped. -/
theorem isAfterSlash_append (filled : pattern ≠ []) (before after : List Char)
    : isAfterSlash (pattern ++ '$' :: before, after)
      = (endsWith '/' before && !beginsWith '/' after) := by
  have long : 1 < (pattern ++ '$' :: before).length := by
    have some := List.length_pos_of_ne_nil filled
    rw [List.length_append, List.length_cons]
    omega
  rw [isAfterSlash, isCandidate_append, Text.endsWith_append_cons,
    Text.endsWith_cons_of_ne (by decide), decide_eq_true long, Bool.true_and]
  cases slash : endsWith '/' before with
  | false => rfl
  | true =>
      have other : endsWith '\\' before = false := by
        rw [Text.endsWith_iff] at slash
        simp [endsWith, slash]
      rw [other, Bool.not_false, Bool.true_and]

theorem isCandidate_anew (candidate : isCandidate (pattern, options) = true)
    (opens : beginsWith '/' anew = false)
    : isCandidate (pattern, anew) = true := by
  rw [isCandidate, Bool.and_eq_true] at candidate
  rw [isCandidate, candidate.1, opens]
  rfl

theorem isCandidate_of_follows (follows : Follows anew options)
    (none : ∀ before after, options = before ++ '$' :: after
      → isCandidate (pattern ++ '$' :: before, after) = false)
    : ∀ before after, anew = before ++ '$' :: after
      → isCandidate (pattern ++ '$' :: before, after) = false := by
  intro left right whole
  obtain ⟨before, after, past, escaped, anchored, -⟩ :=
    follows ['$'] (IsRun.singleton (by decide)) left right whole
  have refused := none before after past
  rw [isCandidate_append, Bool.and_eq_false_iff, Bool.not_eq_false', Bool.not_eq_false']
    at refused ⊢
  exact refused.imp escaped anchored

theorem isAfterSlash_of_follows (filled : pattern ≠ []) (follows : Follows anew options)
    (none : ∀ before after, options = before ++ '$' :: after
      → isAfterSlash (pattern ++ '$' :: before, after) = false)
    : ∀ before after, anew = before ++ '$' :: after
      → isAfterSlash (pattern ++ '$' :: before, after) = false := by
  intro left right whole
  obtain ⟨before, after, past, -, anchored, slashed⟩ :=
    follows ['$'] (IsRun.singleton (by decide)) left right whole
  have refused := none before after past
  rw [isAfterSlash_append filled, Bool.and_eq_false_iff, Bool.not_eq_false'] at refused ⊢
  rcases refused with other | anchor
  · refine Or.inl (Bool.eq_false_iff.mpr ?_)
    intro slash
    rw [slashed slash] at other
    cases other
  · exact Or.inr (anchored anchor)

/-- Without slashes in the modifiers, all their dollar signs stand after all slashes. -/
theorem isAfterSlashes_append {text before after : List Char} (plain : '/' ∉ text)
    (split : text = before ++ '$' :: after) (pattern : List Char)
    : isAfterSlashes (pattern ++ '$' :: before, after)
      = isCandidate (pattern ++ '$' :: before, after) := by
  have bare : '/' ∉ after := by
    intro member
    exact plain (by simp [split, member])
  rw [isAfterSlashes, List.contains_eq_mem, decide_eq_false bare, Bool.not_false, Bool.true_and]

theorem isAfterSlashes_of_follows (past : '/' ∉ options) (bare : '/' ∉ anew)
    (follows : Follows anew options)
    (none : ∀ before after, options = before ++ '$' :: after
      → isAfterSlashes (pattern ++ '$' :: before, after) = false)
    : ∀ before after, anew = before ++ '$' :: after
      → isAfterSlashes (pattern ++ '$' :: before, after) = false := by
  intro before after split
  rw [isAfterSlashes_append bare split]
  refine isCandidate_of_follows follows ?_ before after split
  intro before after split
  rw [← isAfterSlashes_append past split]
  exact none before after split

/-- The dollar sign still stands right after no slash, wherever it is. -/
theorem not_isAfterSlash_anew (filled : pattern ≠ []) (plain : '/' ∉ anew)
    (candidate : isCandidate (pattern, options) = true)
    (none : ∀ before after, pattern ++ '$' :: options = before ++ '$' :: after
      → isAfterSlash (before, after) = false)
    : ∀ before after, pattern ++ '$' :: anew = before ++ '$' :: after
      → isAfterSlash (before, after) = false := by
  intro before after whole
  rcases cut_cases whole with ⟨between, rfl, rfl⟩ | ⟨rfl, rfl⟩ | ⟨between, rfl, rfl⟩
  · have earlier := none before (between ++ '$' :: options) (by simp)
    rw [isAfterSlash, isCandidate, Text.beginsWith_append_cons_of_ne (by decide)] at earlier ⊢
    exact earlier
  · have own := none before options rfl
    rw [isAfterSlash, candidate, Bool.and_true] at own
    rw [isAfterSlash, own, Bool.false_and]
  · have bare : endsWith '/' between = false := by
      rw [Bool.eq_false_iff, Ne, Text.endsWith_iff]
      intro last
      exact plain (List.mem_append_left _ (List.mem_of_getLast? last))
    rw [isAfterSlash_append filled, bare, Bool.false_and]

/-- The cut stays in place when the text of the modifiers is written anew and begins with no
slash.
-/
theorem optionsCut?_anew (cut : optionsCut? (pattern ++ '$' :: options) = some (pattern, options))
    (opens : beginsWith '/' anew = false) (follows : Follows anew options)
    : optionsCut? (pattern ++ '$' :: anew) = some (pattern, anew) := by
  have start (text : List Char)
      : beginsWith '/' (pattern ++ '$' :: text) = beginsWith '/' pattern :=
    Text.beginsWith_append_cons_of_ne (by decide) pattern text
  cases slash : beginsWith '/' pattern with
  | false =>
      rw [optionsCut?_of_plain (by rw [start, slash])] at cut ⊢
      exact ⟨rfl, isCandidate_anew cut.passes opens, isCandidate_of_follows follows cut.last⟩
  | true =>
      have filled : pattern ≠ [] := by
        rintro rfl
        cases slash
      rw [optionsCut?_of_slash (by rw [start, slash])] at cut ⊢
      rcases cut with cut | ⟨none, cut⟩
      · have passes := cut.passes
        rw [isAfterSlash, Bool.and_eq_true] at passes
        refine Or.inl ⟨rfl, ?_, isAfterSlash_of_follows filled follows cut.last⟩
        rw [isAfterSlash, passes.1, isCandidate_anew passes.2 opens]
        rfl
      · obtain ⟨past, candidate⟩ := isAfterSlashes_iff.mp cut.passes
        have bare : '/' ∉ anew := fun member => past (follows.mem (by decide) member)
        exact Or.inr ⟨not_isAfterSlash_anew filled bare candidate none, rfl,
          isAfterSlashes_iff.mpr ⟨bare, isCandidate_anew candidate opens⟩,
          isAfterSlashes_of_follows past bare follows cut.last⟩

/-- A pattern that is no expression, or a whole one, is cut off from modifiers without dollar
signs.
-/
theorem optionsCut?_append (unescaped : endsWith '\\' pattern = false)
    (enclosed : beginsWith '/' pattern = true → 2 ≤ pattern.length ∧ endsWith '/' pattern = true)
    (opens : beginsWith '/' options = false) (plain : '$' ∉ options)
    : optionsCut? (pattern ++ '$' :: options) = some (pattern, options) := by
  have candidate : isCandidate (pattern, options) = true := by
    rw [isCandidate, unescaped, opens]
    rfl
  have none (test : List Char × List Char → Bool) (before after : List Char)
      (split : options = before ++ '$' :: after)
      : test (pattern ++ '$' :: before, after) = false := by
    rw [split] at plain
    simp at plain
  have start (text : List Char)
      : beginsWith '/' (pattern ++ '$' :: text) = beginsWith '/' pattern :=
    Text.beginsWith_append_cons_of_ne (by decide) pattern text
  cases slash : beginsWith '/' pattern with
  | false =>
      rw [optionsCut?_of_plain (by rw [start, slash])]
      exact ⟨rfl, candidate, none isCandidate⟩
  | true =>
      obtain ⟨long, closes⟩ := enclosed slash
      have long : 1 < pattern.length := long
      rw [optionsCut?_of_slash (by rw [start, slash])]
      refine Or.inl ⟨rfl, ?_, none isAfterSlash⟩
      rw [isAfterSlash, decide_eq_true long, closes, candidate]
      rfl

end

end Blocklist.Line
