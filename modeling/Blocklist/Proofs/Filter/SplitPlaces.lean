import Blocklist.Proofs.Filter.OptionsCut
import Mathlib.Order.Bounds.Basic

/-! Where a line is split into pattern and modifiers, told by places: the split is at the last
dollar sign of a kind that depends on the slashes of the line.
-/

namespace Blocklist.Line

open Text (beginsWith endsWith)

-----------------------------------------------------------------------------------------
-- Places of dollar signs
-----------------------------------------------------------------------------------------

/-- The character stands right before the place. -/
def IsBefore (c : Char) (text : List Char) (place : Nat) : Prop :=
  ∃ before, before + 1 = place ∧ text[before]? = some c

/-- The places of dollar signs that are neither escaped nor the end anchor of an expression. -/
def candidatePlaces (text : List Char) : Set Nat :=
  {place | text[place]? = some '$' ∧ ¬IsBefore '\\' text place ∧ text[place + 1]? ≠ some '/'}

/-- The candidates past the first two characters that stand right after a slash. -/
def closingPlaces (text : List Char) : Set Nat :=
  {place | place ∈ candidatePlaces text ∧ 1 < place ∧ IsBefore '/' text place}

/-- The candidates after the last slash. -/
def trailingPlaces (text : List Char) : Set Nat :=
  {place | place ∈ candidatePlaces text ∧ ∀ slash, text[slash]? = some '/' → slash < place}

/-- A line is split at the last of the places, or stays whole as there is none. -/
inductive SplitsAtLast (text : List Char) (places : Set Nat) : Prop where
  | split {place : Nat} (last : IsGreatest places place)
    (sides : splitOptions text = (text.take place, some (text.drop (place + 1))))
  | whole (empty : places = ∅) (kept : splitOptions text = (text, none))

section

variable {c d : Char} (left right : List Char)

theorem isBefore_length
    : IsBefore c (left ++ d :: right) left.length ↔ endsWith c left = true := by
  rw [Text.endsWith_iff]
  rcases List.eq_nil_or_concat left with rfl | ⟨front, e, rfl⟩
  · simp [IsBefore]
  · simp [IsBefore]

theorem getElem?_after_length (place : Nat)
    : (left ++ d :: right)[left.length + (place + 1)]? = right[place]? := by
  rw [List.getElem?_append_right (Nat.le_add_right _ _), Nat.add_sub_cancel_left,
    List.getElem?_cons_succ]

theorem length_mem_candidatePlaces
    : left.length ∈ candidatePlaces (left ++ '$' :: right) ↔ isCandidate (left, right) = true := by
  have next : (left ++ '$' :: right)[left.length + 1]? = right.head? := by
    rw [getElem?_after_length left right 0, List.head?_eq_getElem?]
  rw [candidatePlaces, Set.mem_ofPred_eq, isBefore_length, next, Ne, ← Text.beginsWith_iff]
  simp [isCandidate]

theorem length_mem_closingPlaces
    : left.length ∈ closingPlaces (left ++ '$' :: right)
      ↔ isAfterSlash (left, right) = true := by
  rw [closingPlaces, Set.mem_ofPred_eq, length_mem_candidatePlaces, isBefore_length]
  simp [isAfterSlash, and_comm]

/-- No slash follows a dollar sign when all slashes stand before it. -/
theorem slashes_before_length
    : (∀ slash, (left ++ '$' :: right)[slash]? = some '/' → slash < left.length)
      ↔ '/' ∉ right := by
  constructor
  · intro before member
    obtain ⟨place, found⟩ := List.mem_iff_getElem?.mp member
    rw [← getElem?_after_length left right place] at found
    have early := before _ found
    omega
  · intro absent slash found
    rcases Nat.lt_or_ge slash left.length with early | late
    · exact early
    · rw [List.getElem?_append_right late] at found
      have member := List.mem_of_getElem? found
      simp [absent] at member

theorem length_mem_trailingPlaces
    : left.length ∈ trailingPlaces (left ++ '$' :: right)
      ↔ isAfterSlashes (left, right) = true := by
  rw [trailingPlaces, Set.mem_ofPred_eq, length_mem_candidatePlaces, slashes_before_length,
    isAfterSlashes_iff, and_comm]

end

-----------------------------------------------------------------------------------------
-- Last places
-----------------------------------------------------------------------------------------

/-- A test of cuts tells which places of a line belong to a set. -/
structure TestsFor (text : List Char) (places : Set Nat)
    (test : List Char × List Char → Bool)
    : Prop where
  dollar : ∀ place ∈ places, text[place]? = some '$'
  passes : ∀ left right, text = left ++ '$' :: right
    → (left.length ∈ places ↔ test (left, right) = true)

theorem candidatePlaces_tested (text : List Char)
    : TestsFor text (candidatePlaces text) isCandidate where
  dollar := fun _ member => member.1
  passes := by
    rintro left right rfl
    exact length_mem_candidatePlaces left right

theorem closingPlaces_tested (text : List Char)
    : TestsFor text (closingPlaces text) isAfterSlash where
  dollar := fun _ member => member.1.1
  passes := by
    rintro left right rfl
    exact length_mem_closingPlaces left right

theorem trailingPlaces_tested (text : List Char)
    : TestsFor text (trailingPlaces text) isAfterSlashes where
  dollar := fun _ member => member.1.1
  passes := by
    rintro left right rfl
    exact length_mem_trailingPlaces left right

theorem exists_sides {text : List Char} {place : Nat} {c : Char}
    (found : text[place]? = some c)
    : ∃ left right, text = left ++ c :: right ∧ left.length = place := by
  obtain ⟨within, rfl⟩ := List.getElem?_eq_some_iff.mp found
  refine ⟨text.take place, text.drop (place + 1), ?_, ?_⟩
  · rw [← List.drop_eq_getElem_cons within, List.take_append_drop]
  · exact List.length_take_of_le (Nat.le_of_lt within)

namespace TestsFor

variable {text : List Char} {places : Set Nat} {test : List Char × List Char → Bool}
  (tests : TestsFor text places test)
include tests

theorem eq_empty
    (none : ∀ left right, text = left ++ '$' :: right → test (left, right) = false)
    : places = ∅ := by
  rw [Set.eq_empty_iff_forall_notMem]
  intro place member
  obtain ⟨left, right, whole, rfl⟩ := exists_sides (tests.dollar place member)
  have passes := (tests.passes left right whole).mp member
  rw [none left right whole] at passes
  cases passes

theorem isGreatest {left right : List Char} (cut : LastCut '$' test text left right)
    : IsGreatest places left.length := by
  refine ⟨(tests.passes left right cut.whole).mpr cut.passes, ?_⟩
  intro place member
  obtain ⟨before, after, whole, rfl⟩ := exists_sides (tests.dollar place member)
  have passes := (tests.passes before after whole).mp member
  -- a cut further to the right would pass the test after the last one that does
  rcases cut_cases (cut.whole.symm.trans whole) with ⟨between, rfl, -⟩ | ⟨rfl, -⟩
    | ⟨between, rfl, later⟩
  · simp
  · exact le_rfl
  · rw [cut.last between after later] at passes
    cases passes

/-- A line is split at the last of the places where its cut is the last that passes the test. -/
theorem splitsAtLast (chosen : optionsCut? text = ((cuts '$' text).filter test).getLast?)
    : SplitsAtLast text places := by
  cases found : ((cuts '$' text).filter test).getLast? with
  | none =>
      refine .whole (tests.eq_empty (getLast?_filter_cuts_eq_none.mp found)) ?_
      rw [splitOptions, chosen, found]
  | some sides =>
      obtain ⟨left, right⟩ := sides
      have cut := getLast?_filter_cuts.mp found
      refine .split (tests.isGreatest cut) ?_
      rw [splitOptions, chosen, found]
      simp [cut.whole]

end TestsFor

section

variable {text : List Char}

theorem splitsAtLast_candidate (plain : text.head? ≠ some '/')
    : SplitsAtLast text (candidatePlaces text) := by
  refine (candidatePlaces_tested text).splitsAtLast (optionsCut?_eq_of_plain ?_)
  rwa [Bool.eq_false_iff, Ne, Text.beginsWith_iff]

theorem splitsAtLast_closing (slash : text.head? = some '/')
    (closed : (closingPlaces text).Nonempty)
    : SplitsAtLast text (closingPlaces text) := by
  refine (closingPlaces_tested text).splitsAtLast ?_
  rw [optionsCut?_eq_of_slash (Text.beginsWith_iff.mpr slash)]
  cases found : ((cuts '$' text).filter isAfterSlash).getLast? with
  | some sides => rfl
  | none =>
      have empty := (closingPlaces_tested text).eq_empty (getLast?_filter_cuts_eq_none.mp found)
      exact absurd empty closed.ne_empty

theorem splitsAtLast_trailing (slash : text.head? = some '/') (unclosed : closingPlaces text = ∅)
    : SplitsAtLast text (trailingPlaces text) := by
  refine (trailingPlaces_tested text).splitsAtLast ?_
  rw [optionsCut?_eq_of_slash (Text.beginsWith_iff.mpr slash)]
  cases found : ((cuts '$' text).filter isAfterSlash).getLast? with
  | none => rfl
  | some sides =>
      have last := (closingPlaces_tested text).isGreatest (getLast?_filter_cuts.mp found)
      exact absurd unclosed last.nonempty.ne_empty

end

-----------------------------------------------------------------------------------------
-- Enclosed expressions
-----------------------------------------------------------------------------------------

/-- A cut of an expression between slashes is a cut of the expression. -/
theorem cut_of_enclosed {body left right : List Char}
    (whole : '/' :: body ++ ['/'] = left ++ '$' :: right)
    : ∃ before after, left = '/' :: before ∧ right = after ++ ['/']
      ∧ body = before ++ '$' :: after := by
  cases left with
  | nil => cases whole
  | cons first before =>
      rw [List.cons_append, List.cons_append] at whole
      obtain ⟨rfl, inner⟩ := List.cons.inj whole
      rcases List.eq_nil_or_concat right with rfl | ⟨after, last, rfl⟩
      · have ends := congrArg List.getLast? inner
        simp at ends
      · rw [List.concat_eq_append, ← List.cons_append, ← List.append_assoc] at inner
        obtain ⟨same, closing⟩ := List.append_inj' inner rfl
        obtain rfl := List.singleton_inj.mp closing.symm
        exact ⟨before, after, rfl, List.concat_eq_append, same⟩

/-- An expression between slashes is not split, unless a dollar sign stands right after a slash
within it.
-/
theorem splitOptions_enclosed {body : List Char} (bare : ¬['/', '$'] <:+: body)
    : splitOptions ('/' :: body ++ ['/']) = ('/' :: body ++ ['/'], none) := by
  have unclosed : closingPlaces ('/' :: body ++ ['/']) = ∅ := by
    refine (closingPlaces_tested _).eq_empty ?_
    intro left right whole
    obtain ⟨before, after, rfl, rfl, rfl⟩ := cut_of_enclosed whole
    rw [Bool.eq_false_iff]
    intro passes
    simp only [isAfterSlash, Bool.and_eq_true, decide_eq_true_eq, Text.endsWith_iff] at passes
    obtain ⟨⟨long, last⟩, -⟩ := passes
    have inner : before.getLast? = some '/' := by
      cases before with
      | nil => simp at long
      | cons first before => simpa using last
    obtain ⟨front, rfl⟩ := List.getLast?_eq_some_iff.mp inner
    exact bare ⟨front, after, by simp⟩
  have untrailed : trailingPlaces ('/' :: body ++ ['/']) = ∅ := by
    refine (trailingPlaces_tested _).eq_empty ?_
    intro left right whole
    obtain ⟨before, after, rfl, rfl, rfl⟩ := cut_of_enclosed whole
    simp [isAfterSlashes]
  cases splitsAtLast_trailing rfl unclosed with
  | whole _ kept => exact kept
  | split last _ => exact absurd untrailed last.nonempty.ne_empty

theorem splitOptions_eq_some {text pattern options : List Char}
    : splitOptions text = (pattern, some options)
      ↔ optionsCut? text = some (pattern, options) := by
  cases cut : optionsCut? text with
  | none => simp [splitOptions, cut]
  | some sides => simp [splitOptions, cut, Prod.ext_iff]

theorem splitOptions_eq_none {text pattern : List Char}
    : splitOptions text = (pattern, none) ↔ optionsCut? text = none ∧ pattern = text := by
  cases cut : optionsCut? text with
  | none => simp [splitOptions, cut, eq_comm]
  | some sides => simp [splitOptions, cut]

/-- A line is split as its dollar signs and slashes say. Candidates are dollar signs with no
backslash right before them and no slash right after them. A line that does not begin with a slash
is split at the last candidate. One that does is split at the last candidate right after a slash
beyond the first, or else at the last one after all slashes. Without such a candidate it stays
whole. In particular no expression between slashes is split, unless a dollar sign follows a slash
in it, and modifiers after an expression between slashes are told from it when they hold no dollar
sign and do not begin with a slash.
-/
theorem splitOptions_at_last_place
    : (∀ text, text.head? ≠ some '/' → SplitsAtLast text (candidatePlaces text))
      ∧ (∀ text, text.head? = some '/'
        → ((closingPlaces text).Nonempty → SplitsAtLast text (closingPlaces text))
          ∧ (closingPlaces text = ∅ → SplitsAtLast text (trailingPlaces text)))
      ∧ (∀ text pattern options, splitOptions text = (pattern, some options)
        → text = pattern ++ '$' :: options)
      ∧ (∀ text pattern, splitOptions text = (pattern, none) → pattern = text)
      ∧ (∀ body, ¬['/', '$'] <:+: body
        → splitOptions ('/' :: body ++ ['/']) = ('/' :: body ++ ['/'], none))
      ∧ ∀ body options, '$' ∉ options → options.head? ≠ some '/'
        → splitOptions ('/' :: body ++ ['/'] ++ '$' :: options)
          = ('/' :: body ++ ['/'], some options) := by
  refine ⟨fun _ => splitsAtLast_candidate, ?_, ?_, ?_, fun _ => splitOptions_enclosed, ?_⟩
  · intro text slash
    exact ⟨splitsAtLast_closing slash, splitsAtLast_trailing slash⟩
  · intro text pattern options split
    exact optionsCut?_whole (splitOptions_eq_some.mp split)
  · intro text pattern kept
    exact (splitOptions_eq_none.mp kept).2
  · intro body options plain opens
    have last : ('/' :: body ++ ['/']).getLast? = some '/' := List.getLast?_concat
    refine splitOptions_eq_some.mpr (optionsCut?_append ?_ ?_ ?_ plain)
    · rw [endsWith, last]
      decide
    · intro _
      exact ⟨by simp, Text.endsWith_iff.mpr last⟩
    · rwa [Bool.eq_false_iff, Ne, Text.beginsWith_iff]

/-- A plain line with an escaped dollar sign, an expression with a dollar sign in it, a path that
begins with a slash, and an expression that ends with an anchor, alone and with a modifier.
-/
theorem splitOptions_at_last_place_of_each_kind
    : let plain := "||a\\$b^$script".toList
      let closed := "/ad$x/$image".toList
      let path := "/ads/banner.js$script".toList
      let body := "banner\\d+$".toList
      SplitsAtLast plain (candidatePlaces plain)
      ∧ (closingPlaces closed).Nonempty ∧ SplitsAtLast closed (closingPlaces closed)
      ∧ closingPlaces path = ∅ ∧ SplitsAtLast path (trailingPlaces path)
      ∧ splitOptions plain = ("||a\\$b^".toList, some "script".toList)
      ∧ plain = "||a\\$b^".toList ++ '$' :: "script".toList
      ∧ splitOptions ('/' :: body ++ ['/']) = ('/' :: body ++ ['/'], none)
      ∧ splitOptions ('/' :: body ++ ['/'] ++ '$' :: "script".toList)
        = ('/' :: body ++ ['/'], some "script".toList) := by
  intro plain closed path body
  obtain ⟨last, slashed, sides, -, alone, modified⟩ := splitOptions_at_last_place
  have cut : LastCut '$' isAfterSlash closed "/ad$x/".toList "image".toList :=
    getLast?_filter_cuts.mp (by decide)
  have closing := ((closingPlaces_tested closed).isGreatest cut).nonempty
  have unclosed : closingPlaces path = ∅ :=
    (closingPlaces_tested path).eq_empty (getLast?_filter_cuts_eq_none.mp (by decide))
  have split : splitOptions plain = ("||a\\$b^".toList, some "script".toList) := by decide
  have bare : ¬['/', '$'] <:+: body := by
    rw [← Text.occursIn_iff]
    decide
  exact ⟨last plain (by decide), closing, (slashed closed (by decide)).1 closing, unclosed,
    (slashed path (by decide)).2 unclosed, split, sides plain _ _ split, alone body bare,
    modified body _ (by decide) (by decide)⟩

end Blocklist.Line
