import Blocklist.Proofs.Filter.Modifiers

/-! What the text of modifiers keeps when it is written anew. Every run of signs in the new text
stands in the text that the modifiers were read from, so that no mark is new and no place to cut
the line.
-/

namespace Blocklist.Line

open Modifier (escapeCommas)
open Text (beginsWith endsWith)

-----------------------------------------------------------------------------------------
-- Runs of signs
-----------------------------------------------------------------------------------------

/-- Characters that have a meaning in a line, and stand neither in names nor between them. -/
def signs : List Char :=
  ['$', '/', '#', '@', '?', '%']

theorem signs_not_mem_nameChars : ∀ c ∈ signs, c ∉ '~' :: Modifier.nameChars := by
  have all : signs.all (· ∉ '~' :: Modifier.nameChars) = true := by decide
  exact fun c sign => of_decide_eq_true (List.all_eq_true.mp all c sign)

/-- Some signs in a row. -/
structure IsRun (run : List Char) : Prop where
  filled : run ≠ []
  signed : ∀ c ∈ run, c ∈ signs

theorem IsRun.not_mem {run : List Char} (isRun : IsRun run) {c : Char} (other : c ∉ signs)
    : c ∉ run :=
  fun member => other (isRun.signed c member)

theorem IsRun.singleton {c : Char} (sign : c ∈ signs) : IsRun [c] :=
  ⟨List.cons_ne_nil c [], List.forall_mem_singleton.mpr sign⟩

theorem IsRun.of_cosmeticMark {mark : List Char} (listed : mark ∈ cosmeticMarks) : IsRun mark := by
  have all : cosmeticMarks.all (fun mark => mark ≠ [] && mark.all (· ∈ signs)) = true := by decide
  have own := List.all_eq_true.mp all mark listed
  rw [Bool.and_eq_true, decide_eq_true_eq, List.all_eq_true] at own
  exact ⟨own.1, fun c member => of_decide_eq_true (own.2 c member)⟩

/-- A run stands on one side of a character that is no sign. -/
theorem run_cases {c : Char} (other : c ∉ signs) {run : List Char} (isRun : IsRun run)
    {left right before after : List Char}
    (whole : left ++ c :: right = before ++ (run ++ after))
    : (∃ rest, left = before ++ (run ++ rest) ∧ after = rest ++ c :: right)
      ∨ ∃ rest, before = left ++ c :: rest ∧ right = rest ++ (run ++ after) := by
  obtain ⟨d, tail, rfl⟩ := List.exists_cons_of_ne_nil isRun.filled
  have absent := isRun.not_mem other
  rcases List.append_eq_append_iff.mp whole with ⟨rest, rfl, split⟩ | ⟨rest, rfl, split⟩
  · cases rest with
    | nil =>
        obtain ⟨rfl, -⟩ := List.cons.inj split
        exact absurd List.mem_cons_self absent
    | cons e rest =>
        obtain ⟨rfl, tail⟩ := List.cons.inj split
        exact Or.inr ⟨rest, rfl, tail⟩
  · rcases List.append_eq_append_iff.mp split with ⟨more, rfl, same⟩ | ⟨more, same, back⟩
    · exact Or.inl ⟨more, rfl, same⟩
    · cases more with
      | nil =>
          rw [List.append_nil] at same
          exact Or.inl ⟨[], by rw [same, List.append_nil], back.symm⟩
      | cons e more =>
          obtain ⟨rfl, -⟩ := List.cons.inj back
          rw [same] at absent
          simp at absent

/-- A run stands after all that has no signs. -/
theorem run_after {left : List Char} (plain : ∀ c ∈ left, c ∉ signs) {run : List Char}
    (isRun : IsRun run) {right before after : List Char}
    (whole : left ++ right = before ++ (run ++ after))
    : ∃ rest, before = left ++ rest ∧ right = rest ++ (run ++ after) := by
  induction left generalizing before with
  | nil => exact ⟨before, rfl, whole⟩
  | cons c left ih =>
      obtain ⟨other, plain⟩ := List.forall_mem_cons.mp plain
      cases before with
      | nil =>
          obtain ⟨d, more, rfl⟩ := List.exists_cons_of_ne_nil isRun.filled
          obtain ⟨rfl, -⟩ := List.cons.inj whole
          exact absurd List.mem_cons_self (isRun.not_mem other)
      | cons d before =>
          obtain ⟨rfl, tail⟩ := List.cons.inj whole
          obtain ⟨rest, rfl, same⟩ := ih plain tail
          exact ⟨rest, rfl, same⟩

-----------------------------------------------------------------------------------------
-- Escaped texts
-----------------------------------------------------------------------------------------

theorem endsWith_escapeCommas (c : Char) (text : List Char)
    : endsWith c (escapeCommas text) = endsWith c text := by
  rcases List.eq_nil_or_concat' text with rfl | ⟨front, last, rfl⟩
  · rfl
  · have kept : ∃ before, escapeCommas [last] = before ++ [last] := by
      by_cases comma : last = ','
      · exact ⟨['\\'], by rw [comma]; rfl⟩
      · exact ⟨[], escapeCommas_cons_of_ne comma []⟩
    obtain ⟨before, kept⟩ := kept
    rw [escapeCommas_append, kept, ← List.append_assoc,
      Text.endsWith_append_cons, Text.endsWith_append_cons]

theorem endsWith_joinCommas {c : Char} (comma : c ≠ ',') {pieces : List (List Char)}
    (none : ∀ piece ∈ pieces, endsWith c piece = false)
    : endsWith c (joinCommas pieces) = false := by
  match pieces with
  | [] => rfl
  | [piece] => simpa [joinCommas, endsWith_escapeCommas] using none
  | piece :: next :: rest =>
      rw [joinCommas_cons_cons, Text.endsWith_append_cons,
        Text.endsWith_cons_of_ne (Ne.symm comma)]
      exact endsWith_joinCommas comma (List.forall_mem_cons.mp none).2

theorem beginsWith_escapeCommas {c : Char} (comma : c ≠ ',') (escape : c ≠ '\\')
    (text : List Char)
    : beginsWith c (escapeCommas text) = beginsWith c text := by
  cases text with
  | nil => rfl
  | cons d text =>
      by_cases same : d = ','
      · simp [escapeCommas, same, Ne.symm comma, Ne.symm escape]
      · rw [escapeCommas_cons_of_ne same]
        rfl

theorem run_prefix_of_escapeCommas {text run after : List Char}
    (signed : ∀ c ∈ run, c ∈ signs) (whole : escapeCommas text = run ++ after)
    : ∃ rest, text = run ++ rest ∧ after = escapeCommas rest := by
  induction run generalizing text with
  | nil => exact ⟨text, rfl, whole.symm⟩
  | cons c run ih =>
      obtain ⟨sign, later⟩ := List.forall_mem_cons.mp signed
      cases text with
      | nil => cases whole
      | cons d text =>
          by_cases comma : d = ','
          · subst comma
            obtain ⟨rfl, -⟩ := List.cons.inj whole
            exact absurd sign (by decide)
          · rw [escapeCommas_cons_of_ne comma] at whole
            obtain ⟨rfl, tail⟩ := List.cons.inj whole
            obtain ⟨rest, rfl, same⟩ := ih later tail
            exact ⟨rest, rfl, same⟩

/-- The runs of an escaped text are those of the text itself. -/
theorem run_of_escapeCommas {text run before after : List Char} (isRun : IsRun run)
    (whole : escapeCommas text = before ++ (run ++ after))
    : ∃ left right, text = left ++ (run ++ right)
      ∧ before = escapeCommas left ∧ after = escapeCommas right := by
  induction text generalizing before with
  | nil =>
      obtain ⟨-, rest⟩ := List.append_eq_nil_iff.mp whole.symm
      exact absurd (List.append_eq_nil_iff.mp rest).1 isRun.filled
  | cons c text ih =>
      cases before with
      | nil =>
          obtain ⟨rest, same, tail⟩ := run_prefix_of_escapeCommas isRun.signed whole
          exact ⟨[], rest, same, rfl, tail⟩
      | cons d before =>
          by_cases comma : c = ','
          · rw [comma, escapeCommas_comma] at whole
            obtain ⟨first, tail⟩ := List.cons.inj whole
            cases before with
            | nil =>
                obtain ⟨e, more, rfl⟩ := List.exists_cons_of_ne_nil isRun.filled
                obtain ⟨rfl, -⟩ := List.cons.inj tail
                exact absurd List.mem_cons_self (isRun.not_mem (by decide))
            | cons e before =>
                obtain ⟨second, later⟩ := List.cons.inj tail
                obtain ⟨left, right, rfl, rfl, same⟩ := ih later
                refine ⟨',' :: left, right, by rw [comma, List.cons_append], ?_, same⟩
                rw [escapeCommas_comma, first, second]
          · rw [escapeCommas_cons_of_ne comma] at whole
            obtain ⟨rfl, tail⟩ := List.cons.inj whole
            obtain ⟨left, right, rfl, rfl, same⟩ := ih tail
            exact ⟨c :: left, right, rfl, (escapeCommas_cons_of_ne comma left).symm, same⟩

-----------------------------------------------------------------------------------------
-- Texts written anew
-----------------------------------------------------------------------------------------

/-- Every run of signs in a text stands in an earlier one, where it is no less of a place to cut:
a backslash before it and a slash after it are kept, and no slash comes before it.
-/
def Follows (text past : List Char) : Prop :=
  ∀ run, IsRun run → ∀ left right, text = left ++ (run ++ right)
    → ∃ before after, past = before ++ (run ++ after)
      ∧ (endsWith '\\' before = true → endsWith '\\' left = true)
      ∧ (beginsWith '/' after = true → beginsWith '/' right = true)
      ∧ (endsWith '/' left = true → endsWith '/' before = true)

namespace Follows

variable {text past left right : List Char}

theorem refl (text : List Char) : Follows text text :=
  fun _ _ left right whole => ⟨left, right, whole, id, id, id⟩

theorem of_no_signs (plain : ∀ c ∈ text, c ∉ signs) (past : List Char) : Follows text past := by
  intro run isRun left right whole
  obtain ⟨rest, -, none⟩ := run_after plain isRun ((List.append_nil text).trans whole)
  obtain ⟨-, none⟩ := List.append_eq_nil_iff.mp none.symm
  exact absurd (List.append_eq_nil_iff.mp none).1 isRun.filled

theorem mem (follows : Follows text past) {c : Char} (sign : c ∈ signs) (member : c ∈ text)
    : c ∈ past := by
  obtain ⟨left, right, whole⟩ := List.append_of_mem member
  obtain ⟨before, after, rfl, -⟩ := follows [c] (IsRun.singleton sign) left right whole
  simp

theorem trans {first second third : List Char} (one : Follows first second)
    (two : Follows second third)
    : Follows first third := by
  intro run isRun left right whole
  obtain ⟨before, after, between, escaped, anchored, slashed⟩ := one run isRun left right whole
  obtain ⟨front, back, past, escaped', anchored', slashed'⟩ := two run isRun before after between
  exact ⟨front, back, past, fun last => escaped (escaped' last),
    fun first => anchored (anchored' first), fun last => slashed' (slashed last)⟩

theorem escape (follows : Follows text past)
    : Follows (escapeCommas text) (escapeCommas past) := by
  intro run isRun left right whole
  obtain ⟨left, right, same, rfl, rfl⟩ := run_of_escapeCommas isRun whole
  obtain ⟨before, after, rfl, escaped, anchored, slashed⟩ := follows run isRun left right same
  have kept : escapeCommas run = run := escapeCommas_eq_self (isRun.not_mem (by decide))
  refine ⟨escapeCommas before, escapeCommas after, ?_, ?_, ?_, ?_⟩
  · rw [escapeCommas_append, escapeCommas_append, kept]
  · rwa [endsWith_escapeCommas, endsWith_escapeCommas]
  · rwa [beginsWith_escapeCommas (by decide) (by decide),
      beginsWith_escapeCommas (by decide) (by decide)]
  · rwa [endsWith_escapeCommas, endsWith_escapeCommas]

theorem append (one : Follows left past) (two : Follows right past)
    : Follows (left ++ ',' :: right) past := by
  intro run isRun before after whole
  rcases run_cases (by decide) isRun whole with ⟨rest, same, rfl⟩ | ⟨rest, rfl, same⟩
  · rw [Text.beginsWith_append_cons_of_ne (by decide)]
    exact one run isRun before rest same
  · rw [Text.endsWith_append_cons, Text.endsWith_append_cons,
      Text.endsWith_cons_of_ne (by decide), Text.endsWith_cons_of_ne (by decide)]
    exact two run isRun rest after same

theorem in_left (left right : List Char) : Follows left (left ++ ',' :: right) := by
  rintro run - before after rfl
  refine ⟨before, after ++ ',' :: right, by simp only [List.append_assoc], id, ?_, id⟩
  rw [Text.beginsWith_append_cons_of_ne (by decide)]
  exact id

theorem in_right (left right : List Char) : Follows right (left ++ ',' :: right) := by
  rintro run - before after rfl
  refine ⟨left ++ ',' :: before, after, by simp only [List.append_assoc, List.cons_append],
    ?_, id, ?_⟩
  · rw [Text.endsWith_append_cons, Text.endsWith_cons_of_ne (by decide)]
    exact id
  · rw [Text.endsWith_append_cons, Text.endsWith_cons_of_ne (by decide)]
    exact id

theorem joined {pieces : List (List Char)}
    (all : ∀ piece ∈ pieces, Follows (escapeCommas piece) past)
    : Follows (joinCommas pieces) past := by
  match pieces with
  | [] => exact of_no_signs (by simp [joinCommas]) past
  | [piece] => simpa [joinCommas] using all piece List.mem_cons_self
  | piece :: next :: rest =>
      obtain ⟨own, later⟩ := List.forall_mem_cons.mp all
      rw [joinCommas_cons_cons]
      exact append own (joined later)

theorem in_joined {piece : List Char} {pieces : List (List Char)} (member : piece ∈ pieces)
    : Follows (escapeCommas piece) (joinCommas pieces) := by
  match pieces with
  | [only] =>
      obtain rfl := List.mem_singleton.mp member
      simpa [joinCommas] using refl (escapeCommas piece)
  | first :: next :: rest =>
      rw [joinCommas_cons_cons]
      rcases List.mem_cons.mp member with rfl | later
      · exact in_left _ _
      · exact (in_joined later).trans (in_right _ _)

end Follows

/-- The value that is read from a piece stands there between characters that are no matter. -/
theorem follows_of_readModifier {piece : List Char} {modifier : Modifier}
    (read : readModifier (Text.trim piece) = .ok modifier)
    : Follows modifier.plainChars piece := by
  obtain ⟨known, values⟩ := readModifier_eq_ok read
  have plain : ∀ c ∈ modifier.headChars, c ∉ signs := by
    intro c member sign
    exact Modifier.not_mem_headChars known (signs_not_mem_nameChars c sign) member
  cases given : modifier.value with
  | none =>
      have bare : modifier.plainChars = modifier.headChars := by
        simp [Modifier.plainChars, Modifier.valueChars, given]
      rw [bare]
      exact Follows.of_no_signs plain piece
  | some value =>
      obtain ⟨-, before, after, rfl, unescaped, blank⟩ := values value given
      have whole : modifier.plainChars = (modifier.headChars ++ ['=']) ++ value.toList := by
        simp [Modifier.plainChars, Modifier.valueChars, given]
      have signless : ∀ c ∈ modifier.headChars ++ ['='], c ∉ signs := by
        rw [List.forall_mem_append, List.forall_mem_singleton]
        exact ⟨plain, by decide⟩
      intro run isRun left right split
      rw [whole] at split
      obtain ⟨rest, rfl, inner⟩ := run_after signless isRun split
      refine ⟨before ++ rest, right ++ after, by simp only [inner, List.append_assoc], ?_, ?_, ?_⟩
      · intro escaped
        rcases List.eq_nil_or_concat' rest with rfl | ⟨front, last, rfl⟩
        · rw [List.append_nil, Text.endsWith_iff] at escaped
          exact absurd (List.mem_of_getLast? escaped) unescaped
        · rw [← List.append_assoc, Text.endsWith_append_cons] at escaped ⊢
          exact escaped
      · intro anchored
        cases right with
        | nil =>
            rw [List.nil_append, Text.beginsWith_iff] at anchored
            cases blank _ (List.mem_of_mem_head? anchored)
        | cons c right => exact anchored
      · intro slashed
        rcases List.eq_nil_or_concat' rest with rfl | ⟨front, last, rfl⟩
        · rw [List.append_nil, Text.endsWith_append_cons] at slashed
          cases slashed
        · rw [← List.append_assoc, Text.endsWith_append_cons] at slashed ⊢
          exact slashed

/-- Modifiers written anew follow the text that they were read from. -/
theorem follows_of_readModifiers {options : List Char} {modifiers : List Modifier}
    (read : readModifiers options = .ok modifiers)
    : Follows (joinCommas (modifiers.map Modifier.plainChars)) options := by
  rw [← joinCommas_splitCommas options]
  apply Follows.joined
  rw [List.forall_mem_map]
  intro modifier member
  obtain ⟨piece, listed, own⟩ := exists_piece_of_readModifiers read member
  exact (follows_of_readModifier own).escape.trans (Follows.in_joined listed)

end Blocklist.Line
