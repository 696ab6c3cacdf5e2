import Blocklist.Filter.Line
import Blocklist.Proofs.Text
import Mathlib.Algebra.Group.Nat.Even

/-! Pieces between commas. Joining escaped pieces undoes every split, and a split undoes the
joining of pieces in which each backslash has a partner that is no comma.
-/

namespace Blocklist.Line

open Modifier (escapeCommas)

-----------------------------------------------------------------------------------------
-- Pairs of a backslash and what it stands before
-----------------------------------------------------------------------------------------

/-- Whether every backslash, from left to right, takes a character after it that is no comma.
The last one may do without a character if it may be `loose`.
-/
def isPaired (loose : Bool) : List Char → Bool
  | [] => true
  | [c] => loose || c != '\\'
  | c :: d :: rest =>
    if c = '\\' then d != ',' && isPaired loose rest else isPaired loose (d :: rest)

theorem isPaired_cons {c : Char} (plain : c ≠ '\\') (loose : Bool) (text : List Char)
    : isPaired loose (c :: text) = isPaired loose text := by
  cases text with
  | nil => simp [isPaired, plain]
  | cons d text => rw [isPaired, if_neg plain]

theorem isPaired_of_plain {text : List Char} (plain : '\\' ∉ text)
    : isPaired false text = true := by
  induction text with
  | nil => rfl
  | cons c text ih =>
      rw [List.mem_cons, not_or] at plain
      rw [isPaired_cons (Ne.symm plain.1), ih plain.2]

/-- After pairs without a loose backslash, what follows decides. -/
theorem isPaired_append {left : List Char} (closed : isPaired false left = true) (loose : Bool)
    (right : List Char)
    : isPaired loose (left ++ right) = isPaired loose right := by
  fun_induction isPaired false left with
  | case1 => rfl
  | case2 c => exact isPaired_cons (by simpa using closed) loose right
  | case3 d rest ih =>
      rw [Bool.and_eq_true] at closed
      simp only [List.cons_append, isPaired, if_true, closed.1, Bool.true_and, ih closed.2]
  | case4 c d rest plain ih => rw [List.cons_append, isPaired_cons plain, ih closed]

/-- The start of a text with pairs has pairs as well, the last of which may be cut. -/
theorem isPaired_left {loose : Bool} {left right : List Char}
    (paired : isPaired loose (left ++ right) = true)
    : isPaired true left = true := by
  fun_induction isPaired true left with
  | case1 => rfl
  | case2 c => rfl
  | case3 d rest ih =>
      simp only [List.cons_append, isPaired, if_true, Bool.and_eq_true] at paired
      rw [paired.1, ih paired.2]
      rfl
  | case4 c d rest plain ih =>
      rw [List.cons_append, isPaired_cons plain] at paired
      exact ih paired

/-- A text with pairs has no loose backslash, or ends with its only one. -/
theorem isPaired_cases {text : List Char} (paired : isPaired true text = true)
    : isPaired false text = true
      ∨ ∃ front, text = front ++ ['\\'] ∧ isPaired false front = true := by
  fun_induction isPaired true text with
  | case1 => exact Or.inl rfl
  | case2 c =>
      by_cases plain : c = '\\'
      · exact Or.inr ⟨[], by rw [plain]; rfl, rfl⟩
      · exact Or.inl (by simp [isPaired, plain])
  | case3 d rest ih =>
      rw [Bool.and_eq_true] at paired
      rcases ih paired.2 with closed | ⟨front, rfl, closed⟩
      · exact Or.inl (by simp only [isPaired, if_true, paired.1, closed, Bool.and_true])
      · refine Or.inr ⟨'\\' :: d :: front, rfl, ?_⟩
        simp only [isPaired, if_true, paired.1, closed, Bool.and_true]
  | case4 c d rest plain ih =>
      rcases ih paired with closed | ⟨front, same, closed⟩
      · exact Or.inl (by rwa [isPaired_cons plain])
      · exact Or.inr ⟨c :: front, by rw [same, List.cons_append], by rwa [isPaired_cons plain]⟩

-----------------------------------------------------------------------------------------
-- Runs of backslashes
-----------------------------------------------------------------------------------------

/-- Every maximal run of backslashes whose rest is as given has an even length. -/
def EvenRuns (stops : List Char → Prop) (text : List Char) : Prop :=
  ∀ left count right, text = left ++ (List.replicate count '\\' ++ right)
    → Text.endsWith '\\' left = false → stops right → Even count

/-- Where a run of backslashes matters: before a comma, and at the end if it has one. -/
def RunEnd (loose : Bool) (rest : List Char) : Prop :=
  Text.beginsWith ',' rest = true ∨ (loose = false ∧ rest = [])

theorem evenRuns_nil (stops : List Char → Prop) : EvenRuns stops [] := by
  intro left count right split _ _
  obtain ⟨-, rest⟩ := List.append_eq_nil_iff.mp split.symm
  obtain ⟨none, -⟩ := List.append_eq_nil_iff.mp rest
  cases count with
  | zero => exact Even.zero
  | succ count => cases none

theorem evenRuns_cons {stops : List Char → Prop} {c : Char} {text : List Char}
    (plain : c ≠ '\\')
    : EvenRuns stops (c :: text) ↔ EvenRuns stops text := by
  constructor
  · intro even left count right split ends stop
    refine even (c :: left) count right (by rw [split, List.cons_append]) ?_ stop
    rwa [Text.endsWith_cons_of_ne plain]
  · intro even left count right split ends stop
    cases left with
    | nil =>
        cases count with
        | zero => exact Even.zero
        | succ count => exact absurd (List.cons.inj split).1 plain
    | cons d left =>
        obtain ⟨rfl, rest⟩ := List.cons.inj split
        exact even left count right rest (by rwa [Text.endsWith_cons_of_ne plain] at ends) stop

/-- A backslash and its partner change no run but the one they begin, and that by two. -/
theorem evenRuns_pair {stops : List Char → Prop} {d : Char} {text : List Char}
    (inside : ¬stops (d :: text))
    : EvenRuns stops ('\\' :: d :: text) ↔ EvenRuns stops text := by
  constructor
  · intro even left count right split ends stop
    subst split
    by_cases joined : left = [] ∧ d = '\\'
    · obtain ⟨rfl, rfl⟩ := joined
      have longer := even [] (count + 2) right rfl rfl stop
      rw [Nat.even_iff] at longer ⊢
      omega
    · refine even ('\\' :: d :: left) count right rfl ?_ stop
      cases left with
      | nil => simpa [Text.endsWith] using joined
      | cons e left => simpa [Text.endsWith] using ends
  · intro even left count right split ends stop
    cases left with
    | nil =>
        cases count with
        | zero => exact Even.zero
        | succ count =>
            cases count with
            | zero =>
                obtain ⟨-, rest⟩ := List.cons.inj split
                exact absurd (show stops (d :: text) from rest ▸ stop) inside
            | succ count =>
                obtain ⟨-, rest⟩ := List.cons.inj (List.cons.inj split).2
                have shorter := even [] count right rest rfl stop
                rw [Nat.even_iff] at shorter ⊢
                omega
    | cons e left =>
        cases left with
        | nil =>
            obtain ⟨rfl, -⟩ := List.cons.inj split
            cases ends
        | cons f left =>
            obtain ⟨-, rest⟩ := List.cons.inj (List.cons.inj split).2
            refine even left count right rest ?_ stop
            by_contra last
            rw [Bool.not_eq_false] at last
            rw [Text.endsWith_of_cons (Text.endsWith_of_cons last)] at ends
            cases ends

/-- Pairs are what even runs come down to, where a run matters. -/
theorem isPaired_iff_evenRuns (loose : Bool) (text : List Char)
    : isPaired loose text = true ↔ EvenRuns (RunEnd loose) text := by
  fun_induction isPaired loose text with
  | case1 => exact iff_of_true rfl (evenRuns_nil _)
  | case2 c =>
      by_cases plain : c = '\\'
      · subst plain
        cases loose with
        | false =>
            refine iff_of_false (by decide) ?_
            intro even
            exact Nat.not_even_one (even [] 1 [] rfl rfl (Or.inr ⟨rfl, rfl⟩))
        | true =>
            refine iff_of_true rfl ?_
            intro left count right split _ stop
            rcases stop with comma | ⟨other, -⟩
            · have member : ',' ∈ right :=
                List.mem_of_mem_head? (Text.beginsWith_iff.mp comma)
              have listed : ',' ∈ ['\\'] := by
                rw [split]
                exact List.mem_append_right _ (List.mem_append_right _ member)
              exact absurd listed (by decide)
            · cases other
      · rw [evenRuns_cons plain]
        exact iff_of_true (by simp [plain]) (evenRuns_nil _)
  | case3 d rest ih =>
      by_cases comma : d = ','
      · subst comma
        refine iff_of_false (by simp) ?_
        intro even
        exact Nat.not_even_one (even [] 1 (',' :: rest) rfl rfl (Or.inl rfl))
      · rw [evenRuns_pair (by simp [RunEnd, comma]), ← ih]
        simp [comma]
  | case4 c d rest plain ih => rw [ih, evenRuns_cons plain]

/-- With pairs, the run at the end decides whether a backslash is loose. -/
theorem isPaired_iff_evenRuns_end {text : List Char} (paired : isPaired true text = true)
    : isPaired false text = true ↔ EvenRuns (· = []) text := by
  rw [isPaired_iff_evenRuns] at paired ⊢
  constructor
  · intro even left count right split ends stop
    exact even left count right split ends (Or.inr ⟨rfl, stop⟩)
  · intro even left count right split ends stop
    rcases stop with comma | ⟨-, none⟩
    · exact paired left count right split ends (Or.inl comma)
    · exact even left count right split ends none

-----------------------------------------------------------------------------------------
-- Joining and splitting
-----------------------------------------------------------------------------------------

/-- Escaped pieces with commas between them. -/
def joinCommas : List (List Char) → List Char
  | [] => []
  | piece :: rest => escapeCommas piece ++ rest.flatMap (',' :: escapeCommas ·)

theorem escapeCommas_append (left right : List Char)
    : escapeCommas (left ++ right) = escapeCommas left ++ escapeCommas right :=
  List.flatMap_append

theorem escapeCommas_comma (text : List Char)
    : escapeCommas (',' :: text) = '\\' :: ',' :: escapeCommas text := rfl

theorem escapeCommas_cons_of_ne {c : Char} (plain : c ≠ ',') (text : List Char)
    : escapeCommas (c :: text) = c :: escapeCommas text := by
  simp [escapeCommas, plain]

theorem mem_of_mem_escapeCommas {c : Char} (plain : c ≠ '\\') {text : List Char}
    (member : c ∈ escapeCommas text)
    : c ∈ text := by
  obtain ⟨d, listed, inside⟩ := List.mem_flatMap.mp member
  split at inside
  · rename_i comma
    rw [List.mem_cons, List.mem_singleton] at inside
    rwa [inside.resolve_left plain, ← comma]
  · rwa [List.mem_singleton.mp inside]

theorem escapeCommas_eq_self {text : List Char} (absent : ',' ∉ text)
    : escapeCommas text = text := by
  induction text with
  | nil => rfl
  | cons c text ih =>
      rw [List.mem_cons, not_or] at absent
      rw [escapeCommas_cons_of_ne (Ne.symm absent.1), ih absent.2]

theorem extendFirst_extendFirst (start more : List Char) (pieces : List (List Char))
    : extendFirst start (extendFirst more pieces) = extendFirst (start ++ more) pieces := by
  cases pieces with
  | nil => rfl
  | cons piece pieces => rw [extendFirst, extendFirst, extendFirst, List.append_assoc]

theorem splitCommas_ne_nil (text : List Char) : splitCommas text ≠ [] := by
  fun_cases splitCommas text with
  | case1 => exact List.cons_ne_nil _ _
  | case2 => exact List.cons_ne_nil _ _
  | case3 => exact List.cons_ne_nil _ _
  | case4 d rest => cases splitCommas rest <;> exact List.cons_ne_nil _ _
  | case5 => exact List.cons_ne_nil _ _
  | case6 c d rest => cases splitCommas (d :: rest) <;> exact List.cons_ne_nil _ _

theorem extendFirst_nil {pieces : List (List Char)} (filled : pieces ≠ [])
    : extendFirst [] pieces = pieces := by
  cases pieces with
  | nil => exact absurd rfl filled
  | cons piece pieces => rfl

theorem length_extendFirst {pieces : List (List Char)} (filled : pieces ≠ [])
    (start : List Char)
    : (extendFirst start pieces).length = pieces.length := by
  cases pieces with
  | nil => exact absurd rfl filled
  | cons piece pieces => rfl

theorem splitCommas_comma (text : List Char)
    : splitCommas (',' :: text) = [] :: splitCommas text := by
  cases text with
  | nil => rfl
  | cons d text => simp [splitCommas]

theorem splitCommas_plain {c : Char} (plain : c ≠ '\\') (comma : c ≠ ',') (text : List Char)
    : splitCommas (c :: text) = extendFirst [c] (splitCommas text) := by
  cases text with
  | nil => simp [splitCommas, comma, extendFirst]
  | cons d text => simp [splitCommas, plain, comma]

/-- A character that is no backslash stays in its piece, a comma because it is escaped. -/
theorem splitCommas_escaped {c : Char} (plain : c ≠ '\\') (text : List Char)
    : splitCommas (escapeCommas [c] ++ text) = extendFirst [c] (splitCommas text) := by
  by_cases comma : c = ','
  · subst comma
    simp [escapeCommas, splitCommas]
  · rw [escapeCommas_eq_self (by simpa using Ne.symm comma)]
    exact splitCommas_plain plain comma text

/-- A piece with pairs begins what the rest is split into. -/
theorem splitCommas_append {piece : List Char} (paired : isPaired false piece = true)
    (rest : List Char)
    : splitCommas (escapeCommas piece ++ rest) = extendFirst piece (splitCommas rest) := by
  fun_induction isPaired false piece with
  | case1 => exact (extendFirst_nil (splitCommas_ne_nil rest)).symm
  | case2 c => exact splitCommas_escaped (by simpa using paired) rest
  | case3 d text ih =>
      rw [Bool.and_eq_true, bne_iff_ne] at paired
      rw [escapeCommas_cons_of_ne (by decide), escapeCommas_cons_of_ne paired.1,
        List.cons_append, List.cons_append, splitCommas, if_pos rfl, if_neg paired.1, ih paired.2,
        extendFirst_extendFirst]
      rfl
  | case4 c d text plain ih =>
      rw [← List.singleton_append, escapeCommas_append, List.append_assoc,
        splitCommas_escaped plain, ih paired, extendFirst_extendFirst]

theorem splitCommas_last {piece : List Char} (paired : isPaired true piece = true)
    : splitCommas (escapeCommas piece) = [piece] := by
  rcases isPaired_cases paired with closed | ⟨front, rfl, closed⟩
  · have split := splitCommas_append closed []
    rw [List.append_nil] at split
    rw [split, splitCommas, extendFirst, List.append_nil]
  · rw [escapeCommas_append, splitCommas_append closed]
    rfl

theorem joinCommas_cons_cons (piece next : List Char) (rest : List (List Char))
    : joinCommas (piece :: next :: rest)
      = escapeCommas piece ++ ',' :: joinCommas (next :: rest) := by
  simp [joinCommas]

theorem exists_mem_of_mem_joinCommas {c : Char} (plain : c ≠ '\\') (comma : c ≠ ',')
    {pieces : List (List Char)} (member : c ∈ joinCommas pieces)
    : ∃ piece ∈ pieces, c ∈ piece := by
  cases pieces with
  | nil => cases member
  | cons piece rest =>
      rcases List.mem_append.mp member with own | later
      · exact ⟨piece, List.mem_cons_self, mem_of_mem_escapeCommas plain own⟩
      · obtain ⟨other, listed, inside⟩ := List.mem_flatMap.mp later
        refine ⟨other, List.mem_cons_of_mem piece listed, mem_of_mem_escapeCommas plain ?_⟩
        exact (List.mem_cons.mp inside).resolve_left comma

/-- Splitting finds as many pieces as were joined, less those whose loose backslash swallows the
comma after them.
-/
theorem length_splitCommas_joinCommas {piece : List Char} {pieces : List (List Char)}
    (paired : ∀ other ∈ piece :: pieces, isPaired true other = true)
    : (splitCommas (joinCommas (piece :: pieces))).length
        + (piece :: pieces).dropLast.countP (!isPaired false ·)
      = (piece :: pieces).length := by
  induction pieces generalizing piece with
  | nil => simp [joinCommas, splitCommas_last (paired piece List.mem_cons_self)]
  | cons next pieces ih =>
      obtain ⟨own, later⟩ := List.forall_mem_cons.mp paired
      have rest := ih later
      rw [joinCommas_cons_cons, List.dropLast_cons_cons, List.countP_cons, List.length_cons]
      rcases isPaired_cases own with closed | ⟨front, rfl, closed⟩
      · rw [splitCommas_append closed, splitCommas_comma, extendFirst, List.length_cons, closed]
        simp only [Bool.not_true, Bool.false_eq_true, if_false]
        omega
      · have swallowed (more : List Char)
            : splitCommas (escapeCommas (front ++ ['\\']) ++ ',' :: more)
              = extendFirst front (extendFirst [','] (splitCommas more)) := by
          rw [escapeCommas_append, List.append_assoc, splitCommas_append closed]
          rfl
        have loose : isPaired false (front ++ ['\\']) = false := isPaired_append closed false _
        rw [swallowed, extendFirst_extendFirst, length_extendFirst (splitCommas_ne_nil _), loose]
        simp only [Bool.not_false, if_true]
        omega

/-- Splitting gives back the pieces that were joined, if no comma between them is swallowed. -/
theorem splitCommas_joinCommas {piece : List Char} {pieces : List (List Char)}
    (closed : ∀ other ∈ (piece :: pieces).dropLast, isPaired false other = true)
    (paired : ∀ other ∈ piece :: pieces, isPaired true other = true)
    : splitCommas (joinCommas (piece :: pieces)) = piece :: pieces := by
  induction pieces generalizing piece with
  | nil => simpa [joinCommas] using splitCommas_last (paired piece List.mem_cons_self)
  | cons next pieces ih =>
      rw [List.dropLast_cons_cons] at closed
      obtain ⟨own, closed⟩ := List.forall_mem_cons.mp closed
      rw [joinCommas_cons_cons, splitCommas_append own, splitCommas_comma,
        ih closed (List.forall_mem_cons.mp paired).2, extendFirst, List.append_nil]

theorem joinCommas_extendFirst (start : List Char) (pieces : List (List Char))
    : joinCommas (extendFirst start pieces) = escapeCommas start ++ joinCommas pieces := by
  cases pieces with
  | nil => simp [extendFirst, joinCommas]
  | cons piece pieces =>
      rw [extendFirst, joinCommas, joinCommas, escapeCommas_append, List.append_assoc]

/-- Joining the pieces of a text gives back the text. -/
theorem joinCommas_splitCommas (text : List Char) : joinCommas (splitCommas text) = text := by
  fun_induction splitCommas text with
  | case1 => rfl
  | case2 => rfl
  | case3 c plain => simp [joinCommas, escapeCommas_eq_self, Ne.symm plain]
  | case4 d rest ih =>
      rw [joinCommas_extendFirst, ih]
      by_cases comma : d = ','
      · simp [comma, escapeCommas]
      · simp [comma, escapeCommas]
  | case5 d rest _ ih =>
      obtain ⟨piece, pieces, split⟩ :=
        List.exists_cons_of_ne_nil (splitCommas_ne_nil (d :: rest))
      rw [split] at ih ⊢
      rw [joinCommas_cons_cons, ih]
      rfl
  | case6 c d rest plain comma ih =>
      rw [joinCommas_extendFirst, ih, escapeCommas_eq_self (by simpa using Ne.symm comma)]
      rfl

theorem forall_mem_extendFirst {p : List Char → Prop} {start : List Char}
    {pieces : List (List Char)} (filled : pieces ≠ []) (all : ∀ piece ∈ pieces, p piece)
    (carried : ∀ piece, p piece → p (start ++ piece))
    : ∀ piece ∈ extendFirst start pieces, p piece := by
  cases pieces with
  | nil => exact absurd rfl filled
  | cons piece pieces =>
      obtain ⟨own, later⟩ := List.forall_mem_cons.mp all
      exact List.forall_mem_cons.mpr ⟨carried piece own, later⟩

/-- The backslashes of a piece are in pairs, since one before a comma is taken away. -/
theorem splitCommas_paired (text : List Char)
    : ∀ piece ∈ splitCommas text, isPaired true piece = true := by
  fun_induction splitCommas text with
  | case1 => simp [isPaired]
  | case2 => simp [isPaired]
  | case3 c plain => simp [isPaired]
  | case4 d rest ih =>
      refine forall_mem_extendFirst (splitCommas_ne_nil rest) ih ?_
      intro piece paired
      by_cases comma : d = ','
      · rw [if_pos comma, comma]
        exact (isPaired_cons (by decide) true piece).trans paired
      · rw [if_neg comma]
        simp [isPaired, comma, paired]
  | case5 d rest _ ih => exact List.forall_mem_cons.mpr ⟨rfl, ih⟩
  | case6 c d rest plain comma ih =>
      refine forall_mem_extendFirst (splitCommas_ne_nil _) ih ?_
      intro piece paired
      exact (isPaired_cons plain true piece).trans paired

end Blocklist.Line
