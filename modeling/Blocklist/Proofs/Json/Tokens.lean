import Blocklist.Json.Document
import Mathlib.Data.List.TakeDrop

/-! Tokens read back. Scanning a quoted text gives the text, and scanning the digits of a
number gives the number, whatever follows a string and whatever may follow a number.
-/

namespace Blocklist.Json

-----------------------------------------------------------------------------------------
-- Strings
-----------------------------------------------------------------------------------------

/-- The three ways to write a character: by an escape of one letter, by its code, or as it is. -/
theorem escapeChar_cases (c : Char)
    : (∃ e, letterEscape? e = some c ∧ escapeChar c = ['\\', e])
      ∨ (c.toNat < 32 ∧ escapeChar c
          = ['\\', 'u', '0', '0', Nat.digitChar (c.toNat / 16), Nat.digitChar (c.toNat % 16)])
      ∨ (c ≠ '"' ∧ c ≠ '\\' ∧ ¬ c.toNat < 32 ∧ escapeChar c = [c]) := by
  rw [escapeChar]
  split_ifs with quote backslash backspace feed newline ret tab control
  · exact Or.inl ⟨'"', by rw [quote]; rfl, rfl⟩
  · exact Or.inl ⟨'\\', by rw [backslash]; rfl, rfl⟩
  · exact Or.inl ⟨'b', by rw [backspace]; rfl, rfl⟩
  · exact Or.inl ⟨'f', by rw [feed]; rfl, rfl⟩
  · exact Or.inl ⟨'n', by rw [newline]; rfl, rfl⟩
  · exact Or.inl ⟨'r', by rw [ret]; rfl, rfl⟩
  · exact Or.inl ⟨'t', by rw [tab]; rfl, rfl⟩
  · exact Or.inr (Or.inl ⟨control, rfl⟩)
  · exact Or.inr (Or.inr ⟨quote, backslash, control, rfl⟩)

/-- The escape of a control character names its code. -/
theorem hexUnit?_control {code : Nat} (control : code < 32)
    : hexUnit? '0' '0' (Nat.digitChar (code / 16)) (Nat.digitChar (code % 16)) = some code := by
  have all : ∀ code < 32,
      hexUnit? '0' '0' (Nat.digitChar (code / 16)) (Nat.digitChar (code % 16)) = some code := by
    decide
  exact all code control

theorem letterEscape?_ne {e c : Char} (known : letterEscape? e = some c) : e ≠ 'u' := by
  rintro rfl
  cases known

theorem readString_escapeChar (c : Char) (text : List Char)
    : readString (escapeChar c ++ text) = (c :: ·) <$> readString text := by
  rcases escapeChar_cases c with
    ⟨e, known, written⟩ | ⟨control, written⟩ | ⟨quote, backslash, control, written⟩
  · rw [written, List.cons_append, List.singleton_append, readString.eq_def]
    simp [letterEscape?_ne known, known]
  · have lead : isLeadUnit c.toNat = false := by
      simp only [isLeadUnit, Bool.and_eq_false_iff, decide_eq_false_iff_not]
      omega
    have trail : isTrailUnit c.toNat = false := by
      simp only [isTrailUnit, Bool.and_eq_false_iff, decide_eq_false_iff_not]
      omega
    rw [written, List.cons_append, readString.eq_def]
    simp [hexUnit?_control control, lead, trail]
  · rw [written, List.singleton_append, readString.eq_def]
    simp [quote, backslash, control]

theorem skipString_escapeChar (c : Char) (text : List Char)
    : skipString (escapeChar c ++ text) = skipString text := by
  rcases escapeChar_cases c with
    ⟨e, known, written⟩ | ⟨control, written⟩ | ⟨quote, backslash, control, written⟩
  · rw [written, List.cons_append, List.singleton_append, skipString.eq_def]
    simp [letterEscape?_ne known, known]
  · rw [written, List.cons_append, skipString.eq_def]
    simp [hexUnit?_control control]
  · rw [written, List.singleton_append, skipString.eq_def]
    simp [quote, backslash, control]

/-- A quoted text is read back and passed over, by induction on its characters. -/
theorem readString_flatMap (text rest : List Char)
    : readString (text.flatMap escapeChar ++ '"' :: rest) = .ok text := by
  induction text with
  | nil =>
      rw [List.flatMap_nil, List.nil_append, readString.eq_def]
      rfl
  | cons c text ih =>
      rw [List.flatMap_cons, List.append_assoc, readString_escapeChar, ih]
      rfl

theorem skipString_flatMap (text rest : List Char)
    : skipString (text.flatMap escapeChar ++ '"' :: rest) = .ok rest := by
  induction text with
  | nil =>
      rw [List.flatMap_nil, List.nil_append, skipString.eq_def]
      rfl
  | cons c text ih =>
      rw [List.flatMap_cons, List.append_assoc, skipString_escapeChar, ih]

theorem quote_append (text : String) (rest : List Char)
    : quote text ++ rest = '"' :: (text.toList.flatMap escapeChar ++ '"' :: rest) := by
  simp [quote]

theorem scanKey_quoted (text : String) (rest : List Char)
    : scanKey (text.toList.flatMap escapeChar ++ '"' :: rest) = (.ok text, .ok rest) := by
  rw [scanKey, readString_flatMap, skipString_flatMap]
  simp [Functor.map, Except.map]

theorem scanString_quoted (text : String) (rest : List Char)
    : scanString (text.toList.flatMap escapeChar ++ '"' :: rest)
      = ⟨.string (.ok text), rest⟩ := by
  rw [scanString, readString_flatMap, skipString_flatMap]
  simp [Functor.map, Except.map]

-----------------------------------------------------------------------------------------
-- Numbers
-----------------------------------------------------------------------------------------

/-- What may follow a value: nothing that could go on with a number. -/
def Ends (rest : List Char) : Prop :=
  ∀ c ∈ rest.head?, c.isDigit = false ∧ c ≠ '.' ∧ c ≠ 'e' ∧ c ≠ 'E'

theorem ends_cons {c : Char} (other : c.isDigit = false ∧ c ≠ '.' ∧ c ≠ 'e' ∧ c ≠ 'E')
    (rest : List Char)
    : Ends (c :: rest) := by
  intro d first
  obtain rfl := Option.some.inj first
  exact other

theorem digitsValue_eq (digits : List Char)
    : digitsValue digits = Nat.ofDigitChars 10 digits 0 := by
  have step : (fun n (c : Char) => n * 10 + (c.toNat - 48))
      = fun n c => 10 * n + (c.toNat - '0'.toNat) := by
    funext n c
    rw [Nat.mul_comm]
    rfl
  rw [digitsValue, Nat.ofDigitChars, step]

theorem digitsValue_toDigits (n : Nat)
    : digitsValue (Nat.toDigits 10 n) = n := by
  rw [digitsValue_eq, Nat.ofDigitChars_ten_toDigits]

theorem isDigit_toDigits {n : Nat} {c : Char} (member : c ∈ Nat.toDigits 10 n)
    : c.isDigit = true :=
  Nat.isDigit_of_mem_toDigits (by decide) (by decide) member

/-- Digits do not begin with a zero unless it stands alone, by strong induction: those of a
number from ten on begin like those of a tenth of it.
-/
theorem toDigits_head (n : Nat)
    : (Nat.toDigits 10 n).head? = some '0' → n = 0 := by
  induction n using Nat.strongRecOn with
  | ind n ih =>
      intro zero
      rcases Nat.lt_or_ge n 10 with small | large
      · rw [Nat.toDigits_of_lt_base small] at zero
        have all : ∀ n < 10, [Nat.digitChar n].head? = some '0' → n = 0 := by decide
        exact all n small zero
      · rw [Nat.toDigits_of_base_le (by decide) large, List.head?_append] at zero
        cases first : (Nat.toDigits 10 (n / 10)).head? with
        | none => exact absurd (List.head?_eq_none_iff.mp first) Nat.toDigits_ne_nil
        | some c =>
            rw [first] at zero
            have tenth := ih (n / 10) (by omega) (first.trans zero)
            omega

/-- The digits of a number are told from what follows them. -/
theorem span_toDigits (n : Nat) {rest : List Char} (ends : Ends rest)
    : (Nat.toDigits 10 n ++ rest).span Char.isDigit = (Nat.toDigits 10 n, rest) := by
  have digits : ∀ c ∈ Nat.toDigits 10 n, c.isDigit = true := fun c => isDigit_toDigits
  have stops : rest.takeWhile Char.isDigit = [] ∧ rest.dropWhile Char.isDigit = rest := by
    cases rest with
    | nil => exact ⟨rfl, rfl⟩
    | cons c rest =>
        obtain ⟨other, -⟩ := ends c rfl
        simp [other]
  rw [List.span_eq_takeWhile_dropWhile, List.takeWhile_append_of_pos digits,
    List.dropWhile_append_of_pos digits, stops.1, stops.2, List.append_nil]

theorem scanFraction_ends (whole : List Char) {rest : List Char} (ends : Ends rest)
    : scanFraction false whole rest
      = ⟨.number (.integer false (digitsValue whole)), rest⟩ := by
  rw [scanFraction]
  · rintro more rfl
    exact (ends '.' rfl).2.1 rfl
  · rintro more rfl
    exact (ends 'e' rfl).2.2.1 rfl
  · rintro more rfl
    exact (ends 'E' rfl).2.2.2 rfl

theorem scanNumber_toDigits (n : Nat) {rest : List Char} (ends : Ends rest)
    : scanNumber false (Nat.toDigits 10 n ++ rest) = ⟨.number (.integer false n), rest⟩ := by
  have filled : (Nat.toDigits 10 n).isEmpty = false := by
    simp [Nat.toDigits_ne_nil]
  have plain : ((Nat.toDigits 10 n).head? == some '0' && decide (1 < (Nat.toDigits 10 n).length))
      = false := by
    by_cases zero : (Nat.toDigits 10 n).head? = some '0'
    · rw [toDigits_head n zero]
      rfl
    · simp [zero]
  rw [scanNumber, span_toDigits n ends]
  simp only [filled, plain, Bool.false_eq_true, if_false]
  rw [scanFraction_ends _ ends, digitsValue_toDigits]

end Blocklist.Json
