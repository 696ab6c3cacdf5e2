import Mathlib
import Blocklist.Host.Punycode

/-! What an encoded label is written with. Lowercasing makes characters of labels of such
characters, and Punycode writes these with letters, digits and hyphens of ASCII only.
-/

namespace Blocklist.Host

/-- An ASCII letter, a digit or a hyphen. -/
def isPlain (c : Char) : Bool :=
  c.isAlphanum || c == '-'

theorem isBasic_of_isPlain {c : Char} (plain : isPlain c = true) : isBasic c = true := by
  simp only [isPlain, Char.isAlphanum, Char.isAlpha, Char.isUpper, Char.isLower, Char.isDigit,
    Bool.or_eq_true, Bool.and_eq_true, decide_eq_true_eq, beq_iff_eq, UInt32.le_iff_toNat_le]
    at plain
  refine decide_eq_true ?_
  rcases plain with ((⟨-, upper⟩ | ⟨-, lower⟩) | ⟨-, digit⟩) | rfl
  · exact Nat.lt_of_le_of_lt upper (by decide)
  · exact Nat.lt_of_le_of_lt lower (by decide)
  · exact Nat.lt_of_le_of_lt digit (by decide)
  · decide

theorem isPlain_iff {c : Char}
    : isPlain c = true ↔ isBasic c = true ∧ isLabelChar c = true := by
  rw [isLabelChar, Bool.or_assoc, ← isPlain]
  cases plain : isPlain c with
  | true => simp [isBasic_of_isPlain plain]
  | false => simp

-----------------------------------------------------------------------------------------
-- Lowercasing
-----------------------------------------------------------------------------------------

/-- A run of the lowercase table leads to characters of labels: to a single one, or to scalar
values outside ASCII.
-/
def runKeepsLabels : Nat × Nat × Nat × Nat → Bool
  | (first, last, _, image) =>
    (first == last && isLabelChar (Char.ofNat image))
      || (128 ≤ image
        && (image + (last - first) < 0xD800
          || (0xDFFF < image && image + (last - first) < 0x110000)))

theorem lowercaseRuns_keep_labels : Text.lowercaseRuns.all runKeepsLabels = true := by
  decide

theorem isLabelChar_of_extended {c : Char} (extended : isBasic c = false)
    : isLabelChar c = true := by
  rw [isLabelChar, extended]
  rfl

theorem isBasic_ofNat_of_le {n : Nat} (valid : n.isValidChar) (large : 128 ≤ n)
    : isBasic (Char.ofNat n) = false := by
  rw [isBasic, Char.toNat_ofNat, if_pos valid]
  exact decide_eq_false (Nat.not_lt.mpr large)

theorem isLabelChar_runImage? {run : Nat × Nat × Nat × Nat} (keeps : runKeepsLabels run = true)
    {n m : Nat} (found : Text.runImage? n run = some m)
    : isLabelChar (Char.ofNat m) = true := by
  obtain ⟨first, last, step, image⟩ := run
  simp only [Text.runImage?, Option.ite_none_right_eq_some, Bool.and_eq_true, decide_eq_true_eq,
    Option.some.injEq] at found
  obtain ⟨⟨⟨low, high⟩, -⟩, rfl⟩ := found
  simp only [runKeepsLabels, Bool.or_eq_true, Bool.and_eq_true, decide_eq_true_eq, beq_iff_eq]
    at keeps
  rcases keeps with ⟨rfl, own⟩ | ⟨large, valid⟩
  · obtain rfl : n = first := by omega
    rwa [Nat.sub_self, Nat.add_zero]
  · refine isLabelChar_of_extended (isBasic_ofNat_of_le ?_ (by omega))
    rcases valid with below | ⟨above, below⟩
    · exact Or.inl (by omega)
    · exact Or.inr ⟨by omega, by omega⟩

theorem isLabelChar_toLower
    : ∀ n < 128, isLabelChar (Char.ofNat n) = true
      → isLabelChar (Char.ofNat n).toLower = true := by
  decide

theorem isLabelChar_lowerChar {c : Char} (own : isLabelChar c = true)
    : isLabelChar (Text.lowerChar c) = true := by
  rw [Text.lowerChar]
  split
  · rename_i basic
    have lower := isLabelChar_toLower c.toNat basic
    rw [Char.ofNat_toNat] at lower
    exact lower own
  · split
    · rename_i m found
      obtain ⟨run, listed, image⟩ := List.exists_of_findSome?_eq_some found
      exact isLabelChar_runImage? (List.all_eq_true.mp lowercaseRuns_keep_labels run listed) image
    · exact own

/-- Lowercasing leads from characters of labels to such characters, by induction on the text;
what precedes a character matters for the two forms of sigma only.
-/
theorem isLabelChar_lowercaseAfter (before : List Char) {text : List Char}
    (chars : ∀ c ∈ text, isLabelChar c = true)
    : ∀ c ∈ Text.lowercaseAfter before text, isLabelChar c = true := by
  induction text generalizing before with
  | nil => exact chars
  | cons d text ih =>
      obtain ⟨own, later⟩ := List.forall_mem_cons.mp chars
      rw [Text.lowercaseAfter]
      refine List.forall_mem_append.mpr ⟨?_, ih (d :: before) later⟩
      split
      · split
        · exact List.forall_mem_singleton.mpr (by decide)
        · exact List.forall_mem_singleton.mpr (by decide)
      · split
        · exact List.all_eq_true.mp (by decide)
        · exact List.forall_mem_singleton.mpr (isLabelChar_lowerChar own)

-----------------------------------------------------------------------------------------
-- Punycode
-----------------------------------------------------------------------------------------

namespace Punycode

theorem threshold_le (bias position : Nat) : threshold bias position ≤ 26 := by
  unfold threshold
  split
  · omega
  · split <;> omega

theorem isPlain_symbol : ∀ value < 36, isPlain (symbol value) = true := by
  decide

theorem isPlain_integer (bias position value : Nat)
    : ∀ c ∈ integer bias position value, isPlain c = true := by
  fun_induction integer bias position value with
  | case1 position value t last =>
      have few := threshold_le bias position
      exact List.forall_mem_singleton.mpr (isPlain_symbol value (by omega))
  | case2 position value t more ih =>
      have few := threshold_le bias position
      have digit := Nat.mod_lt (value - t) (show 0 < 36 - t by omega)
      exact List.forall_mem_cons.mpr ⟨isPlain_symbol _ (by omega), ih⟩

/-- The symbols written so far are letters, digits and hyphens. -/
def Progress.IsPlain (progress : Progress) : Prop :=
  ∀ c ∈ progress.symbols, isPlain c = true

theorem Progress.IsPlain.advance {progress further : Progress} (plain : progress.IsPlain)
    {amount : Nat} (advanced : progress.advance? amount = some further)
    : further.IsPlain := by
  obtain ⟨-, same⟩ := Option.ite_none_right_eq_some.mp advanced
  obtain rfl := Option.some.inj same
  exact plain

theorem Progress.IsPlain.visit {progress further : Progress} (plain : progress.IsPlain)
    {basic code : Nat} {c : Char} (visited : progress.visit? basic code c = some further)
    : further.IsPlain := by
  rw [Progress.visit?] at visited
  split at visited
  · exact plain.advance visited
  · split at visited
    · obtain rfl := Option.some.inj visited
      exact List.forall_mem_append.mpr ⟨plain, isPlain_integer progress.bias 36 progress.delta⟩
    · obtain rfl := Option.some.inj visited
      exact plain

theorem Progress.IsPlain.visits {progress further : Progress} (plain : progress.IsPlain)
    {basic code : Nat} {text : List Char}
    (visited : text.foldlM (Progress.visit? basic code) progress = some further)
    : further.IsPlain := by
  induction text generalizing progress with
  | nil =>
      obtain rfl := Option.some.inj visited
      exact plain
  | cons c text ih =>
      obtain ⟨next, first, later⟩ := Option.bind_eq_some_iff.mp visited
      exact ih (plain.visit first) later

theorem isPlain_encodeCodes {text : List Char} {basic floor : Nat} {codes : List Nat}
    {progress done : Progress} (plain : progress.IsPlain)
    (encoded : encodeCodes text basic codes floor progress = some done)
    : done.IsPlain := by
  induction codes generalizing floor progress with
  | nil =>
      obtain rfl := Option.some.inj encoded
      exact plain
  | cons code codes ih =>
      obtain ⟨start, started, rest⟩ := Option.bind_eq_some_iff.mp encoded
      obtain ⟨passed, visited, rest⟩ := Option.bind_eq_some_iff.mp rest
      obtain ⟨next, advanced, later⟩ := Option.bind_eq_some_iff.mp rest
      exact ih (((plain.advance started).visits visited).advance advanced) later

/-- The Punycode form of characters of labels has letters, digits and hyphens only. -/
theorem isPlain_encode? {text encoded : List Char} (chars : ∀ c ∈ text, isLabelChar c = true)
    (success : encode? text = some encoded)
    : ∀ c ∈ encoded, isPlain c = true := by
  have basics : ∀ c ∈ text.filter isBasic, isPlain c = true := by
    intro c member
    obtain ⟨listed, basic⟩ := List.mem_filter.mp member
    exact isPlain_iff.mpr ⟨basic, chars c listed⟩
  obtain ⟨progress, done, rfl⟩ := Option.map_eq_some_iff.mp success
  refine List.forall_mem_append.mpr ⟨?_, isPlain_encodeCodes (fun _ => ?_) done⟩
  · split
    · exact List.forall_mem_nil _
    · exact List.forall_mem_append.mpr ⟨basics, List.forall_mem_singleton.mpr (by decide)⟩
  · exact fun none => absurd none List.not_mem_nil

end Punycode

end Blocklist.Host
