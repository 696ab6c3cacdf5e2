import Blocklist.Proofs.Host.Encoding
import Blocklist.Proofs.Host.Label

/-! The ASCII form of a text, label by label. Separators stay where they are and each label between
them has an ASCII form of its own, whatever the encoder. With an encoder that writes letters,
digits and hyphens only, as Punycode does, a text in its ASCII form has reached it.
-/

namespace Blocklist.Host

/-- What stands between labels: an ASCII character that is no letter, digit or hyphen. -/
def isSeparator (c : Char) : Bool :=
  isBasic c && !c.isAlphanum && c != '-'

/-- The labels of a text, from separator to separator; a label may be empty. -/
def labels (text : List Char) : List (List Char) :=
  text.splitOnP isSeparator

/-- Whether all characters of a text are ASCII. -/
def isAscii (text : List Char) : Bool :=
  text.all isBasic

theorem isSeparator_eq (c : Char) : isSeparator c = !isLabelChar c := by
  simp [isSeparator, isLabelChar, bne, Bool.and_assoc]

theorem isLabelChar_iff {c : Char} : isLabelChar c = true ↔ isSeparator c = false := by
  rw [isSeparator_eq, Bool.not_eq_false']

theorem isBasic_of_isSeparator {c : Char} (separates : isSeparator c = true)
    : isBasic c = true := by
  rw [isSeparator, Bool.and_assoc, Bool.and_eq_true] at separates
  exact separates.1

/-- Induction over the labels of a text: a text is one label, or a label, a separator and a text
with the other labels.
-/
theorem labels_induction {motive : List Char → Prop}
    (one : ∀ label, (∀ c ∈ label, isSeparator c = false) → motive label)
    (more : ∀ label c rest, (∀ c ∈ label, isSeparator c = false) → isSeparator c = true
      → motive rest → motive (label ++ c :: rest))
    (text : List Char)
    : motive text := by
  have front : ∀ c ∈ text.takeWhile (!isSeparator ·), isSeparator c = false := by
    intro c member
    simpa using List.mem_takeWhile_imp member
  have whole := List.takeWhile_append_dropWhile (p := (!isSeparator ·)) (l := text)
  cases split : text.dropWhile (!isSeparator ·) with
  | nil =>
      rw [split, List.append_nil] at whole
      rw [← whole]
      exact one _ front
  | cons c rest =>
      have separates : isSeparator c = true := by
        have stopped := List.head?_dropWhile_not (!isSeparator ·) text
        simpa [split] using stopped
      have shorter : rest.length < text.length := by
        have counted := congrArg List.length whole
        rw [split, List.length_append, List.length_cons] at counted
        omega
      rw [← whole, split]
      exact more _ c rest front separates (labels_induction one more rest)
termination_by text.length

-----------------------------------------------------------------------------------------
-- One label
-----------------------------------------------------------------------------------------

variable {encode? : List Char → Option (List Char)}

theorem asciiLabel_of_isAscii {label : List Char} (ascii : isAscii label = true)
    : asciiLabel encode? label = label :=
  if_pos ascii

theorem asciiLabel_of_encoded {label encoded : List Char} (extended : isAscii label = false)
    (success : encode? (Text.lowercase label) = some encoded)
    : asciiLabel encode? label = encodedMark ++ encoded := by
  rw [isAscii, Bool.eq_false_iff] at extended
  rw [asciiLabel, if_neg extended, success]

theorem asciiLabel_of_failed {label : List Char}
    (failure : encode? (Text.lowercase label) = none)
    : asciiLabel encode? label = label := by
  rw [asciiLabel, failure, ite_self]

/-- What an encoder makes of a label outside ASCII, if anything, has letters, digits and hyphens
of ASCII only.
-/
def EncodesPlainly (encode? : List Char → Option (List Char)) (label : List Char) : Prop :=
  isAscii label = false → ∀ encoded, encode? (Text.lowercase label) = some encoded
    → ∀ c ∈ encoded, isPlain c = true

theorem isAscii_of_isPlain {text : List Char} (plain : ∀ c ∈ text, isPlain c = true)
    : isAscii text = true := by
  refine List.all_eq_true.mpr ?_
  intro c member
  exact isBasic_of_isPlain (plain c member)

section

variable {label : List Char} (chars : ∀ c ∈ label, isSeparator c = false)
  (plainly : EncodesPlainly encode? label)
include chars plainly

/-- The ASCII form of a label is itself an ASCII label, or the label as it is written. -/
theorem asciiLabel_cases
    : (∀ c ∈ asciiLabel encode? label, isPlain c = true)
        ∧ (isAscii label = true ∨ (encode? (Text.lowercase label)).isSome = true)
      ∨ asciiLabel encode? label = label ∧ isAscii label = false
        ∧ (encode? (Text.lowercase label)).isSome = false := by
  cases ascii : isAscii label with
  | true =>
      refine Or.inl ⟨?_, Or.inl rfl⟩
      rw [asciiLabel_of_isAscii ascii]
      intro c member
      exact isPlain_iff.mpr
        ⟨List.all_eq_true.mp ascii c member, isLabelChar_iff.mpr (chars c member)⟩
  | false =>
      cases encoded : encode? (Text.lowercase label) with
      | none => exact Or.inr ⟨asciiLabel_of_failed encoded, rfl, rfl⟩
      | some written =>
          refine Or.inl ⟨?_, Or.inr rfl⟩
          rw [asciiLabel_of_encoded ascii encoded]
          exact List.forall_mem_append.mpr
            ⟨List.all_eq_true.mp (by decide), plainly ascii written encoded⟩

theorem isSeparator_asciiLabel : ∀ c ∈ asciiLabel encode? label, isSeparator c = false := by
  rcases asciiLabel_cases chars plainly with ⟨plain, -⟩ | ⟨kept, -⟩
  · intro c member
    exact isLabelChar_iff.mp (isPlain_iff.mp (plain c member)).2
  · rw [kept]
    exact chars

theorem isAscii_asciiLabel_iff
    : isAscii (asciiLabel encode? label) = true
      ↔ isAscii label = true ∨ (encode? (Text.lowercase label)).isSome = true := by
  rcases asciiLabel_cases chars plainly with ⟨plain, reached⟩ | ⟨kept, extended, failed⟩
  · exact ⟨fun _ => reached, fun _ => isAscii_of_isPlain plain⟩
  · simp [kept, extended, failed]

theorem asciiLabel_asciiLabel
    : asciiLabel encode? (asciiLabel encode? label) = asciiLabel encode? label := by
  rcases asciiLabel_cases chars plainly with ⟨plain, -⟩ | ⟨kept, -⟩
  · exact asciiLabel_of_isAscii (isAscii_of_isPlain plain)
  · rw [kept, kept]

end

-----------------------------------------------------------------------------------------
-- Whole texts
-----------------------------------------------------------------------------------------

theorem asciiAfter_of_label (before : List Char) {label : List Char}
    (chars : ∀ c ∈ label, isSeparator c = false)
    : asciiAfter encode? before label = asciiLabel encode? (before.reverse ++ label) := by
  induction label generalizing before with
  | nil => rw [asciiAfter, List.append_nil]
  | cons c label ih =>
      obtain ⟨own, later⟩ := List.forall_mem_cons.mp chars
      rw [asciiAfter, if_pos (isLabelChar_iff.mpr own), ih (c :: before) later,
        List.reverse_cons, List.append_assoc, List.singleton_append]

/-- A separator ends a label, whatever has been read of it, by induction on what is still to be
read before the separator.
-/
theorem asciiAfter_append (before left right : List Char) {c : Char}
    (separates : isSeparator c = true)
    : asciiAfter encode? before (left ++ c :: right)
      = asciiAfter encode? before left ++ c :: asciiAfter encode? [] right := by
  induction left generalizing before with
  | nil =>
      have apart : ¬isLabelChar c = true := by
        rw [isLabelChar_iff, separates]
        decide
      simp only [List.nil_append, asciiAfter, if_neg apart]
  | cons d left ih =>
      rw [List.cons_append, asciiAfter, asciiAfter]
      split
      · exact ih (d :: before)
      · rw [ih [], List.append_assoc, List.cons_append]

theorem asciiAfter_cons_label {label rest : List Char} {c : Char}
    (chars : ∀ c ∈ label, isSeparator c = false) (separates : isSeparator c = true)
    : asciiAfter encode? [] (label ++ c :: rest)
      = asciiLabel encode? label ++ c :: asciiAfter encode? [] rest := by
  rw [asciiAfter_append [] label rest separates, asciiAfter_of_label [] chars]
  rfl

theorem labels_of_label {label : List Char} (chars : ∀ c ∈ label, isSeparator c = false)
    : labels label = [label] :=
  List.splitOnP_eq_singleton chars

theorem labels_cons_label {label rest : List Char} {c : Char}
    (chars : ∀ c ∈ label, isSeparator c = false) (separates : isSeparator c = true)
    : labels (label ++ c :: rest) = label :: labels rest :=
  List.splitOnP_append_cons_of_forall_mem chars c separates rest

theorem not_isSeparator_of_mem_labels {text label : List Char} (member : label ∈ labels text)
    : ∀ c ∈ label, isSeparator c = false := by
  induction text using labels_induction with
  | one whole chars =>
      rw [labels_of_label chars, List.mem_singleton] at member
      rwa [member]
  | more first c rest chars separates ih =>
      rw [labels_cons_label chars separates, List.mem_cons] at member
      rcases member with rfl | later
      · exact chars
      · exact ih later

/-- Punycode encodes every label of a text plainly. -/
theorem Punycode.encodesPlainly {text label : List Char} (member : label ∈ labels text)
    : EncodesPlainly Punycode.encode? label := by
  intro _ encoded success
  refine isPlain_encode? (isLabelChar_lowercaseAfter [] ?_) success
  intro c inside
  exact isLabelChar_iff.mpr (not_isSeparator_of_mem_labels member c inside)

theorem filter_isSeparator_eq_nil {label : List Char}
    (chars : ∀ c ∈ label, isSeparator c = false)
    : label.filter isSeparator = [] := by
  rw [List.filter_eq_nil_iff]
  intro c member
  rw [chars c member]
  exact Bool.false_ne_true

section

variable {text : List Char} (plainly : ∀ label ∈ labels text, EncodesPlainly encode? label)
include plainly

theorem isAscii_asciiAfter_iff
    : isAscii (asciiAfter encode? [] text) = true
      ↔ ∀ label ∈ labels text, isAscii label = true
        ∨ (encode? (Text.lowercase label)).isSome = true := by
  induction text using labels_induction with
  | one label chars =>
      rw [labels_of_label chars, List.forall_mem_singleton] at plainly ⊢
      rw [asciiAfter_of_label [] chars]
      exact isAscii_asciiLabel_iff chars plainly
  | more label c rest chars separates ih =>
      rw [labels_cons_label chars separates, List.forall_mem_cons] at plainly ⊢
      rw [asciiAfter_cons_label chars separates, ← isAscii_asciiLabel_iff chars plainly.1,
        ← ih plainly.2, isAscii, List.all_append, List.all_cons,
        isBasic_of_isSeparator separates, Bool.true_and, Bool.and_eq_true]
      rfl

theorem filter_isSeparator_asciiAfter
    : (asciiAfter encode? [] text).filter isSeparator = text.filter isSeparator := by
  induction text using labels_induction with
  | one label chars =>
      rw [labels_of_label chars, List.forall_mem_singleton] at plainly
      rw [asciiAfter_of_label [] chars, filter_isSeparator_eq_nil chars]
      exact filter_isSeparator_eq_nil (isSeparator_asciiLabel chars plainly)
  | more label c rest chars separates ih =>
      rw [labels_cons_label chars separates, List.forall_mem_cons] at plainly
      rw [asciiAfter_cons_label chars separates, List.filter_append, List.filter_append,
        List.filter_cons_of_pos separates, List.filter_cons_of_pos separates, ih plainly.2,
        filter_isSeparator_eq_nil chars,
        filter_isSeparator_eq_nil (isSeparator_asciiLabel chars plainly.1)]

theorem asciiAfter_asciiAfter
    : asciiAfter encode? [] (asciiAfter encode? [] text) = asciiAfter encode? [] text := by
  induction text using labels_induction with
  | one label chars =>
      rw [labels_of_label chars, List.forall_mem_singleton] at plainly
      have kept := isSeparator_asciiLabel chars plainly
      rw [asciiAfter_of_label [] chars, List.reverse_nil, List.nil_append,
        asciiAfter_of_label [] kept]
      exact asciiLabel_asciiLabel chars plainly
  | more label c rest chars separates ih =>
      rw [labels_cons_label chars separates, List.forall_mem_cons] at plainly
      have kept := isSeparator_asciiLabel chars plainly.1
      rw [asciiAfter_cons_label chars separates, asciiAfter_cons_label kept separates,
        ih plainly.2, asciiLabel_asciiLabel chars plainly.1]

end

/-- The ASCII form works label by label, for every encoder: it leaves separators alone and treats
what stands before and after them on its own. A text that is a single label stays as it is when it
is ASCII, and otherwise becomes the mark and what the encoder makes of its lowercase form, or stays
as it is where the encoder fails. If what the encoder makes of the labels of a text has letters,
digits and hyphens only, then the ASCII form of the text is ASCII just when the encoder succeeds on
every label that needs it, it has the separators of the text, and it is its own ASCII form.
-/
theorem toAscii_by_label (encode? : List Char → Option (List Char))
    : (∀ (left right : String) (c : Char), isSeparator c = true
        → toAscii encode? (left ++ String.singleton c ++ right)
          = toAscii encode? left ++ String.singleton c ++ toAscii encode? right)
      ∧ (∀ label : String, (∀ c ∈ label.toList, isSeparator c = false)
        → (isAscii label.toList = true → toAscii encode? label = label)
          ∧ (isAscii label.toList = false
            → (∀ encoded, encode? (Text.lowercase label.toList) = some encoded
                → toAscii encode? label = "xn--" ++ String.ofList encoded)
              ∧ (encode? (Text.lowercase label.toList) = none
                → toAscii encode? label = label)))
      ∧ ∀ text : String, (∀ label ∈ labels text.toList, EncodesPlainly encode? label)
        → (isAscii (toAscii encode? text).toList = true
            ↔ ∀ label ∈ labels text.toList, isAscii label = true
              ∨ (encode? (Text.lowercase label)).isSome = true)
          ∧ (toAscii encode? text).toList.filter isSeparator = text.toList.filter isSeparator
          ∧ toAscii encode? (toAscii encode? text) = toAscii encode? text := by
  refine ⟨?_, ?_, ?_⟩
  · intro left right c separates
    apply String.toList_inj.mp
    simp only [toAscii_eq, String.toList_append, String.toList_singleton, String.toList_ofList,
      List.append_assoc, List.singleton_append]
    exact asciiAfter_append [] left.toList right.toList separates
  · intro label chars
    have single : toAscii encode? label = String.ofList (asciiLabel encode? label.toList) := by
      rw [toAscii_eq, asciiAfter_of_label [] chars]
      rfl
    refine ⟨?_, fun extended => ⟨?_, ?_⟩⟩
    · intro ascii
      rw [single, asciiLabel_of_isAscii ascii, String.ofList_toList]
    · intro encoded success
      rw [single, asciiLabel_of_encoded extended success, String.ofList_append]
      rfl
    · intro failure
      rw [single, asciiLabel_of_failed failure, String.ofList_toList]
  · intro text plainly
    rw [toAscii_eq, toAscii_eq, String.toList_ofList]
    exact ⟨isAscii_asciiAfter_iff plainly, filter_isSeparator_asciiAfter plainly,
      congrArg String.ofList (asciiAfter_asciiAfter plainly)⟩

/-- Punycode on a pattern with labels of both kinds, the first of them after two separators. -/
theorem toAscii_by_label_of_mixed_pattern
    : isSeparator '.' = true
      ∧ toAscii Punycode.encode? ("||пример" ++ String.singleton '.' ++ "Köln-2.de^")
        = toAscii Punycode.encode? "||пример" ++ String.singleton '.'
          ++ toAscii Punycode.encode? "Köln-2.de^"
      ∧ toAscii Punycode.encode? "de" = "de"
      ∧ toAscii Punycode.encode? "Köln-2" = "xn--kln-2-jua"
      ∧ (∀ label ∈ labels "||пример.Köln-2.de^".toList, EncodesPlainly Punycode.encode? label)
      ∧ isAscii (toAscii Punycode.encode? "||пример.Köln-2.de^").toList = true
      ∧ (toAscii Punycode.encode? "||пример.Köln-2.de^").toList.filter isSeparator
        = ['|', '|', '.', '.', '^']
      ∧ toAscii Punycode.encode? (toAscii Punycode.encode? "||пример.Köln-2.de^")
        = toAscii Punycode.encode? "||пример.Köln-2.de^" := by
  obtain ⟨apart, single, whole⟩ := toAscii_by_label Punycode.encode?
  have bare {label : String} (all : label.toList.all (!isSeparator ·) = true)
      : ∀ c ∈ label.toList, isSeparator c = false :=
    fun c member => (Bool.not_eq_true' _).mp (List.all_eq_true.mp all c member)
  have point : isSeparator '.' = true := by decide
  have plain := (single "de" (bare (by decide))).1
  have encoded := ((single "Köln-2" (bare (by decide))).2 (by decide)).1
  have plainly : ∀ label ∈ labels "||пример.Köln-2.de^".toList,
      EncodesPlainly Punycode.encode? label := fun _ member => Punycode.encodesPlainly member
  have labelled : (labels "||пример.Köln-2.de^".toList).all (fun label =>
      isAscii label || (Punycode.encode? (Text.lowercase label)).isSome) = true := by cbv
  obtain ⟨reached, separators, again⟩ := whole "||пример.Köln-2.de^" plainly
  refine ⟨point, apart _ _ '.' point, plain (by decide), ?_, plainly, ?_, ?_, again⟩
  · exact encoded ['k', 'l', 'n', '-', '2', '-', 'j', 'u', 'a'] (by cbv)
  · refine reached.mpr ?_
    intro label member
    exact (Bool.or_eq_true _ _).mp (List.all_eq_true.mp labelled label member)
  · rw [separators]
    decide

end Blocklist.Host
