import Blocklist.Host.Label

/-! The ASCII form of texts, for any encoder of labels. A label keeps beginning with a character
of labels, so what a text begins with before its first label can be told from its ASCII form.
-/

namespace Blocklist.Host

variable (encode? : List Char → Option (List Char))

/-- The ASCII form of a label is filled and begins with a character of labels. -/
theorem asciiLabel_eq_cons {label : List Char} (filled : label ≠ [])
    (chars : ∀ c ∈ label, isLabelChar c = true)
    : ∃ first rest, asciiLabel encode? label = first :: rest ∧ isLabelChar first = true := by
  obtain ⟨first, rest, rfl⟩ := List.exists_cons_of_ne_nil filled
  have own := chars first List.mem_cons_self
  rw [asciiLabel]
  split
  · exact ⟨first, rest, rfl, own⟩
  · split
    · exact ⟨'x', _, rfl, by decide⟩
    · exact ⟨first, rest, rfl, own⟩

/-- Within a label the ASCII form begins with a character of labels, by induction on what is
still to be read; the label read so far grows.
-/
theorem asciiAfter_eq_cons {label : List Char} (filled : label ≠ [])
    (chars : ∀ c ∈ label, isLabelChar c = true) (text : List Char)
    : ∃ first rest, asciiAfter encode? label text = first :: rest
        ∧ isLabelChar first = true := by
  have read {label : List Char} (filled : label ≠ [])
      (chars : ∀ c ∈ label, isLabelChar c = true)
      : ∃ first rest, asciiLabel encode? label.reverse = first :: rest
          ∧ isLabelChar first = true :=
    asciiLabel_eq_cons encode? (mt List.reverse_eq_nil_iff.mp filled)
      (fun c member => chars c (List.mem_reverse.mp member))
  induction text generalizing label with
  | nil => exact read filled chars
  | cons c text ih =>
      rw [asciiAfter]
      split
      · rename_i own
        exact ih (List.cons_ne_nil c label) (List.forall_mem_cons.mpr ⟨own, chars⟩)
      · obtain ⟨first, rest, encoded, own⟩ := read filled chars
        exact ⟨first, rest ++ c :: asciiAfter encode? [] text, by rw [encoded]; rfl, own⟩

/-- What stands outside labels is kept. -/
theorem asciiAfter_nil_cons {c : Char} (apart : isLabelChar c = false) (text : List Char)
    : asciiAfter encode? [] (c :: text) = c :: asciiAfter encode? [] text := by
  simp [asciiAfter, asciiLabel, apart]

theorem asciiAfter_nil_label {c : Char} (inside : isLabelChar c = true) (text : List Char)
    : ∃ first rest, asciiAfter encode? [] (c :: text) = first :: rest
        ∧ isLabelChar first = true := by
  rw [asciiAfter, if_pos inside]
  exact asciiAfter_eq_cons encode? (List.cons_ne_nil c [])
    (List.forall_mem_singleton.mpr inside) text

/-- A text and its ASCII form begin alike outside labels, by induction on the beginning. -/
theorem prefix_asciiAfter_iff {start : List Char}
    (apart : ∀ c ∈ start, isLabelChar c = false) (text : List Char)
    : start <+: asciiAfter encode? [] text ↔ start <+: text := by
  induction start generalizing text with
  | nil => simp
  | cons s start ih =>
      obtain ⟨own, later⟩ := List.forall_mem_cons.mp apart
      cases text with
      | nil => simp [asciiAfter, asciiLabel]
      | cons c text =>
          cases inside : isLabelChar c with
          | false =>
              rw [asciiAfter_nil_cons encode? inside, List.cons_prefix_cons, List.cons_prefix_cons,
                ih later]
          | true =>
              obtain ⟨first, rest, encoded, label⟩ := asciiAfter_nil_label encode? inside text
              have other : s ≠ first := fun same => by simp [same, label] at own
              have other' : s ≠ c := fun same => by simp [same, inside] at own
              simp [encoded, List.cons_prefix_cons, other, other']

/-- Reading a text in ASCII label by label leaves it as it is, by induction on what is still to be
read.
-/
theorem asciiAfter_of_basic {label text : List Char} (read : label.all isBasic = true)
    (basic : text.all isBasic = true)
    : asciiAfter encode? label text = label.reverse ++ text := by
  have kept {label : List Char} (read : label.all isBasic = true)
      : asciiLabel encode? label.reverse = label.reverse :=
    if_pos (by rw [List.all_reverse, read])
  induction text generalizing label with
  | nil => rw [asciiAfter, kept read, List.append_nil]
  | cons c text ih =>
      rw [List.all_cons, Bool.and_eq_true] at basic
      rw [asciiAfter]
      split
      · rw [ih (by rw [List.all_cons, basic.1, read]; rfl) basic.2, List.reverse_cons,
          List.append_assoc, List.singleton_append]
      · rw [kept read, ih rfl basic.2, List.reverse_nil, List.nil_append]

/-- Passing over a text in ASCII gives what reading it label by label gives. -/
theorem toAscii_eq (text : String)
    : toAscii encode? text = String.ofList (asciiAfter encode? [] text.toList) := by
  rw [toAscii]
  split
  · rename_i basic
    rw [asciiAfter_of_basic encode? rfl basic, List.reverse_nil, List.nil_append,
      String.ofList_toList]
  · rfl

theorem prefix_toAscii_iff {start : List Char} (apart : ∀ c ∈ start, isLabelChar c = false)
    (text : String)
    : start <+: (toAscii encode? text).toList ↔ start <+: text.toList := by
  rw [toAscii_eq, String.toList_ofList]
  exact prefix_asciiAfter_iff encode? apart text.toList

/-- Only the empty text has an empty ASCII form. -/
theorem toAscii_eq_empty_iff (text : String)
    : toAscii encode? text = "" ↔ text = "" := by
  rw [← String.toList_eq_nil_iff, ← String.toList_eq_nil_iff, toAscii_eq, String.toList_ofList]
  cases text.toList with
  | nil => simp [asciiAfter, asciiLabel]
  | cons c rest =>
      cases inside : isLabelChar c with
      | false => simp [asciiAfter_nil_cons encode? inside]
      | true =>
          obtain ⟨first, more, encoded, -⟩ := asciiAfter_nil_label encode? inside rest
          simp [encoded]

end Blocklist.Host
