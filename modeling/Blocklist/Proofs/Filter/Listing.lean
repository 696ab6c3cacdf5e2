import Blocklist.Filter.Listing
import Blocklist.Proofs.Text

/-! Entries of a filter list and the lines they stand for. The start of an entry is the number
of bytes before its line, whatever characters and line ends come before.
-/

namespace Blocklist

namespace Listing

/-- A line of a text at a byte offset: it begins the text or follows a line feed, it ends the
text or stops before a line feed, and it holds none.
-/
def LineAt (text : List Char) (offset : Nat) (line : List Char) : Prop :=
  ∃ before after, text = before ++ line ++ after
    ∧ (String.ofList before).utf8ByteSize = offset
    ∧ (before = [] ∨ before.getLast? = some '\n') ∧ '\n' ∉ line
    ∧ (after = [] ∨ after.head? = some '\n')

/-- A line feed ends the first line, and the other lines are those of what follows. -/
theorem lines_append_feed {line : List Char} (unbroken : '\n' ∉ line) (more : List Char)
    : lines (line ++ '\n' :: more) = line :: lines more := by
  obtain ⟨piece, pieces, others⟩ :=
    List.exists_cons_of_ne_nil (List.splitOn_ne_nil '\n' more)
  simp only [lines, List.splitOn_append_cons_self_of_not_mem unbroken, others,
    List.getLast?_cons_cons, List.dropLast_cons_cons]
  split <;> rfl

/-- The first line of a text is all of it or stands before a line feed, after which the other
lines follow. Witness: cut the text at its first line feed.
-/
theorem lines_eq_cons {text line : List Char} {rest : List (List Char)}
    (split : lines text = line :: rest)
    : '\n' ∉ line
      ∧ (text = line ∧ rest = []
        ∨ ∃ more, text = line ++ '\n' :: more ∧ rest = lines more) := by
  by_cases broken : '\n' ∈ text
  · obtain ⟨first, more, rfl, unbroken⟩ := List.eq_append_cons_of_mem broken
    obtain ⟨rfl, rfl⟩ := List.cons.inj ((lines_append_feed unbroken more).symm.trans split)
    exact ⟨unbroken, Or.inr ⟨more, rfl, rfl⟩⟩
  · simp only [lines, List.splitOn_eq_singleton broken] at split
    cases text with
    | nil => simp at split
    | cons c text =>
        have whole : [c :: text] = line :: rest := by simpa using split
        obtain ⟨rfl, rfl⟩ := List.cons.inj whole
        exact ⟨broken, Or.inl ⟨rfl, rfl⟩⟩

/-- Every entry of the lines of a text stands for one of them, at its offset from the start.
Witness: induction on the lines; a later line has all earlier ones and their line feeds
before it.
-/
theorem mem_entriesFrom {text : List Char} {number start : Nat} {entry : Entry}
    (member : entry ∈ entriesFrom number start (lines text))
    : ∃ line, LineAt text (entry.start - start) line ∧ start ≤ entry.start
        ∧ entry.content = Line.ofChars (Text.dropEndWhile (· == '\r') line) := by
  generalize known : lines text = all at member
  induction all generalizing text number start with
  | nil => cases member
  | cons line rest ih =>
      obtain ⟨unbroken, ends⟩ := lines_eq_cons known
      rw [entriesFrom] at member
      rcases List.mem_cons.mp member with rfl | later
      · refine ⟨line, ?_, Nat.le_refl start, rfl⟩
        rcases ends with ⟨rfl, -⟩ | ⟨more, rfl, -⟩
        · exact ⟨[], [], by simp, by simp, Or.inl rfl, unbroken, Or.inl rfl⟩
        · exact ⟨[], '\n' :: more, by simp, by simp, Or.inl rfl, unbroken, Or.inr rfl⟩
      · rcases ends with ⟨-, rfl⟩ | ⟨more, rfl, rfl⟩
        · cases later
        · obtain ⟨found, ⟨before, after, rfl, size, starts, whole, stops⟩, low, content⟩ :=
            ih rfl later
          refine ⟨found, ⟨line ++ '\n' :: before, after, by simp, ?_, Or.inr ?_, whole, stops⟩,
            by omega, content⟩
          · have bytes := Text.byteLength_append line ('\n' :: before)
            have feed : Text.byteLength ('\n' :: before) = 1 + Text.byteLength before := rfl
            rw [← Text.byteLength_eq] at size ⊢
            omega
          · rcases starts with rfl | last
            · simp
            · simp [List.getLast?_cons, last]

/-- Every entry of a filter list stands for the line at its start. -/
theorem mem_entries {text : String} {entry : Entry} (member : entry ∈ entries text)
    : ∃ line, LineAt text.toList entry.start line
        ∧ entry.content = Line.ofChars (Text.dropEndWhile (· == '\r') line) := by
  obtain ⟨line, found, -, content⟩ := mem_entriesFrom member
  exact ⟨line, found, content⟩

end Listing

end Blocklist
