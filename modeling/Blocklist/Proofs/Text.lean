import Blocklist.Text.Affix
import Blocklist.Text.Utf8
import Mathlib.Data.List.DropRight
import Mathlib.Data.List.Infix

/-! Looking at the ends of a text, cutting it and writing it in bytes: what each of the functions
on texts gives, in terms of how the text is put together.
-/

namespace Blocklist.Text

-----------------------------------------------------------------------------------------
-- First and last characters
-----------------------------------------------------------------------------------------

theorem beginsWith_iff {c : Char} {text : List Char}
    : beginsWith c text = true ↔ text.head? = some c := by
  simp [beginsWith]

theorem endsWith_iff {c : Char} {text : List Char}
    : endsWith c text = true ↔ text.getLast? = some c := by
  simp [endsWith]

@[simp]
theorem beginsWith_cons (c d : Char) (text : List Char)
    : beginsWith c (d :: text) = (d == c) := rfl

theorem beginsWith_append_cons_of_ne {c d : Char} (other : d ≠ c) (left right : List Char)
    : beginsWith c (left ++ d :: right) = beginsWith c left := by
  cases left with
  | nil => simpa [beginsWith] using other
  | cons e left => rfl

@[simp]
theorem endsWith_reverse (c : Char) (text : List Char)
    : endsWith c text.reverse = beginsWith c text := by
  rw [endsWith, List.getLast?_reverse, beginsWith]

theorem endsWith_append_cons (c d : Char) (left right : List Char)
    : endsWith c (left ++ d :: right) = endsWith c (d :: right) := by
  simp [endsWith, List.getLast?_append]

theorem endsWith_of_cons {c d : Char} {text : List Char}
    (last : endsWith c text = true)
    : endsWith c (d :: text) = true := by
  cases text with
  | nil => cases last
  | cons e text => simpa [endsWith] using last

theorem endsWith_cons_of_ne {c d : Char} (other : d ≠ c) (text : List Char)
    : endsWith c (d :: text) = endsWith c text := by
  cases text with
  | nil => simp [endsWith, other]
  | cons e text => simp [endsWith]

-----------------------------------------------------------------------------------------
-- Trimming
-----------------------------------------------------------------------------------------

theorem dropEndWhile_eq_rdropWhile (p : Char → Bool) (text : List Char)
    : dropEndWhile p text = text.rdropWhile p := rfl

/-- A text is its trimmed form between two runs of blanks. -/
theorem exists_trim (text : List Char)
    : ∃ before after, text = before ++ (trim text ++ after)
      ∧ (∀ c ∈ before, isBlank c = true) ∧ ∀ c ∈ after, isBlank c = true := by
  refine ⟨text.takeWhile isBlank, (text.dropWhile isBlank).rtakeWhile isBlank, ?_, ?_, ?_⟩
  · rw [trim, trimWhile, dropEndWhile_eq_rdropWhile, List.rdropWhile_append_rtakeWhile,
      List.takeWhile_append_dropWhile]
  · exact fun c member => List.mem_takeWhile_imp member
  · exact fun c member => List.mem_rtakeWhile_imp member

/-- A text is trimmed when neither its first nor its last character is blank. -/
theorem trim_eq_self_iff {text : List Char}
    : trim text = text
      ↔ (∀ c, text.head? = some c → isBlank c = false)
        ∧ ∀ c, text.getLast? = some c → isBlank c = false := by
  constructor
  · intro trimmed
    have front : text.dropWhile isBlank = text := by
      have short := (List.rdropWhile_prefix isBlank (text.dropWhile isBlank)).length_le
      rw [← dropEndWhile_eq_rdropWhile, show dropEndWhile isBlank _ = text from trimmed] at short
      exact (List.dropWhile_suffix isBlank).eq_of_length_le short
    have back : text.rdropWhile isBlank = text := by
      rw [trim, trimWhile, front] at trimmed
      exact trimmed
    constructor
    · intro c first
      cases text with
      | nil => cases first
      | cons d text =>
          obtain rfl := Option.some.inj first
          simpa using List.dropWhile_eq_self_iff.mp front
    · intro c last
      cases text with
      | nil => cases last
      | cons d text =>
          rw [List.getLast?_eq_getLast_of_ne_nil (List.cons_ne_nil d text)] at last
          obtain rfl := Option.some.inj last
          simpa using List.rdropWhile_eq_self_iff.mp back (List.cons_ne_nil d text)
  · rintro ⟨first, last⟩
    have front : text.dropWhile isBlank = text := by
      cases text with
      | nil => rfl
      | cons d text => simp [first d rfl]
    rw [trim, trimWhile, front, dropEndWhile_eq_rdropWhile, List.rdropWhile_eq_self_iff]
    intro filled
    simpa using last _ (List.getLast?_eq_getLast_of_ne_nil filled)

theorem length_trim_le (text : List Char) : (trim text).length ≤ text.length := by
  obtain ⟨before, after, whole, -, -⟩ := exists_trim text
  have counted := congrArg List.length whole
  rw [List.length_append, List.length_append] at counted
  omega

theorem trim_trim (text : List Char) : trim (trim text) = trim text := by
  refine trim_eq_self_iff.mpr ⟨?_, ?_⟩
  · intro c first
    obtain ⟨after, whole⟩ := List.rdropWhile_prefix isBlank (text.dropWhile isBlank)
    have head : (text.dropWhile isBlank).head? = some c := by
      rw [← whole, List.head?_append, show (List.rdropWhile _ _).head? = some c from first]
      rfl
    have stopped := List.head?_dropWhile_not isBlank text
    simpa [head] using stopped
  · intro c last
    have filled : trim text ≠ [] := by
      intro none
      rw [none] at last
      cases last
    rw [List.getLast?_eq_getLast_of_ne_nil filled] at last
    obtain rfl := Option.some.inj last
    exact Bool.eq_false_iff.mpr
      (List.rdropWhile_last_not isBlank (text.dropWhile isBlank) filled)

-----------------------------------------------------------------------------------------
-- Cutting
-----------------------------------------------------------------------------------------

theorem after?_eq_some {start text rest : List Char}
    : after? start text = some rest ↔ text = start ++ rest := by
  induction start generalizing text with
  | nil => simp [after?, eq_comm]
  | cons s start ih =>
      cases text with
      | nil => simp [after?]
      | cons c text =>
          by_cases same : s = c
          · simp [after?, same, ih]
          · simp [after?, same, Ne.symm same]

theorem cutAt?_append {mark : Char} {left : List Char} (absent : mark ∉ left)
    (right : List Char)
    : cutAt? mark (left ++ mark :: right) = some (left, right) := by
  induction left with
  | nil => simp [cutAt?]
  | cons c left ih =>
      rw [List.mem_cons, not_or] at absent
      obtain ⟨other, absent⟩ := absent
      simp [cutAt?, Ne.symm other, ih absent]

theorem cutAt?_eq_none {mark : Char} {text : List Char} (absent : mark ∉ text)
    : cutAt? mark text = none := by
  induction text with
  | nil => rfl
  | cons c text ih =>
      rw [List.mem_cons, not_or] at absent
      obtain ⟨other, absent⟩ := absent
      simp [cutAt?, Ne.symm other, ih absent]

theorem cutAt?_eq_some {mark : Char} {text left right : List Char}
    (cut : cutAt? mark text = some (left, right))
    : text = left ++ mark :: right := by
  induction text generalizing left with
  | nil => cases cut
  | cons c text ih =>
      rw [cutAt?] at cut
      split at cut
      · rename_i same
        obtain ⟨rfl, rfl⟩ := Prod.mk.inj (Option.some.inj cut)
        rw [same, List.nil_append]
      · obtain ⟨⟨front, back⟩, later, same⟩ := Option.map_eq_some_iff.mp cut
        obtain ⟨rfl, rfl⟩ := Prod.mk.inj same
        rw [ih later, List.cons_append]

/-- Taking a mark off and putting it back. -/
theorem dropMark_eq {mark : Char} {text rest : List Char} {marked : Bool}
    (dropped : dropMark mark text = (marked, rest))
    : text = (if marked then [mark] else []) ++ rest := by
  cases text with
  | nil =>
      obtain ⟨rfl, rfl⟩ := Prod.mk.inj dropped
      rfl
  | cons c text =>
      rw [dropMark] at dropped
      split at dropped
      · rename_i same
        obtain ⟨rfl, rfl⟩ := Prod.mk.inj dropped
        rw [same]
        rfl
      · obtain ⟨rfl, rfl⟩ := Prod.mk.inj dropped
        rfl

theorem occursIn_iff {part text : List Char}
    : occursIn part text = true ↔ part <:+: text := by
  induction text with
  | nil => simp [occursIn]
  | cons c text ih =>
      rw [occursIn, Bool.or_eq_true, List.isPrefixOf_iff_prefix, ih, List.infix_cons_iff]

theorem nextWord_eq (text : List Char)
    : nextWord text
      = ((text.dropWhile isBlank).takeWhile (!isBlank ·),
          (text.dropWhile isBlank).dropWhile (!isBlank ·)) :=
  List.span_eq_takeWhile_dropWhile _ _

theorem nextWord_append {word : List Char} {blank : Char} (filled : word ≠ [])
    (plain : ∀ c ∈ word, isBlank c = false) (stops : isBlank blank = true) (rest : List Char)
    : nextWord (word ++ blank :: rest) = (word, blank :: rest) := by
  obtain ⟨c, more, rfl⟩ := List.exists_cons_of_ne_nil filled
  have front : (c :: more ++ blank :: rest).dropWhile isBlank = c :: more ++ blank :: rest := by
    simp [plain c List.mem_cons_self]
  have unblank : ∀ d ∈ c :: more, (!isBlank d) = true := by
    intro d member
    rw [plain d member]
    rfl
  rw [nextWord_eq, front, List.takeWhile_append_of_pos unblank,
    List.dropWhile_append_of_pos unblank]
  simp [stops]

theorem nextWord_fst_eq_nil_iff {text : List Char}
    : (nextWord text).1 = [] ↔ ∀ c ∈ text, isBlank c = true := by
  rw [nextWord_eq, ← List.dropWhile_eq_nil_iff]
  cases found : text.dropWhile isBlank with
  | nil => simp
  | cons c rest =>
      have first := List.head?_dropWhile_not isBlank text
      simp_all

-----------------------------------------------------------------------------------------
-- Bytes
-----------------------------------------------------------------------------------------

theorem byteLength_append (text more : List Char)
    : byteLength (text ++ more) = byteLength text + byteLength more := by
  induction text with
  | nil => simp [byteLength]
  | cons c text ih =>
      simp only [byteLength, List.cons_append, List.foldr_cons] at ih ⊢
      omega

theorem byteLength_eq (text : List Char)
    : byteLength text = (String.ofList text).utf8ByteSize := by
  induction text with
  | nil => rfl
  | cons c text ih =>
      rw [String.ofList_cons, String.utf8ByteSize_append, String.utf8ByteSize_singleton, ← ih]
      rfl

/-- Reading bytes into a list from a position on, by induction on the bytes that are left. -/
theorem toList_loop_eq (bytes : ByteArray) (position : Nat) (read : List UInt8)
    : ByteArray.toList.loop bytes position read
      = read.reverse ++ bytes.data.toList.drop position := by
  fun_induction ByteArray.toList.loop bytes position read with
  | case1 position read inside ih =>
      have listed : position < bytes.data.toList.length := inside
      have byte : bytes.get! position = bytes.data.toList[position] :=
        getElem!_pos bytes.data position inside
      rw [ih, byte, List.drop_eq_getElem_cons listed, List.reverse_cons, List.append_assoc,
        List.singleton_append]
  | case2 position read outside =>
      have past : bytes.data.toList.length ≤ position := Nat.le_of_not_lt outside
      rw [List.drop_eq_nil_of_le past, List.append_nil]

/-- A text is written character by character. -/
theorem encodeUtf8_ofList (text : List Char)
    : encodeUtf8 (String.ofList text) = text.flatMap String.utf8EncodeChar := by
  have listed := toList_loop_eq (String.ofList text).toByteArray 0 []
  have bytes : (String.ofList text).toByteArray.data
      = (text.flatMap String.utf8EncodeChar).toArray := by
    rw [String.toByteArray_ofList, List.utf8Encode, List.data_toByteArray]
  rw [bytes] at listed
  exact listed

theorem encodeUtf8_eq (text : String)
    : encodeUtf8 text = text.toList.flatMap String.utf8EncodeChar := by
  have written := encodeUtf8_ofList text.toList
  rwa [String.ofList_toList] at written

theorem length_flatMap_utf8EncodeChar (text : List Char)
    : (text.flatMap String.utf8EncodeChar).length = byteLength text := by
  induction text with
  | nil => rfl
  | cons c text ih =>
      rw [List.flatMap_cons, List.length_append, ih, String.length_utf8EncodeChar]
      rfl

end Blocklist.Text
