import Blocklist.Proofs.Filter.Listing

/-! Entries tile the text of a filter list. Each begins where the line end of the one before it
stops, in bytes, and line ends are carriage returns with a line feed after them. So lists that
are put together at a line end have the entries of both, the later ones moved.
-/

namespace Blocklist

/-- An entry behind other lines: its number and its bytes are moved. -/
def Entry.shift (lines bytes : Nat) (entry : Entry) : Entry :=
  { entry with
    number := lines + entry.number
    start := bytes + entry.start
    stop := bytes + entry.stop }

namespace Listing

-----------------------------------------------------------------------------------------
-- Lines and their ends
-----------------------------------------------------------------------------------------

theorem lines_eq_nil_iff {text : List Char} : lines text = [] ↔ text = [] := by
  constructor
  · intro none
    by_contra filled
    by_cases broken : '\n' ∈ text
    · obtain ⟨first, more, rfl, unbroken⟩ := List.eq_append_cons_of_mem broken
      rw [lines_append_feed unbroken] at none
      cases none
    · simp [lines, List.splitOn_eq_singleton broken, filled] at none
  · intro empty
    subst empty
    rfl

/-- A line without its carriage returns, and these. -/
theorem exists_returns (line : List Char)
    : ∃ returns, line = Text.dropEndWhile (· == '\r') line ++ List.replicate returns '\r' := by
  refine ⟨(line.rtakeWhile (· == '\r')).length, ?_⟩
  have same : line.rtakeWhile (· == '\r')
      = List.replicate (line.rtakeWhile (· == '\r')).length '\r' :=
    List.eq_replicate_of_mem fun c member => by simpa using List.mem_rtakeWhile_imp member
  rw [← same, Text.dropEndWhile_eq_rdropWhile, List.rdropWhile_append_rtakeWhile]

theorem getLast?_dropEndWhile_ne (c : Char) (text : List Char)
    : (Text.dropEndWhile (· == c) text).getLast? ≠ some c := by
  intro last
  have filled : text.rdropWhile (· == c) ≠ [] := by
    intro none
    rw [Text.dropEndWhile_eq_rdropWhile, none] at last
    cases last
  rw [Text.dropEndWhile_eq_rdropWhile, List.getLast?_eq_getLast_of_ne_nil filled] at last
  exact List.rdropWhile_last_not (· == c) text filled (beq_iff_eq.mpr (Option.some.inj last))

-----------------------------------------------------------------------------------------
-- Entries in their text
-----------------------------------------------------------------------------------------

/-- Where an entry and its line end stop: at the start of the next one, or with the text. -/
def nextStart (next? : Option Entry) (whole : Nat) : Nat :=
  (next?.map Entry.start).getD whole

/-- An entry stands in a text for a line between the lines before it and those after it. Its
line feed may be missing if no entry follows.
-/
def StandsIn (text : List Char) (offset : Nat) (next? : Option Entry) (entry : Entry) : Prop :=
  ∃ before line feed after, text = before ++ (line ++ (feed ++ after))
    ∧ '\n' ∉ line ∧ entry.raw.toList = Text.dropEndWhile (· == '\r') line
    ∧ entry.start = offset + Text.byteLength before
    ∧ entry.stop = entry.start + Text.byteLength entry.raw.toList
    ∧ nextStart next? (offset + Text.byteLength text)
      = entry.start + (Text.byteLength line + Text.byteLength feed)
    ∧ (feed = ['\n'] ∨ feed = [] ∧ next? = none)

/-- The first entry of a text stands at its beginning. -/
theorem first_standsIn {text line : List Char} {rest : List (List Char)} {number start : Nat}
    {entry : Entry} (split : lines text = line :: rest)
    (first : (entriesFrom number start (line :: rest))[0]? = some entry)
    : StandsIn text start (entriesFrom number start (line :: rest))[1]? entry := by
  obtain ⟨unbroken, ends⟩ := lines_eq_cons split
  obtain rfl := Option.some.inj first
  rcases ends with ⟨rfl, rfl⟩ | ⟨more, rfl, rfl⟩
  · refine ⟨[], text, [], [], by simp, unbroken, String.toList_ofList, rfl, ?_, rfl,
      Or.inr ⟨rfl, rfl⟩⟩
    rw [String.toList_ofList]
  · refine ⟨[], line, ['\n'], more, by simp, unbroken, String.toList_ofList, rfl, ?_, ?_,
      Or.inl rfl⟩
    · rw [String.toList_ofList]
    · cases later : lines more with
      | nil =>
          have none : more = [] := lines_eq_nil_iff.mp later
          subst none
          exact congrArg (start + ·) (Text.byteLength_append line ['\n'])
      | cons second others => exact Nat.add_assoc ..

/-- An entry of what follows a line stands in the whole text. -/
theorem StandsIn.after {line more : List Char} {offset : Nat} {next? : Option Entry}
    {entry : Entry} (stands : StandsIn more (offset + Text.byteLength line + 1) next? entry)
    : StandsIn (line ++ '\n' :: more) offset next? entry := by
  obtain ⟨before, own, feed, after, rfl, unbroken, raw, start, stop, ends, fed⟩ := stands
  have moved (text : List Char)
      : offset + Text.byteLength (line ++ '\n' :: text)
        = offset + Text.byteLength line + 1 + Text.byteLength text := by
    have bytes := Text.byteLength_append line ('\n' :: text)
    have counted : Text.byteLength ('\n' :: text) = 1 + Text.byteLength text := rfl
    omega
  refine ⟨line ++ '\n' :: before, own, feed, after, by simp, unbroken, raw, ?_, stop, ?_, fed⟩
  · rw [moved, start]
  · rw [moved, ends]

/-- Every entry of a text stands in it, by induction on the lines. -/
theorem entriesFrom_standsIn {text : List Char} {number start position : Nat} {entry : Entry}
    (found : (entriesFrom number start (lines text))[position]? = some entry)
    : StandsIn text start (entriesFrom number start (lines text))[position + 1]? entry := by
  generalize split : lines text = all at found ⊢
  induction all generalizing text number start position with
  | nil => cases found
  | cons line rest ih =>
      cases position with
      | zero => exact first_standsIn split found
      | succ position =>
          rcases (lines_eq_cons split).2 with ⟨rfl, rfl⟩ | ⟨more, rfl, rfl⟩
          · cases found
          · exact (ih rfl found).after

theorem head_start {number start : Nat} {all : List (List Char)} {entry : Entry}
    (first : (entriesFrom number start all).head? = some entry)
    : entry.start = start := by
  cases all with
  | nil => cases first
  | cons line rest =>
      obtain rfl := Option.some.inj first
      rfl

theorem map_number_entriesFrom (number start : Nat) (all : List (List Char))
    : (entriesFrom number start all).map Entry.number = List.range' number all.length := by
  induction all generalizing number start with
  | nil => rfl
  | cons line rest ih =>
      rw [entriesFrom, List.map_cons, ih, List.length_cons, List.range'_succ]

theorem length_entriesFrom (number start : Nat) (all : List (List Char))
    : (entriesFrom number start all).length = all.length := by
  have counted := congrArg List.length (map_number_entriesFrom number start all)
  rwa [List.length_map, List.length_range'] at counted

-----------------------------------------------------------------------------------------
-- Entries tile their text
-----------------------------------------------------------------------------------------

/-- Entries that tile a text. They are numbered from zero, and the first starts with the text.
The bytes of each spell its line, which has no line feed and no carriage return at its end.
Between an entry and the next one stand carriage returns and one line feed, which only the last
entry may lack.
-/
structure Tiling (text : String) (listed : List Entry) : Prop where
  covers : listed = [] → text = ""
  numbers : listed.map Entry.number = List.range listed.length
  starts : ∀ entry, listed.head? = some entry → entry.start = 0
  ordered
    : ∀ position entry, listed[position]? = some entry
      → entry.start ≤ entry.stop
        ∧ entry.stop ≤ nextStart listed[position + 1]? text.utf8ByteSize
  spells
    : ∀ entry ∈ listed,
        (Text.encodeUtf8 text).extract entry.start entry.stop = Text.encodeUtf8 entry.raw
  unbroken
    : ∀ entry ∈ listed, '\n' ∉ entry.raw.toList ∧ entry.raw.toList.getLast? ≠ some '\r'
  ends
    : ∀ position entry, listed[position]? = some entry
      → ∃ returns,
          let lineEnd := (Text.encodeUtf8 text).extract entry.stop
            (nextStart listed[position + 1]? text.utf8ByteSize)
          lineEnd = List.replicate returns 0x0D ++ [0x0A]
          ∨ lineEnd = List.replicate returns 0x0D ∧ listed[position + 1]? = none

/-- The bytes of a middle part. -/
theorem extract_encodeUtf8 {text : String} {before middle after : List Char}
    (whole : text.toList = before ++ (middle ++ after))
    : (Text.encodeUtf8 text).extract (Text.byteLength before)
        (Text.byteLength before + Text.byteLength middle)
      = middle.flatMap String.utf8EncodeChar := by
  rw [Text.encodeUtf8_eq, whole, List.flatMap_append, List.flatMap_append, List.extract,
    List.drop_left' (Text.length_flatMap_utf8EncodeChar before), Nat.add_sub_cancel_left,
    List.take_left' (Text.length_flatMap_utf8EncodeChar middle)]

/-- An entry stands between what is before it and its line end, and these tell its places. -/
theorem StandsIn.places {text : String} {next? : Option Entry} {entry : Entry}
    (stands : StandsIn text.toList 0 next? entry)
    : ∃ before returns feed after,
        text.toList
          = before ++ (entry.raw.toList ++ ((List.replicate returns '\r' ++ feed) ++ after))
        ∧ entry.start = Text.byteLength before
        ∧ entry.stop = Text.byteLength (before ++ entry.raw.toList)
        ∧ nextStart next? text.utf8ByteSize
          = entry.stop + Text.byteLength (List.replicate returns '\r' ++ feed)
        ∧ (feed = ['\n'] ∨ feed = [] ∧ next? = none) := by
  obtain ⟨before, line, feed, after, whole, -, raw, start, stop, next, fed⟩ := stands
  obtain ⟨returns, cut⟩ := exists_returns line
  rw [← raw] at cut
  subst cut
  rw [Nat.zero_add] at start
  have size : 0 + Text.byteLength text.toList = text.utf8ByteSize := by
    rw [Text.byteLength_eq, String.ofList_toList, Nat.zero_add]
  refine ⟨before, returns, feed, after, ?_, start, ?_, ?_, fed⟩
  · rw [whole]
    simp only [List.append_assoc]
  · rw [stop, start, Text.byteLength_append]
  · rw [← size, next, stop]
    simp only [Text.byteLength_append, Nat.add_assoc]

/-- The bytes of an entry spell its line, and those up to the next entry its line end. -/
theorem StandsIn.bytes {text : String} {next? : Option Entry} {entry : Entry}
    (stands : StandsIn text.toList 0 next? entry)
    : entry.start ≤ entry.stop ∧ entry.stop ≤ nextStart next? text.utf8ByteSize
      ∧ (Text.encodeUtf8 text).extract entry.start entry.stop = Text.encodeUtf8 entry.raw
      ∧ ∃ returns,
          let lineEnd := (Text.encodeUtf8 text).extract entry.stop
            (nextStart next? text.utf8ByteSize)
          lineEnd = List.replicate returns 0x0D ++ [0x0A]
          ∨ lineEnd = List.replicate returns 0x0D ∧ next? = none := by
  obtain ⟨before, returns, feed, after, whole, start, stop, next, fed⟩ := stands.places
  have length := Text.byteLength_append before entry.raw.toList
  have spelled := extract_encodeUtf8 whole
  rw [← length, ← start, ← stop, ← Text.encodeUtf8_eq] at spelled
  rw [← List.append_assoc] at whole
  have returned : (List.replicate returns '\r').flatMap String.utf8EncodeChar
      = List.replicate returns 0x0D := by
    rw [List.flatMap_replicate]
    exact List.flatten_replicate_singleton
  have ended := extract_encodeUtf8 whole
  rw [← stop, ← next, List.flatMap_append, returned] at ended
  refine ⟨by omega, by omega, spelled, returns, ?_⟩
  rw [ended]
  rcases fed with rfl | ⟨rfl, none⟩
  · exact Or.inl rfl
  · exact Or.inr ⟨List.append_nil _, none⟩

theorem StandsIn.raw {text : List Char} {offset : Nat} {next? : Option Entry} {entry : Entry}
    (stands : StandsIn text offset next? entry)
    : '\n' ∉ entry.raw.toList ∧ entry.raw.toList.getLast? ≠ some '\r' := by
  obtain ⟨before, line, feed, after, -, unbroken, raw, -⟩ := stands
  rw [raw]
  refine ⟨?_, getLast?_dropEndWhile_ne '\r' line⟩
  intro member
  exact unbroken ((List.rdropWhile_prefix (· == '\r') line).subset member)

-----------------------------------------------------------------------------------------
-- Lists one after the other
-----------------------------------------------------------------------------------------

theorem entriesFrom_shift (number start : Nat) (all : List (List Char))
    : entriesFrom number start all = (entriesFrom 0 0 all).map (Entry.shift number start) := by
  have moved (k d : Nat) (all : List (List Char))
      : entriesFrom (number + k) (start + d) all
        = (entriesFrom k d all).map (Entry.shift number start) := by
    induction all generalizing k d with
    | nil => rfl
    | cons line rest ih =>
        have later := ih (k + 1) (d + Text.byteLength line + 1)
        simp only [entriesFrom, List.map_cons, Entry.shift, Nat.add_assoc] at later ⊢
        rw [later]
  exact moved 0 0 all

/-- Lists that are put together at a line end, by induction on the lines of the first. -/
theorem entriesFrom_append {front : List Char} (number start : Nat)
    (closed : front = [] ∨ front.getLast? = some '\n') (back : List Char)
    : entriesFrom number start (lines (front ++ back))
      = entriesFrom number start (lines front)
        ++ entriesFrom (number + (lines front).length) (start + Text.byteLength front)
            (lines back) := by
  generalize split : lines front = all
  induction all generalizing front number start with
  | nil =>
      rw [lines_eq_nil_iff.mp split]
      rfl
  | cons line rest ih =>
      obtain ⟨unbroken, ends⟩ := lines_eq_cons split
      rcases ends with ⟨rfl, rfl⟩ | ⟨more, rfl, rfl⟩
      · rcases closed with rfl | last
        · cases split
        · exact absurd (List.mem_of_getLast? last) unbroken
      · have later : more = [] ∨ more.getLast? = some '\n' := by
          cases more with
          | nil => exact Or.inl rfl
          | cons c more => exact Or.inr (by simpa using closed)
        have bytes := Text.byteLength_append line ('\n' :: more)
        have feed : Text.byteLength ('\n' :: more) = 1 + Text.byteLength more := rfl
        have number' : number + (line :: lines more).length
            = number + 1 + (lines more).length := by
          rw [List.length_cons]
          omega
        have start' : start + Text.byteLength (line ++ '\n' :: more)
            = start + Text.byteLength line + 1 + Text.byteLength more := by
          omega
        rw [List.append_assoc, List.cons_append, lines_append_feed unbroken, number', start',
          entriesFrom, ih _ _ later rfl]
        rfl

/-- The entries of a filter list tile its text, in bytes, whatever characters and line ends it
has. Behind a list that is empty or ends with a line feed, the entries of another list follow
with their numbers and bytes moved.
-/
theorem entries_tile_text
    : (∀ text : String, Tiling text (entries text))
      ∧ ∀ front back : String, front = "" ∨ front.toList.getLast? = some '\n'
        → entries (front ++ back)
          = entries front
            ++ (entries back).map (Entry.shift (entries front).length front.utf8ByteSize) := by
  constructor
  · intro text
    have stands {position : Nat} {entry : Entry}
        (found : (entries text)[position]? = some entry)
        : StandsIn text.toList 0 (entries text)[position + 1]? entry :=
      entriesFrom_standsIn found
    have count : (entries text).length = (lines text.toList).length := length_entriesFrom 0 0 _
    refine ⟨?_, ?_, ?_, ?_, ?_, ?_, ?_⟩
    · intro none
      rw [none] at count
      have empty := lines_eq_nil_iff.mp (List.length_eq_zero_iff.mp count.symm)
      exact String.toList_eq_nil_iff.mp empty
    · rw [count, List.range_eq_range']
      exact map_number_entriesFrom 0 0 _
    · intro entry first
      exact head_start first
    · intro position entry found
      obtain ⟨low, high, -⟩ := (stands found).bytes
      exact ⟨low, high⟩
    · intro entry member
      obtain ⟨position, found⟩ := List.mem_iff_getElem?.mp member
      exact (stands found).bytes.2.2.1
    · intro entry member
      obtain ⟨position, found⟩ := List.mem_iff_getElem?.mp member
      exact (stands found).raw
    · intro position entry found
      exact (stands found).bytes.2.2.2
  · intro front back closed
    have ends : front.toList = [] ∨ front.toList.getLast? = some '\n' :=
      closed.imp_left String.toList_eq_nil_iff.mpr
    have size : Text.byteLength front.toList = front.utf8ByteSize := by
      rw [Text.byteLength_eq, String.ofList_toList]
    rw [entries, String.toList_append, entriesFrom_append 0 0 ends, entriesFrom_shift (0 + _),
      Nat.zero_add, Nat.zero_add, size, ← length_entriesFrom 0 0 (lines front.toList)]
    rfl

/-- A list of two lines with long line ends and wide characters, and one whose last line has a
carriage return but no line feed.
-/
theorem entries_tile_text_of_wide_lists
    : "! é\r\r\n\n".toList.getLast? = some '\n'
      ∧ (entries ("! é\r\r\n\n" ++ "||ü^\n||a^\r")).map (fun entry => (entry.start, entry.stop))
        = [(0, 4), (7, 7), (8, 13), (14, 18)]
      ∧ Tiling ("! é\r\r\n\n" ++ "||ü^\n||a^\r") (entries ("! é\r\r\n\n" ++ "||ü^\n||a^\r"))
      ∧ entries ("! é\r\r\n\n" ++ "||ü^\n||a^\r")
        = entries "! é\r\r\n\n" ++ (entries "||ü^\n||a^\r").map (Entry.shift 2 8) := by
  have closed : "! é\r\r\n\n".toList.getLast? = some '\n' := by decide
  refine ⟨closed, by decide +kernel, entries_tile_text.1 _, ?_⟩
  exact entries_tile_text.2 _ _ (Or.inr closed)

end Listing

end Blocklist
