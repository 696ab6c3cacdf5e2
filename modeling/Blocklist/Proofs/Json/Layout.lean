import Blocklist.Proofs.Json.Tokens

/-! Layouts of values. However white space is put between the tokens of a value, scanning
its text gives the document of the value and leaves what follows.
-/

namespace Blocklist.Json

/-- Where white space stands in a text: before the items of a depth, before the bracket that
closes a depth, and after a colon.
-/
structure Layout where
  gap : Nat → List Char
  colonGap : List Char
  gap_blank : ∀ depth, ∀ c ∈ gap depth, isSpace c = true
  colonGap_blank : ∀ c ∈ colonGap, isSpace c = true

mutual

/-- The text of a value at a nesting depth. -/
def render (layout : Layout) (depth : Nat) : Json → List Char
  | null => ['n', 'u', 'l', 'l']
  | bool value => boolChars value
  | number value => Nat.toDigits 10 value
  | string value => quote value
  | array [] => ['[', ']']
  | array (item :: rest) =>
    '[' :: (layout.gap (depth + 1)
      ++ (render layout (depth + 1) item ++ renderItems layout depth rest))
  | object [] => ['\x7b', '\x7d']
  | object ((key, value) :: rest) =>
    '\x7b' :: (layout.gap (depth + 1) ++ (quote key ++ ':' :: (layout.colonGap
      ++ (render layout (depth + 1) value ++ renderMembers layout depth rest))))

/-- The text from the end of an item on, up to the closing bracket. -/
def renderItems (layout : Layout) (depth : Nat) : List Json → List Char
  | [] => layout.gap depth ++ [']']
  | item :: rest =>
    ',' :: (layout.gap (depth + 1)
      ++ (render layout (depth + 1) item ++ renderItems layout depth rest))

/-- The text from the end of a member on, up to the closing brace. -/
def renderMembers (layout : Layout) (depth : Nat) : List (String × Json) → List Char
  | [] => layout.gap depth ++ ['\x7d']
  | (key, value) :: rest =>
    ',' :: (layout.gap (depth + 1) ++ (quote key ++ ':' :: (layout.colonGap
      ++ (render layout (depth + 1) value ++ renderMembers layout depth rest))))

end

-----------------------------------------------------------------------------------------
-- Gaps and first tokens
-----------------------------------------------------------------------------------------

theorem skipSpace_cons {c : Char} (token : isSpace c = false) (text : List Char)
    : skipSpace (c :: text) = c :: text := by
  simp [skipSpace, token]

/-- Space is passed over up to the next token. -/
theorem skipSpace_append {gap text : List Char} {c : Char}
    (blank : ∀ space ∈ gap, isSpace space = true) (token : isSpace c = false)
    : skipSpace (gap ++ c :: text) = c :: text := by
  rw [skipSpace, List.dropWhile_append_of_pos blank]
  exact skipSpace_cons token text

theorem isSpace_of_isDigit {c : Char} (digit : c.isDigit = true) : isSpace c = false := by
  simp only [isSpace, Bool.or_eq_false_iff, beq_eq_false_iff_ne]
  refine ⟨⟨⟨?_, ?_⟩, ?_⟩, ?_⟩ <;> rintro rfl <;> cases digit

/-- A value begins with a token, which closes no array. -/
theorem render_head (layout : Layout) (depth : Nat) (value : Json)
    : ∃ c text, render layout depth value = c :: text ∧ isSpace c = false ∧ c ≠ ']' := by
  cases value with
  | null => exact ⟨_, _, rfl, rfl, by decide⟩
  | bool value => cases value <;> exact ⟨_, _, rfl, rfl, by decide⟩
  | number value =>
      cases digits : Nat.toDigits 10 value with
      | nil => exact absurd digits Nat.toDigits_ne_nil
      | cons c text =>
          have digit : c.isDigit = true := isDigit_toDigits (n := value) (by simp [digits])
          refine ⟨c, text, by rw [render, digits], isSpace_of_isDigit digit, ?_⟩
          rintro rfl
          cases digit
  | string value => exact ⟨_, _, by rw [render, quote]; rfl, rfl, by decide⟩
  | array items => cases items <;> exact ⟨_, _, rfl, rfl, by decide⟩
  | object members =>
      cases members with
      | nil => exact ⟨_, _, rfl, rfl, by decide⟩
      | cons member rest => exact ⟨_, _, by rw [render], rfl, by decide⟩

theorem skipSpace_render (layout : Layout) (depth : Nat) (value : Json) {gap : List Char}
    (blank : ∀ c ∈ gap, isSpace c = true) (after : List Char)
    : skipSpace (gap ++ (render layout depth value ++ after))
      = render layout depth value ++ after := by
  obtain ⟨c, text, starts, token, -⟩ := render_head layout depth value
  rw [starts, List.cons_append, skipSpace_append blank token]

/-- What stands after an item or member ends a number: a comma, a bracket, or white space. -/
theorem ends_of_blank {gap text : List Char} (blank : ∀ c ∈ gap, isSpace c = true)
    (ends : Ends text)
    : Ends (gap ++ text) := by
  cases gap with
  | nil => exact ends
  | cons c gap =>
      have space := blank c List.mem_cons_self
      refine ends_cons ?_ _
      simp only [isSpace, Bool.or_eq_true, beq_iff_eq] at space
      rcases space with ((rfl | rfl) | rfl) | rfl <;> decide

theorem ends_renderItems (layout : Layout) (depth : Nat) (items : List Json) (rest : List Char)
    : Ends (renderItems layout depth items ++ rest) := by
  cases items with
  | nil =>
      rw [renderItems, List.append_assoc]
      exact ends_of_blank (layout.gap_blank depth) (ends_cons (by decide) rest)
  | cons item items =>
      rw [renderItems]
      exact ends_cons (by decide) _

theorem ends_renderMembers (layout : Layout) (depth : Nat) (members : List (String × Json))
    (rest : List Char)
    : Ends (renderMembers layout depth members ++ rest) := by
  cases members with
  | nil =>
      rw [renderMembers, List.append_assoc]
      exact ends_of_blank (layout.gap_blank depth) (ends_cons (by decide) rest)
  | cons member members =>
      rw [renderMembers]
      exact ends_cons (by decide) _

-----------------------------------------------------------------------------------------
-- Scanning
-----------------------------------------------------------------------------------------

@[simp]
theorem skipFault?_toDocument (value : Json) : (toDocument value).skipFault? = none := by
  cases value <;> rfl

theorem startingWith_toDocument (c : Char) (value : Json)
    : (toDocument value).startingWith c = toDocument value := by
  cases value <;> rfl

theorem scanPlain_digit {c : Char} (digit : c.isDigit = true) (text : List Char)
    : scanPlain c text = scanNumber false (c :: text) := by
  have other {d : Char} (word : d.isDigit = false) : c ≠ d := by
    rintro rfl
    rw [digit] at word
    cases word
  simp [scanPlain, other (d := '"') rfl, other (d := 'n') rfl, other (d := 't') rfl,
    other (d := 'f') rfl, other (d := '-') rfl, digit]

/-- A value that holds no others is scanned by its first character. -/
theorem scanValue_plain {fuel : Nat} {c : Char} {text rest : List Char} {value : Json}
    (array : c ≠ '[') (object : c ≠ '\x7b')
    (scanned : scanPlain c text = ⟨toDocument value, rest⟩)
    : scanValue (fuel + 1) (c :: text) = ⟨toDocument value, rest⟩ := by
  rw [scanValue, if_neg array, if_neg object, scanned]
  simp only [startingWith_toDocument]

theorem scanValue_number {fuel : Nat} (n : Nat) {rest : List Char} (ends : Ends rest)
    : scanValue (fuel + 1) (Nat.toDigits 10 n ++ rest) = ⟨toDocument (.number n), rest⟩ := by
  have scanned := scanNumber_toDigits n ends
  cases digits : Nat.toDigits 10 n with
  | nil => exact absurd digits Nat.toDigits_ne_nil
  | cons c text =>
      have digit : c.isDigit = true := isDigit_toDigits (n := n) (by simp [digits])
      rw [digits, List.cons_append, ← scanPlain_digit digit] at scanned
      exact scanValue_plain (by rintro rfl; cases digit) (by rintro rfl; cases digit) scanned

theorem scanValue_string {fuel : Nat} (text : String) (rest : List Char)
    : scanValue (fuel + 1) (quote text ++ rest) = ⟨toDocument (.string text), rest⟩ := by
  rw [quote_append]
  refine scanValue_plain (by decide) (by decide) ?_
  rw [scanPlain, if_pos rfl, scanString_quoted]
  rfl

/-- An item and those after it, given how each is scanned. -/
theorem scanItem_append {fuel : Nat} {text after rest : List Char} {value : Json}
    {items : List Json} (own : scanValue fuel (text ++ after) = ⟨toDocument value, after⟩)
    (later : scanItems fuel false (skipSpace after) = ⟨toDocuments items, none, rest⟩)
    : scanItem (fuel + 1) (text ++ after) = ⟨toDocuments (value :: items), none, rest⟩ := by
  rw [scanItem, own]
  simp only [skipFault?_toDocument, later, toDocuments]

/-- A member and those after it, given how each is scanned. -/
theorem scanMember_append {fuel : Nat} {key : String} {gap text after rest : List Char}
    {value : Json} {members : List (String × Json)}
    (spaced : skipSpace (gap ++ (text ++ after)) = text ++ after)
    (own : scanValue fuel (text ++ after) = ⟨toDocument value, after⟩)
    (later : scanMembers fuel false (skipSpace after) = ⟨toMembers members, none, rest⟩)
    : scanMember (fuel + 1)
        (key.toList.flatMap escapeChar ++ '"' :: ':' :: (gap ++ (text ++ after)))
      = ⟨toMembers ((key, value) :: members), none, rest⟩ := by
  rw [scanMember, scanKey_quoted]
  simp only [skipSpace_cons (c := ':') rfl, spaced, own, skipFault?_toDocument, later, toMembers,
    ne_eq, not_true_eq_false, if_false]

section

variable (layout : Layout) (depth fuel : Nat)

/-- The first item needs no comma, and is no closing bracket. -/
theorem scanItems_first (value : Json) (after : List Char)
    : scanItems (fuel + 1) true
        (skipSpace (layout.gap depth ++ (render layout depth value ++ after)))
      = scanItem fuel (render layout depth value ++ after) := by
  rw [skipSpace_render layout depth value (layout.gap_blank depth) after]
  obtain ⟨c, text, starts, -, opens⟩ := render_head layout depth value
  rw [starts, List.cons_append, scanItems, if_neg opens, if_pos rfl]

theorem scanItems_comma (value : Json) (after : List Char)
    : scanItems (fuel + 1) false
        (',' :: (layout.gap depth ++ (render layout depth value ++ after)))
      = scanItem fuel (render layout depth value ++ after) := by
  rw [scanItems, if_neg (by decide), if_neg (by decide), if_neg (by decide),
    skipSpace_render layout depth value (layout.gap_blank depth) after]
  obtain ⟨c, text, starts, -, opens⟩ := render_head layout depth value
  simp only [starts, List.cons_append, opens, if_false]

theorem scanMembers_first (text : List Char)
    : scanMembers (fuel + 1) true (skipSpace (layout.gap depth ++ '"' :: text))
      = scanMember fuel text := by
  rw [skipSpace_append (layout.gap_blank depth) rfl, scanMembers, if_neg (by decide),
    if_pos rfl, if_pos rfl]

theorem scanMembers_comma (text : List Char)
    : scanMembers (fuel + 1) false (',' :: (layout.gap depth ++ '"' :: text))
      = scanMember fuel text := by
  rw [scanMembers, if_neg (by decide), if_neg (by decide), if_neg (by decide),
    skipSpace_append (layout.gap_blank depth) rfl]
  simp only [if_true]

end

/-- A text is not empty, so its fuel lasts for the calls up to its first item. -/
theorem fuel_of_render {layout : Layout} {depth : Nat} {value : Json} {fuel : Nat}
    (enough : 3 * (render layout depth value).length ≤ fuel)
    : ∃ less, fuel = less + 3 := by
  obtain ⟨c, text, starts, -⟩ := render_head layout depth value
  rw [starts, List.length_cons] at enough
  exact ⟨fuel - 3, by omega⟩

mutual

/-- Scanning a value in any layout, by recursion on the value. The fuel that is left for a part
covers its text, since a comma or bracket pays for the calls that lead to it.
-/
theorem scanValue_render (layout : Layout)
    : ∀ (value : Json) (depth fuel : Nat) (rest : List Char),
        3 * (render layout depth value).length ≤ fuel → Ends rest
        → scanValue fuel (render layout depth value ++ rest) = ⟨toDocument value, rest⟩
  | .null, _, _, _, enough, _ => by
      obtain ⟨fuel, rfl⟩ := fuel_of_render enough
      exact scanValue_plain (by decide) (by decide) rfl
  | .bool true, _, _, _, enough, _ => by
      obtain ⟨fuel, rfl⟩ := fuel_of_render enough
      exact scanValue_plain (by decide) (by decide) rfl
  | .bool false, _, _, _, enough, _ => by
      obtain ⟨fuel, rfl⟩ := fuel_of_render enough
      exact scanValue_plain (by decide) (by decide) rfl
  | .number value, _, _, _, enough, ends => by
      obtain ⟨fuel, rfl⟩ := fuel_of_render enough
      exact scanValue_number value ends
  | .string value, _, _, rest, enough, _ => by
      obtain ⟨fuel, rfl⟩ := fuel_of_render enough
      exact scanValue_string value rest
  | .array [], _, _, _, enough, _ => by
      obtain ⟨fuel, rfl⟩ := fuel_of_render enough
      rfl
  | .array (item :: items), depth, _, rest, enough, _ => by
      obtain ⟨fuel, rfl⟩ := fuel_of_render enough
      simp only [render, List.length_cons, List.length_append] at enough
      have own := scanValue_render layout item (depth + 1) fuel
        (renderItems layout depth items ++ rest) (by omega)
        (ends_renderItems layout depth items rest)
      have later := scanItems_renderItems layout items depth fuel rest (by omega)
      simp only [render, List.cons_append, List.append_assoc]
      rw [scanValue, if_pos rfl, scanItems_first, scanItem_append own later, toDocument]
  | .object [], _, _, _, enough, _ => by
      obtain ⟨fuel, rfl⟩ := fuel_of_render enough
      rfl
  | .object ((key, value) :: members), depth, _, rest, enough, _ => by
      obtain ⟨fuel, rfl⟩ := fuel_of_render enough
      simp only [render, List.length_cons, List.length_append] at enough
      have own := scanValue_render layout value (depth + 1) fuel
        (renderMembers layout depth members ++ rest) (by omega)
        (ends_renderMembers layout depth members rest)
      have later := scanMembers_renderMembers layout members depth fuel rest (by omega)
      have spaced := skipSpace_render layout (depth + 1) value layout.colonGap_blank
        (renderMembers layout depth members ++ rest)
      simp only [render, List.cons_append, List.append_assoc, quote_append]
      rw [scanValue, if_neg (by decide), if_pos rfl, scanMembers_first,
        scanMember_append spaced own later, toDocument]

theorem scanItems_renderItems (layout : Layout)
    : ∀ (items : List Json) (depth fuel : Nat) (rest : List Char),
        3 * (renderItems layout depth items).length ≤ fuel
        → scanItems fuel false (skipSpace (renderItems layout depth items ++ rest))
          = ⟨toDocuments items, none, rest⟩
  | [], depth, fuel, rest, enough => by
      simp only [renderItems, List.length_append, List.length_singleton] at enough
      obtain ⟨fuel, rfl⟩ : ∃ less, fuel = less + 1 := ⟨fuel - 1, by omega⟩
      rw [renderItems, List.append_assoc, List.singleton_append,
        skipSpace_append (layout.gap_blank depth) rfl]
      rfl
  | item :: items, depth, fuel, rest, enough => by
      simp only [renderItems, List.length_cons, List.length_append] at enough
      obtain ⟨fuel, rfl⟩ : ∃ less, fuel = less + 2 := ⟨fuel - 2, by omega⟩
      have own := scanValue_render layout item (depth + 1) fuel
        (renderItems layout depth items ++ rest) (by omega)
        (ends_renderItems layout depth items rest)
      have later := scanItems_renderItems layout items depth fuel rest (by omega)
      simp only [renderItems, List.cons_append, List.append_assoc]
      rw [skipSpace_cons rfl, scanItems_comma, scanItem_append own later]

theorem scanMembers_renderMembers (layout : Layout)
    : ∀ (members : List (String × Json)) (depth fuel : Nat) (rest : List Char),
        3 * (renderMembers layout depth members).length ≤ fuel
        → scanMembers fuel false (skipSpace (renderMembers layout depth members ++ rest))
          = ⟨toMembers members, none, rest⟩
  | [], depth, fuel, rest, enough => by
      simp only [renderMembers, List.length_append, List.length_singleton] at enough
      obtain ⟨fuel, rfl⟩ : ∃ less, fuel = less + 1 := ⟨fuel - 1, by omega⟩
      rw [renderMembers, List.append_assoc, List.singleton_append,
        skipSpace_append (layout.gap_blank depth) rfl]
      rfl
  | (key, value) :: members, depth, fuel, rest, enough => by
      simp only [renderMembers, List.length_cons, List.length_append] at enough
      obtain ⟨fuel, rfl⟩ : ∃ less, fuel = less + 2 := ⟨fuel - 2, by omega⟩
      have own := scanValue_render layout value (depth + 1) fuel
        (renderMembers layout depth members ++ rest) (by omega)
        (ends_renderMembers layout depth members rest)
      have later := scanMembers_renderMembers layout members depth fuel rest (by omega)
      have spaced := skipSpace_render layout (depth + 1) value layout.colonGap_blank
        (renderMembers layout depth members ++ rest)
      simp only [renderMembers, List.cons_append, List.append_assoc, quote_append]
      rw [skipSpace_cons rfl, scanMembers_comma, scanMember_append spaced own later]

end

/-- A text that is a layout of a value gives the document of the value, and nothing follows. -/
theorem scanText_render (layout : Layout) (value : Json)
    : scanText (render layout 0 value) = (toDocument value, false) := by
  have start := skipSpace_render layout 0 value (List.forall_mem_nil _) []
  have ends : Ends [] := by
    intro c none
    cases none
  have scanned := scanValue_render layout value 0 (3 * (render layout 0 value).length + 3) []
    (Nat.le_add_right _ _) ends
  rw [List.append_nil] at scanned
  rw [List.nil_append, List.append_nil] at start
  rw [scanText, start, scanned]
  rfl

-----------------------------------------------------------------------------------------
-- Indented texts
-----------------------------------------------------------------------------------------

/-- One item or member a line. -/
def indented : Layout where
  gap := newline
  colonGap := [' ']
  gap_blank := by
    intro depth c member
    rcases List.mem_cons.mp member with rfl | space
    · rfl
    · rw [List.eq_of_mem_replicate space]
      rfl
  colonGap_blank := by
    intro c member
    rw [List.mem_singleton.mp member]
    rfl

theorem indented_gap (depth : Nat) : indented.gap depth = newline depth := rfl

theorem indented_colonGap : indented.colonGap = [' '] := rfl

mutual

/-- The indented text of a value is a layout of it, by recursion on the value. -/
theorem pretty_eq_render : ∀ (value : Json) (depth : Nat),
    pretty depth value = render indented depth value
  | .null, _ => rfl
  | .bool _, _ => by rw [pretty, render]
  | .number _, _ => by rw [pretty, render]
  | .string _, _ => by rw [pretty, render]
  | .array [], _ => by rw [pretty, render]
  | .array (item :: items), depth => by
      rw [pretty, render, List.append_assoc, List.cons_append, prettyItems_eq_render]
      rfl
  | .object [], _ => by rw [pretty, render]
  | .object ((key, value) :: members), depth => by
      rw [pretty, render, List.append_assoc, List.cons_append, prettyMembers_eq_render]
      rfl
termination_by value => sizeOf value

theorem prettyItems_eq_render : ∀ (item : Json) (items : List Json) (depth : Nat),
    prettyItems (depth + 1) (item :: items) ++ (newline depth ++ [']'])
      = newline (depth + 1)
        ++ (render indented (depth + 1) item ++ renderItems indented depth items)
  | item, [], depth => by
      simp only [prettyItems, pretty_eq_render item (depth + 1), renderItems, indented_gap,
        List.append_assoc]
  | item, next :: items, depth => by
      have later := prettyItems_eq_render next items depth
      simp only [prettyItems, pretty_eq_render item (depth + 1), renderItems, indented_gap,
        List.append_assoc, List.cons_append, later]
termination_by item items => 1 + sizeOf item + sizeOf items

theorem prettyMembers_eq_render
    : ∀ (key : String) (value : Json) (members : List (String × Json)) (depth : Nat),
        prettyMembers (depth + 1) ((key, value) :: members) ++ (newline depth ++ ['\x7d'])
        = newline (depth + 1) ++ (quote key ++ ':' :: (' '
            :: (render indented (depth + 1) value ++ renderMembers indented depth members)))
  | key, value, [], depth => by
      simp only [prettyMembers, pretty_eq_render value (depth + 1), renderMembers, indented_gap,
        List.append_assoc, List.cons_append]
  | key, value, (name, next) :: members, depth => by
      have later := prettyMembers_eq_render name next members depth
      simp only [prettyMembers, pretty_eq_render value (depth + 1), renderMembers, indented_gap,
        indented_colonGap, List.append_assoc, List.cons_append, List.nil_append, later]
termination_by _ value members => 1 + sizeOf value + sizeOf members

end

theorem scanText_toPretty (value : Json)
    : scanText value.toPretty.toList = (toDocument value, false) := by
  rw [toPretty, String.toList_ofList, pretty_eq_render, scanText_render]

-----------------------------------------------------------------------------------------
-- Compact texts
-----------------------------------------------------------------------------------------

/-- No white space anywhere. -/
def tight : Layout where
  gap _ := []
  colonGap := []
  gap_blank := fun _ => List.forall_mem_nil _
  colonGap_blank := List.forall_mem_nil _

mutual

/-- The compact text of a value is a layout of it at every depth, by recursion on the value. -/
theorem compact_eq_render : ∀ (value : Json) (depth : Nat),
    compact value = render tight depth value
  | .null, _ => rfl
  | .bool _, _ => by rw [compact, render]
  | .number _, _ => by rw [compact, render]
  | .string _, _ => by rw [compact, render]
  | .array [], _ => rfl
  | .array (item :: items), depth => by
      rw [compact, render, List.cons_append, compactItems_eq_render item items depth]
      rfl
  | .object [], _ => rfl
  | .object ((key, value) :: members), depth => by
      rw [compact, render, List.cons_append, compactMembers_eq_render key value members depth]
      rfl
termination_by value => sizeOf value

theorem compactItems_eq_render : ∀ (item : Json) (items : List Json) (depth : Nat),
    compactItems (item :: items) ++ [']']
      = render tight (depth + 1) item ++ renderItems tight depth items
  | item, [], depth => by
      rw [compactItems, compact_eq_render item (depth + 1), renderItems]
      rfl
  | item, next :: items, depth => by
      have later := compactItems_eq_render next items depth
      simp only [compactItems, compact_eq_render item (depth + 1), renderItems,
        List.append_assoc, List.cons_append, later]
      rfl
termination_by item items => 1 + sizeOf item + sizeOf items

theorem compactMembers_eq_render
    : ∀ (key : String) (value : Json) (members : List (String × Json)) (depth : Nat),
        compactMembers ((key, value) :: members) ++ ['\x7d']
        = quote key
          ++ ':' :: (render tight (depth + 1) value ++ renderMembers tight depth members)
  | key, value, [], depth => by
      rw [compactMembers, compact_eq_render value (depth + 1), renderMembers, List.append_assoc,
        List.cons_append]
      rfl
  | key, value, (name, next) :: members, depth => by
      have later := compactMembers_eq_render name next members depth
      simp only [compactMembers, compact_eq_render value (depth + 1), renderMembers,
        List.append_assoc, List.cons_append, later]
      rfl
termination_by _ value members => 1 + sizeOf value + sizeOf members

end

theorem scanText_toCompact (value : Json)
    : scanText value.toCompact.toList = (toDocument value, false) := by
  rw [toCompact, String.toList_ofList, compact_eq_render value 0, scanText_render]

end Blocklist.Json
