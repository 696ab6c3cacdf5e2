import Blocklist.Proofs.Digest

/-! What digests tell apart: seeds, for every byte string, and byte strings of one length that
differ in a single block. No step of a digest forgets anything about the state it starts from,
so a difference in the state lasts to the end.
-/

namespace Blocklist.Digest

-----------------------------------------------------------------------------------------
-- Tails
-----------------------------------------------------------------------------------------

/-- The word of a tail: a block whose missing bytes are zero. -/
def tailWord (tail : List UInt8) : UInt32 :=
  word (tail.getD 0 0) (tail.getD 1 0) (tail.getD 2 0) 0

/-- A tail is mixed in like the first part of a block; an empty one is a word of zero, which
changes nothing.
-/
theorem absorbTail_eq (h : UInt32) (tail : List UInt8)
    : absorbTail h tail = h ^^^ scramble (tailWord tail) := by
  rcases tail with _ | ⟨a, _ | ⟨b, _ | ⟨c, more⟩⟩⟩
  · have nothing : scramble (tailWord []) = 0 := by decide
    rw [absorbTail, nothing, UInt32.xor_zero]
  · rfl
  · rfl
  · rfl

theorem absorbAll_tail (h : UInt32) {tail : List UInt8} (short : tail.length < 4)
    : absorbAll h tail = h ^^^ scramble (tailWord tail) := by
  rw [← absorbTail_eq]
  rcases tail with _ | ⟨a, _ | ⟨b, _ | ⟨c, _ | ⟨d, more⟩⟩⟩⟩
  · rfl
  · rfl
  · rfl
  · rfl
  · simp only [List.length_cons] at short
    omega

/-- Among tails of one length the word tells each byte. -/
theorem tailWord_injective {tail other : List UInt8} (short : tail.length < 4)
    (lengths : tail.length = other.length) (same : tailWord tail = tailWord other)
    : tail = other := by
  have bytes := word_injective same
  simp only [List.cons.injEq, and_true] at bytes
  obtain ⟨first, second, third⟩ := bytes
  apply List.ext_getElem lengths
  intro place within withinOther
  have places : place = 0 ∨ place = 1 ∨ place = 2 := by omega
  rcases places with rfl | rfl | rfl
  · simpa [within, withinOther] using first
  · simpa [within, withinOther] using second
  · simpa [within, withinOther] using third

-----------------------------------------------------------------------------------------
-- Seeds
-----------------------------------------------------------------------------------------

/-- The state after all bytes tells the one before them, by induction on the blocks. -/
theorem absorbAll_state_injective {h h' : UInt32} {bytes : List UInt8}
    (same : absorbAll h bytes = absorbAll h' bytes)
    : h = h' := by
  induction h, bytes using absorbAll.induct generalizing h' with
  | case1 h a b c d rest ih =>
      rw [absorbAll_block, absorbAll_block] at same
      exact absorb_state_injective _ (ih same)
  | case2 h tail short =>
      have few := length_lt_of_no_block short
      rw [absorbAll_tail h few, absorbAll_tail h' few] at same
      exact (UInt32.xor_left_inj _).mp same

/-- The digests of a byte string under all seeds are different. So no text has the digest of a
rule text for its digest as a pattern.
-/
theorem ofBytes_injective_in_seed
    : (∀ bytes : List UInt8, Function.Injective fun seed => ofBytes seed bytes)
      ∧ ∀ text : String, ofText text ≠ ofPattern text := by
  have injective (bytes : List UInt8) : Function.Injective fun seed => ofBytes seed bytes := by
    intro seed seed' same
    exact absorbAll_state_injective (absorbAll_eq_of_ofBytes rfl same)
  refine ⟨injective, ?_⟩
  intro text same
  have seeds : textSeed = patternSeed := injective (Text.encodeUtf8 text) same
  exact absurd seeds (by decide)

-----------------------------------------------------------------------------------------
-- Bytes
-----------------------------------------------------------------------------------------

/-- Byte strings that agree at all places outside one block. The tail after the whole blocks
counts as a block too.
-/
def AgreeOutside (block : Nat) (bytes other : List UInt8) : Prop :=
  ∀ place, place / 4 ≠ block → bytes[place]? = other[place]?

/-- Past the longer of two byte strings there is nothing to compare. -/
theorem agree_iff_bounded {chosen : Nat → Prop} {bytes other : List UInt8}
    : (∀ place, chosen place → bytes[place]? = other[place]?)
      ↔ ∀ place < max bytes.length other.length, chosen place
        → bytes[place]? = other[place]? := by
  constructor
  · exact fun agree place _ => agree place
  · intro agree place listed
    rcases Nat.lt_or_ge place (max bytes.length other.length) with within | past
    · exact agree place within listed
    · rw [List.getElem?_eq_none (by omega), List.getElem?_eq_none (by omega)]

instance (block : Nat) (bytes other : List UInt8) : Decidable (AgreeOutside block bytes other) :=
  decidable_of_iff' _ agree_iff_bounded

namespace AgreeOutside

variable {block : Nat} {bytes other : List UInt8}

/-- Outside the first block means after it. -/
theorem drop_eq (agree : AgreeOutside 0 bytes other) : bytes.drop 4 = other.drop 4 := by
  apply List.ext_getElem?
  intro place
  rw [List.getElem?_drop, List.getElem?_drop]
  exact agree (4 + place) (by omega)

theorem take_eq (agree : AgreeOutside (block + 1) bytes other)
    : bytes.take 4 = other.take 4 := by
  apply List.ext_getElem?
  intro place
  rw [List.getElem?_take, List.getElem?_take]
  split
  · exact agree place (by omega)
  · rfl

theorem drop (agree : AgreeOutside (block + 1) bytes other)
    : AgreeOutside block (bytes.drop 4) (other.drop 4) := by
  intro place outside
  rw [List.getElem?_drop, List.getElem?_drop]
  exact agree (4 + place) (by omega)

end AgreeOutside

/-- Byte strings of one length that agree outside one block and lead to the same state are the
same. By induction on the blocks: up to the block in question both strings lead to the same
state, there the state tells the block, and the blocks after it keep what has become different.
-/
theorem eq_of_absorbAll_eq {h : UInt32} {block : Nat} {bytes other : List UInt8}
    (lengths : bytes.length = other.length) (agree : AgreeOutside block bytes other)
    (same : absorbAll h bytes = absorbAll h other)
    : bytes = other := by
  induction h, bytes using absorbAll.induct generalizing block other with
  | case1 h a b c d rest ih =>
      have long : 4 ≤ other.length := by
        rw [← lengths]
        exact Nat.le_add_left 4 rest.length
      obtain ⟨a', b', c', d', rest', rfl⟩ := exists_block long
      rw [absorbAll_block, absorbAll_block] at same
      cases block with
      | zero =>
          obtain rfl : rest = rest' := agree.drop_eq
          have front := word_injective (absorb_injective h (absorbAll_state_injective same))
          exact congrArg (· ++ rest) front
      | succ block =>
          have front : [a, b, c, d] = [a', b', c', d'] := agree.take_eq
          simp only [List.cons.injEq, and_true] at front
          obtain ⟨rfl, rfl, rfl, rfl⟩ := front
          obtain rfl : rest = rest' := ih (by simpa using lengths) agree.drop same
          rfl
  | case2 h tail short =>
      have few := length_lt_of_no_block short
      rw [absorbAll_tail h few, absorbAll_tail h (lengths ▸ few)] at same
      exact tailWord_injective few lengths
        (scramble_injective ((UInt32.xor_right_inj h).mp same))

/-- Byte strings of one length that differ at one place and agree at all others. -/
structure DifferAt (place : Nat) (bytes other : List UInt8) : Prop where
  lengths : bytes.length = other.length
  differ : bytes[place]? ≠ other[place]?
  agree : ∀ elsewhere, elsewhere ≠ place → bytes[elsewhere]? = other[elsewhere]?

theorem differAt_iff {place : Nat} {bytes other : List UInt8}
    : DifferAt place bytes other
      ↔ bytes.length = other.length ∧ bytes[place]? ≠ other[place]?
        ∧ ∀ elsewhere < max bytes.length other.length, elsewhere ≠ place
          → bytes[elsewhere]? = other[elsewhere]? := by
  rw [← agree_iff_bounded]
  constructor
  · exact fun single => ⟨single.lengths, single.differ, single.agree⟩
  · exact fun parts => ⟨parts.1, parts.2.1, parts.2.2⟩

instance (place : Nat) (bytes other : List UInt8) : Decidable (DifferAt place bytes other) :=
  decidable_of_iff' _ differAt_iff

theorem DifferAt.agreeOutside {place : Nat} {bytes other : List UInt8}
    (single : DifferAt place bytes other)
    : AgreeOutside (place / 4) bytes other := by
  intro elsewhere outside
  refine single.agree elsewhere ?_
  rintro rfl
  exact outside rfl

/-- Under every seed, byte strings of one length that differ, but only within one block of four
bytes or only within the tail, have different digests. So texts of as many bytes that differ in
one of them have different digests.
-/
theorem ofBytes_separates_block
    : (∀ (seed : UInt32) (block : Nat) (bytes other : List UInt8),
        bytes.length = other.length → AgreeOutside block bytes other → bytes ≠ other
          → ofBytes seed bytes ≠ ofBytes seed other)
      ∧ ∀ (place : Nat) (text other : String),
        DifferAt place (Text.encodeUtf8 text) (Text.encodeUtf8 other)
          → ofText text ≠ ofText other := by
  have separates (seed : UInt32) (block : Nat) (bytes other : List UInt8)
      (lengths : bytes.length = other.length) (agree : AgreeOutside block bytes other)
      (differ : bytes ≠ other)
      : ofBytes seed bytes ≠ ofBytes seed other := by
    intro same
    exact differ (eq_of_absorbAll_eq lengths agree (absorbAll_eq_of_ofBytes lengths same))
  refine ⟨separates, ?_⟩
  intro place text other single
  refine separates textSeed (place / 4) _ _ single.lengths single.agreeOutside ?_
  intro same
  rw [same] at single
  exact single.differ rfl

/-- Strings of two blocks and a tail that differ in the whole second block or in the whole tail,
and two texts that differ in a byte of their third block.
-/
theorem ofBytes_separates_block_of_eleven_bytes
    : let bytes : List UInt8 := [1, 2, 3, 4, 5, 6, 7, 8, 9, 10, 11]
      let inBlock : List UInt8 := [1, 2, 3, 4, 8, 7, 6, 5, 9, 10, 11]
      let inTail : List UInt8 := [1, 2, 3, 4, 5, 6, 7, 8, 11, 9, 10]
      AgreeOutside 1 bytes inBlock ∧ (∀ seed, ofBytes seed bytes ≠ ofBytes seed inBlock)
      ∧ AgreeOutside 2 bytes inTail ∧ (∀ seed, ofBytes seed bytes ≠ ofBytes seed inTail)
      ∧ DifferAt 9 (Text.encodeUtf8 "||ads.example^") (Text.encodeUtf8 "||ads.exazple^")
      ∧ ofText "||ads.example^" ≠ ofText "||ads.exazple^" := by
  intro bytes inBlock inTail
  have block : AgreeOutside 1 bytes inBlock := by decide
  have tail : AgreeOutside 2 bytes inTail := by decide
  have single : DifferAt 9 (Text.encodeUtf8 "||ads.example^")
      (Text.encodeUtf8 "||ads.exazple^") := by decide +kernel
  obtain ⟨separates, separatesTexts⟩ := ofBytes_separates_block
  refine ⟨block, ?_, tail, ?_, single, ?_⟩
  · exact fun seed => separates seed 1 bytes inBlock rfl block (by decide)
  · exact fun seed => separates seed 2 bytes inTail rfl tail (by decide)
  · exact separatesTexts 9 _ _ single

end Blocklist.Digest
