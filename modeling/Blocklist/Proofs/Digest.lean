import Blocklist.Digest

/-! Digests lose nothing on the way: each step from the last whole block to the result can be
undone, so bytes that differ in that block only have different digests.
-/

namespace Blocklist.Digest

-----------------------------------------------------------------------------------------
-- Steps on words
-----------------------------------------------------------------------------------------

/-- A factor that has an inverse can be taken off again. -/
theorem mul_injective {factor : UInt32} (inverse : UInt32) (unit : factor * inverse = 1)
    {x y : UInt32} (same : x * factor = y * factor)
    : x = y := by
  have undone := congrArg (· * inverse) same
  simpa only [UInt32.mul_assoc, unit, UInt32.mul_one] using undone

/-- Mixing upper bits into lower ones can be undone. Witness: the difference of two words with
the same result is its own shift, and a shift makes every word but zero smaller.
-/
theorem xor_shiftRight_injective {n : UInt32} (shifts : 0 < n.toNat % 32) {x y : UInt32}
    (same : x ^^^ (x >>> n) = y ^^^ (y >>> n))
    : x = y := by
  have fixed : (x ^^^ y) ^^^ ((x ^^^ y) >>> n)
      = (x ^^^ (x >>> n)) ^^^ (y ^^^ (y >>> n)) := by
    rw [UInt32.shiftRight_xor]
    ac_rfl
  rw [same, UInt32.xor_self, UInt32.xor_eq_zero_iff] at fixed
  have divided := congrArg UInt32.toNat fixed
  rw [UInt32.toNat_shiftRight, Nat.shiftRight_eq_div_pow] at divided
  rcases Nat.eq_zero_or_pos (x ^^^ y).toNat with zero | positive
  · exact UInt32.xor_eq_zero_iff.mp (UInt32.toNat_inj.mp zero)
  · have smaller := Nat.div_lt_self positive (Nat.one_lt_two_pow (Nat.ne_of_gt shifts))
    omega

section

variable {n : UInt32} (turns : 0 < n.toNat) (within : n.toNat < 32)
include turns within

theorem toBitVec_rotate (x : UInt32)
    : (rotate x n).toBitVec = x.toBitVec.rotateLeft n.toNat := by
  have back : (32 - n).toNat = 32 - n.toNat :=
    UInt32.toNat_sub_of_le 32 n (UInt32.le_iff_toNat_le.mpr (Nat.le_of_lt within))
  have rest : 32 - n.toNat < 32 := by omega
  apply BitVec.eq_of_toNat_eq
  rw [BitVec.rotateLeft_def, Nat.mod_eq_of_lt within]
  simp only [rotate, UInt32.toNat_toBitVec, UInt32.toNat_or, UInt32.toNat_shiftLeft,
    UInt32.toNat_shiftRight, back, BitVec.toNat_or, BitVec.toNat_shiftLeft,
    BitVec.toNat_ushiftRight, Nat.mod_eq_of_lt within, Nat.mod_eq_of_lt rest]

/-- A rotation can be undone: every bit stands somewhere, at the distance of the rotation or
around the end of the word.
-/
theorem rotate_injective {x y : UInt32} (same : rotate x n = rotate y n) : x = y := by
  have bits := congrArg UInt32.toBitVec same
  rw [toBitVec_rotate turns within, toBitVec_rotate turns within] at bits
  apply UInt32.toBitVec_inj.mp
  apply BitVec.eq_of_getLsbD_eq
  intro i _
  rcases Nat.lt_or_ge (i + n.toNat) 32 with straight | around
  · have moved := congrArg (BitVec.getLsbD · (i + n.toNat)) bits
    have past : ¬i + n.toNat < n.toNat := by omega
    simpa only [BitVec.getLsbD_rotateLeft, Nat.mod_eq_of_lt within, past, straight, decide_false,
      decide_true, cond_false, Bool.true_and, Nat.add_sub_cancel] using moved
  · have moved := congrArg (BitVec.getLsbD · (i + n.toNat - 32)) bits
    have wrapped : i + n.toNat - 32 < n.toNat := by omega
    have place : 32 - n.toNat + (i + n.toNat - 32) = i := by omega
    simpa only [BitVec.getLsbD_rotateLeft, Nat.mod_eq_of_lt within, wrapped, place, decide_true,
      cond_true] using moved

end

/-- A shifted number stands above a smaller one without touching it. -/
theorem or_shiftLeft_eq_add {low high bits : Nat} (below : low < Nat.pow 2 bits)
    (fits : high * Nat.pow 2 bits < UInt32.size)
    : low ||| high <<< bits % UInt32.size = low + high * Nat.pow 2 bits := by
  have shifted : high <<< bits = high * Nat.pow 2 bits := Nat.shiftLeft_eq high bits
  rw [shifted, Nat.mod_eq_of_lt fits, ← shifted, Nat.or_comm,
    ← Nat.shiftLeft_add_eq_or_of_lt below, Nat.add_comm]

theorem toNat_word (a b c d : UInt8)
    : (word a b c d).toNat
      = a.toNat + b.toNat * 256 + c.toNat * 65536 + d.toNat * 16777216 := by
  have first : a.toNat < 256 := a.toNat_lt
  have second : b.toNat < 256 := b.toNat_lt
  have third : c.toNat < 256 := c.toNat_lt
  have fourth : d.toNat < 256 := d.toNat_lt
  have two : a.toNat ||| b.toNat <<< 8 % UInt32.size = a.toNat + b.toNat * 256 :=
    or_shiftLeft_eq_add first (show b.toNat * 256 < 4294967296 by omega)
  have three : a.toNat + b.toNat * 256 ||| c.toNat <<< 16 % UInt32.size
      = a.toNat + b.toNat * 256 + c.toNat * 65536 :=
    or_shiftLeft_eq_add (show a.toNat + b.toNat * 256 < 65536 by omega)
      (show c.toNat * 65536 < 4294967296 by omega)
  have four : a.toNat + b.toNat * 256 + c.toNat * 65536 ||| d.toNat <<< 24 % UInt32.size
      = a.toNat + b.toNat * 256 + c.toNat * 65536 + d.toNat * 16777216 :=
    or_shiftLeft_eq_add
      (show a.toNat + b.toNat * 256 + c.toNat * 65536 < 16777216 by omega)
      (show d.toNat * 16777216 < 4294967296 by omega)
  rw [← four, ← three, ← two]
  simp only [word, UInt32.toNat_or, UInt32.toNat_shiftLeft, UInt8.toNat_toUInt32]
  rfl

theorem word_injective {a b c d a' b' c' d' : UInt8} (same : word a b c d = word a' b' c' d')
    : [a, b, c, d] = [a', b', c', d'] := by
  have numbers := congrArg UInt32.toNat same
  rw [toNat_word, toNat_word] at numbers
  have bounds (byte : UInt8) : byte.toNat < 256 := byte.toNat_lt
  have first := bounds a
  have first' := bounds a'
  have second := bounds b
  have second' := bounds b'
  have third := bounds c
  have third' := bounds c'
  have a_eq : a = a' := UInt8.toNat_inj.mp (by omega)
  have b_eq : b = b' := UInt8.toNat_inj.mp (by omega)
  have c_eq : c = c' := UInt8.toNat_inj.mp (by omega)
  have d_eq : d = d' := UInt8.toNat_inj.mp (by omega)
  rw [a_eq, b_eq, c_eq, d_eq]

theorem scramble_injective {x y : UInt32} (same : scramble x = scramble y) : x = y := by
  have turned := mul_injective 0x56ed309b (by decide) same
  have scaled := rotate_injective (by decide) (by decide) turned
  exact mul_injective 0xdee13bb1 (by decide) scaled

/-- After a block has been mixed into a state, all that is done to the state can be undone. -/
theorem absorb_mixed {h h' x y : UInt32} (same : absorb h x = absorb h' y)
    : h ^^^ scramble x = h' ^^^ scramble y := by
  have scaled := (UInt32.add_left_inj 0xe6546b64).mp same
  have turned := mul_injective 0xcccccccd (by decide) scaled
  exact rotate_injective (by decide) (by decide) turned

/-- A state tells the block that was mixed into it last. -/
theorem absorb_injective (h : UInt32) {x y : UInt32} (same : absorb h x = absorb h y)
    : x = y :=
  scramble_injective ((UInt32.xor_right_inj h).mp (absorb_mixed same))

/-- A state tells the one that a known block was mixed into. -/
theorem absorb_state_injective {h h' : UInt32} (k : UInt32) (same : absorb h k = absorb h' k)
    : h = h' :=
  (UInt32.xor_left_inj (scramble k)).mp (absorb_mixed same)

theorem avalanche_injective {x y : UInt32} (same : avalanche x = avalanche y) : x = y := by
  have last := xor_shiftRight_injective (by decide) same
  have middle := xor_shiftRight_injective (by decide)
    (mul_injective 0x7ed1b41d (by decide) last)
  exact xor_shiftRight_injective (by decide)
    (mul_injective 0xa5cb9243 (by decide) middle)

-----------------------------------------------------------------------------------------
-- Whole blocks
-----------------------------------------------------------------------------------------

theorem absorbAll_block (h : UInt32) (a b c d : UInt8) (rest : List UInt8)
    : absorbAll h (a :: b :: c :: d :: rest)
      = absorbAll (absorb h (word a b c d)) rest := by
  -- without `delta` the two states would be compared by computing them
  delta absorbAll
  rfl

theorem exists_block {bytes : List UInt8} (long : 4 ≤ bytes.length)
    : ∃ a b c d rest, bytes = a :: b :: c :: d :: rest := by
  rcases bytes with _ | ⟨a, _ | ⟨b, _ | ⟨c, _ | ⟨d, rest⟩⟩⟩⟩
  · simp at long
  · simp at long
  · simp at long
  · simp at long
  · exact ⟨a, b, c, d, rest, rfl⟩

/-- Bytes that do not begin with a block are a tail. -/
theorem length_lt_of_no_block {tail : List UInt8}
    (short : ∀ a b c d rest, tail = a :: b :: c :: d :: rest → False)
    : tail.length < 4 := by
  rcases Nat.lt_or_ge tail.length 4 with few | long
  · exact few
  · obtain ⟨a, b, c, d, rest, split⟩ := exists_block long
    exact (short a b c d rest split).elim

/-- Whole blocks are mixed in before all that follows them, by induction on the blocks. -/
theorem absorbAll_append (h : UInt32) {bytes : List UInt8} (whole : bytes.length % 4 = 0)
    (rest : List UInt8)
    : absorbAll h (bytes ++ rest) = absorbAll (absorbAll h bytes) rest := by
  fun_induction absorbAll h bytes with
  | case1 h a b c d bytes ih =>
      rw [List.length_cons, List.length_cons, List.length_cons, List.length_cons] at whole
      rw [List.cons_append, List.cons_append, List.cons_append, List.cons_append,
        absorbAll_block]
      exact ih (by omega)
  | case2 h tail short =>
      have few := length_lt_of_no_block short
      obtain rfl : tail = [] := List.eq_nil_of_length_eq_zero (by omega)
      rfl

/-- Digests of byte strings of one length tell the states after them. -/
theorem absorbAll_eq_of_ofBytes {seed seed' : UInt32} {bytes other : List UInt8}
    (lengths : bytes.length = other.length) (same : ofBytes seed bytes = ofBytes seed' other)
    : absorbAll seed bytes = absorbAll seed' other := by
  have states := avalanche_injective same
  rw [lengths] at states
  exact (UInt32.xor_left_inj _).mp states

/-- The digest tells a last block from every other one in its place. -/
theorem ofBytes_append_block_injective (seed : UInt32) {bytes : List UInt8}
    (whole : bytes.length % 4 = 0) {a b c d a' b' c' d' : UInt8}
    (same : ofBytes seed (bytes ++ [a, b, c, d]) = ofBytes seed (bytes ++ [a', b', c', d']))
    : [a, b, c, d] = [a', b', c', d'] := by
  have lengths : (bytes ++ [a, b, c, d]).length = (bytes ++ [a', b', c', d']).length := by
    simp only [List.length_append, List.length_cons]
  have states := absorbAll_eq_of_ofBytes lengths same
  rw [absorbAll_append seed whole, absorbAll_append seed whole, absorbAll_block, absorbAll_block]
    at states
  exact word_injective (absorb_injective _ states)

end Blocklist.Digest
