import Blocklist.Proofs.Digest
import Blocklist.Proofs.IdPool
import Blocklist.Proofs.Text
import Mathlib.Algebra.Order.BigOperators.Group.Finset

/-! Salts lead to a free id. Salts that differ in their last four digits only give different
digests where these digits fill a block, and so many different ids that a pool of moderate
size cannot hold them all.
-/

namespace Blocklist.IdPool

-----------------------------------------------------------------------------------------
-- Digits and their bytes
-----------------------------------------------------------------------------------------

/-- The byte of a decimal digit. -/
def digitByte (digit : Nat) : UInt8 :=
  UInt8.ofNat (48 + digit)

theorem digitByte_injective {digit other : Nat} (small : digit < 10) (otherSmall : other < 10)
    (same : digitByte digit = digitByte other)
    : digit = other := by
  have numbers := congrArg UInt8.toNat same
  simp only [digitByte, UInt8.toNat_ofNat'] at numbers
  omega

theorem utf8EncodeChar_digitChar
    : ∀ digit < 10, String.utf8EncodeChar (Nat.digitChar digit) = [digitByte digit] := by
  decide

theorem toDigits_snoc {front digit : Nat} (positive : 0 < front) (small : digit < 10)
    : Nat.toDigits 10 (10 * front + digit) = Nat.toDigits 10 front ++ [digit.digitChar] := by
  rw [← Nat.toDigits_append_toDigits (by decide) positive small, Nat.toDigits_of_lt_base small]

/-- The last four digits of a number stand after its leading ones, zeros included. -/
theorem toDigits_lead {lead last : Nat} (positive : 0 < lead) (small : last < 10000)
    : Nat.toDigits 10 (lead * 10000 + last)
      = Nat.toDigits 10 lead
        ++ [(last / 1000).digitChar, (last / 100 % 10).digitChar, (last / 10 % 10).digitChar,
          (last % 10).digitChar] := by
  have split : lead * 10000 + last
      = 10 * (10 * (10 * (10 * lead + last / 1000) + last / 100 % 10) + last / 10 % 10)
        + last % 10 := by omega
  rw [split, toDigits_snoc (by omega) (by omega), toDigits_snoc (by omega) (by omega),
    toDigits_snoc (by omega) (by omega), toDigits_snoc positive (by omega)]
  simp only [List.append_assoc, List.cons_append, List.nil_append]

/-- The bytes in front of the last four digits of a salt. -/
def frontBytes (text : String) (lead : Nat) : List UInt8 :=
  Text.encodeUtf8 text ++ (Nat.toDigits 10 lead).flatMap String.utf8EncodeChar

theorem encodeUtf8_salted (text : String) {lead last : Nat} (positive : 0 < lead)
    (small : last < 10000)
    : Text.encodeUtf8 (salted text (lead * 10000 + last))
      = frontBytes text lead
        ++ [digitByte (last / 1000), digitByte (last / 100 % 10), digitByte (last / 10 % 10),
          digitByte (last % 10)] := by
  have salt : lead * 10000 + last ≠ 0 := by omega
  rw [salted, if_neg salt, Nat.toString_eq_repr, frontBytes, Text.encodeUtf8_eq,
    Text.encodeUtf8_eq, String.toList_append, Nat.toList_repr, toDigits_lead positive small]
  simp only [List.flatMap_append, List.flatMap_cons, List.flatMap_nil, List.append_assoc,
    utf8EncodeChar_digitChar (last / 1000) (by omega),
    utf8EncodeChar_digitChar (last / 100 % 10) (by omega),
    utf8EncodeChar_digitChar (last / 10 % 10) (by omega),
    utf8EncodeChar_digitChar (last % 10) (by omega), List.cons_append, List.nil_append]

-----------------------------------------------------------------------------------------
-- Aligned salts
-----------------------------------------------------------------------------------------

/-- The salts with the given leading digits and any four last ones have the same number of
digits, five to eight, and their last four fill a whole block of the salted text.
-/
structure Aligned (text : String) (lead : Nat) : Prop where
  digits : ∃ count, 5 ≤ count ∧ count ≤ 8
    ∧ ∀ last < 10000, (toString (lead * 10000 + last)).length = count
  whole : ∀ last < 10000,
    (Text.encodeUtf8 (salted text (lead * 10000 + last))).length % 4 = 0

theorem aligned_of_front {text : String} {lead : Nat} (positive : 0 < lead)
    (small : lead < 10000) (whole : (frontBytes text lead).length % 4 = 0)
    : Aligned text lead where
  digits := by
    have filled := List.length_pos_of_ne_nil (Nat.toDigits_ne_nil (b := 10) (n := lead))
    have few : (Nat.toDigits 10 lead).length ≤ 4 :=
      (Nat.length_toDigits_le_iff (by decide) (by decide)).mpr small
    refine ⟨(Nat.toDigits 10 lead).length + 4, by omega, by omega, ?_⟩
    intro last below
    rw [Nat.toString_eq_repr, ← String.length_toList, Nat.toList_repr,
      toDigits_lead positive below, List.length_append]
    rfl
  whole := by
    intro last below
    rw [encodeUtf8_salted text positive below, List.length_append]
    simp only [List.length_cons, List.length_nil]
    omega

/-- One to four leading digits make any text end on a block. -/
theorem exists_aligned (text : String) : ∃ lead, Aligned text lead := by
  have front (lead : Nat)
      : (frontBytes text lead).length
        = (Text.encodeUtf8 text).length
          + ((Nat.toDigits 10 lead).flatMap String.utf8EncodeChar).length :=
    List.length_append
  have four : ((Nat.toDigits 10 1000).flatMap String.utf8EncodeChar).length = 4 := by decide
  have three : ((Nat.toDigits 10 100).flatMap String.utf8EncodeChar).length = 3 := by decide
  have two : ((Nat.toDigits 10 10).flatMap String.utf8EncodeChar).length = 2 := by decide
  have one : ((Nat.toDigits 10 1).flatMap String.utf8EncodeChar).length = 1 := by decide
  have remainders : (Text.encodeUtf8 text).length % 4 = 0 ∨ (Text.encodeUtf8 text).length % 4 = 1
      ∨ (Text.encodeUtf8 text).length % 4 = 2 ∨ (Text.encodeUtf8 text).length % 4 = 3 := by
    omega
  rcases remainders with none | byte | pair | triple
  · exact ⟨1000, aligned_of_front (by decide) (by decide) (by rw [front, four]; omega)⟩
  · exact ⟨100, aligned_of_front (by decide) (by decide) (by rw [front, three]; omega)⟩
  · exact ⟨10, aligned_of_front (by decide) (by decide) (by rw [front, two]; omega)⟩
  · exact ⟨1, aligned_of_front (by decide) (by decide) (by rw [front, one]; omega)⟩

-----------------------------------------------------------------------------------------
-- Ids of aligned salts
-----------------------------------------------------------------------------------------

/-- The ids below the least one are two. -/
theorem reserved_cases {id : UInt32} (reserved : id < Declarative.minId) : id = 0 ∨ id = 1 := by
  have small : id.toNat < 2 := UInt32.lt_iff_toNat_lt.mp reserved
  rcases Nat.eq_zero_or_pos id.toNat with zero | positive
  · exact Or.inl (UInt32.toNat_inj.mp zero)
  · have one : id.toNat = 1 := by omega
    exact Or.inr (UInt32.toNat_inj.mp one)

/-- The id of a text leaves the highest bit of its digest open, and no other. -/
theorem ofText_of_textId (text : String)
    : Digest.ofText text = textId text ∨ Digest.ofText text = textId text + 0x80000000 := by
  have masked : (textId text).toNat = (Digest.ofText text).toNat % 2147483648 := by
    rw [textId, UInt32.toNat_and]
    exact Nat.and_two_pow_sub_one_eq_mod (Digest.ofText text).toNat 31
  have bound : (Digest.ofText text).toNat < 4294967296 := (Digest.ofText text).toNat_lt
  have top : (0x80000000 : UInt32).toNat = 2147483648 := rfl
  rcases Nat.lt_or_ge (Digest.ofText text).toNat 2147483648 with low | high
  · left
    apply UInt32.toNat_inj.mp
    omega
  · right
    apply UInt32.toNat_inj.mp
    rw [UInt32.toNat_add, masked, top]
    omega

namespace Aligned

variable {text : String} {lead : Nat} (aligned : Aligned text lead)
include aligned

theorem lead_pos : 0 < lead := by
  obtain ⟨count, many, -, counted⟩ := aligned.digits
  rcases Nat.eq_zero_or_pos lead with zero | positive
  · have single : (toString (lead * 10000 + 0)).length = count := counted 0 (by decide)
    rw [zero] at single
    have one : (toString (0 * 10000 + 0)).length = 1 := by decide
    omega
  · exact positive

theorem salt_lt {last : Nat} (small : last < 10000) : lead * 10000 + last < 100000000 := by
  obtain ⟨count, -, few, counted⟩ := aligned.digits
  have digits := counted last small
  rw [Nat.toString_eq_repr] at digits
  exact (Nat.length_repr_le_iff (by decide)).mp (digits.trans_le few)

/-- Aligned salts have different digests: the digest tells their last four digits. -/
theorem ofText_injective {last other : Nat} (small : last < 10000) (otherSmall : other < 10000)
    (same : Digest.ofText (salted text (lead * 10000 + last))
      = Digest.ofText (salted text (lead * 10000 + other)))
    : last = other := by
  have whole := aligned.whole last small
  rw [encodeUtf8_salted text aligned.lead_pos small, List.length_append] at whole
  simp only [List.length_cons, List.length_nil] at whole
  rw [Digest.ofText, Digest.ofText, encodeUtf8_salted text aligned.lead_pos small,
    encodeUtf8_salted text aligned.lead_pos otherSmall] at same
  have bytes := Digest.ofBytes_append_block_injective Digest.textSeed (by omega) same
  simp only [List.cons.injEq, and_true] at bytes
  obtain ⟨thousands, hundreds, tens, ones⟩ := bytes
  have first := digitByte_injective (by omega) (by omega) thousands
  have second := digitByte_injective (by omega) (by omega) hundreds
  have third := digitByte_injective (by omega) (by omega) tens
  have fourth := digitByte_injective (by omega) (by omega) ones
  omega

/-- No three aligned salts lead to one id: their digests differ, and only the highest bit is
open.
-/
theorem salts_of_id_le_two (id : UInt32)
    : ((Finset.range 10000).filter fun last =>
        textId (salted text (lead * 10000 + last)) = id).card ≤ 2 := by
  refine le_trans (Finset.card_le_card_of_injOn
    (fun last => Digest.ofText (salted text (lead * 10000 + last))) ?_ ?_)
    (Finset.card_le_two (a := id) (b := id + 0x80000000))
  · intro last member
    have named : textId (salted text (lead * 10000 + last)) = id := (Finset.mem_filter.mp member).2
    rw [← named]
    simpa only [Finset.coe_insert, Finset.coe_singleton, Set.mem_insert_iff,
      Set.mem_singleton_iff] using ofText_of_textId (salted text (lead * 10000 + last))
  · intro last member other otherMember same
    have small := Finset.mem_range.mp (Finset.mem_filter.mp member).1
    have otherSmall := Finset.mem_range.mp (Finset.mem_filter.mp otherMember).1
    exact aligned.ofText_injective small otherSmall same

/-- Aligned salts lead to at least half as many ids as there are salts. -/
theorem five_thousand_le_ids
    : 5000 ≤ ((Finset.range 10000).image fun last =>
        textId (salted text (lead * 10000 + last))).card := by
  have halved := Finset.card_le_mul_card_image (Finset.range 10000) 2
    fun id _ => aligned.salts_of_id_le_two id
  rw [Finset.card_range] at halved
  omega

/-- The ids of aligned salts are more than 4997 ids in use and the two reserved ones. -/
theorem exists_free {pool : IdPool} (few : pool.size ≤ 4997)
    : ∃ last < 10000, pool.isFree (textId (salted text (lead * 10000 + last))) = true := by
  have covered : (insert 0 (insert 1 pool.taken.toFinset) : Finset UInt32).card ≤ 4999 := by
    have listed : pool.taken.toFinset.card ≤ pool.size := List.toFinset_card_le pool.taken
    have one := Finset.card_insert_le (1 : UInt32) pool.taken.toFinset
    have zero := Finset.card_insert_le (0 : UInt32) (insert 1 pool.taken.toFinset)
    omega
  obtain ⟨id, reached, fresh⟩ := Finset.exists_mem_notMem_of_card_lt_card
    (Nat.lt_of_le_of_lt covered (Nat.lt_of_lt_of_le (by decide) aligned.five_thousand_le_ids))
  obtain ⟨last, member, rfl⟩ := Finset.mem_image.mp reached
  simp only [Finset.mem_insert, List.mem_toFinset, not_or] at fresh
  obtain ⟨notZero, notOne, untaken⟩ := fresh
  refine ⟨last, Finset.mem_range.mp member, isFree_iff.mpr ⟨?_, untaken⟩⟩
  rw [← UInt32.not_lt]
  exact fun reserved => (reserved_cases reserved).elim notZero notOne

end Aligned

-----------------------------------------------------------------------------------------
-- The search for a free id
-----------------------------------------------------------------------------------------

/-- An allocation ends at a salt whose id is free, unless it has ended before. -/
theorem allocate?_of_free {pool : IdPool} {text : String} {known : Nat}
    (counted : known < saltCount) (free : pool.isFree (textId (salted text known)) = true)
    : ∃ salt ≤ known,
        pool.allocate? text
          = some (textId (salted text salt), ⟨textId (salted text salt) :: pool.taken⟩)
        ∧ ∀ earlier < salt, pool.isFree (textId (salted text earlier)) = false := by
  cases found : pool.search? text saltCount 0 with
  | none =>
      have taken := search?_eq_none.mp found known counted
      rw [Nat.zero_add, free] at taken
      cases taken
  | some id =>
      obtain ⟨salt, -, rfl, -, first⟩ := search?_eq_some found
      simp only [Nat.zero_add, Bool.not_eq_true] at first
      refine ⟨salt, ?_, by rw [allocate?, found, Option.map_some, Nat.zero_add], first⟩
      rcases Nat.lt_or_ge known salt with passed | reached
      · rw [first known passed] at free
        cases free
      · exact reached

/-- Allocations end: with at most 4997 ids in use, every text gets the id of its first salt that
leads to a free one, and that salt is below a hundred millions, far from the end of the salts.
For among the ten thousand salts of five to eight digits that differ in the last four only,
where these fill a block of the salted text, no two have the same digest, so they lead to five
thousand ids at least.
-/
theorem allocation_ends (pool : IdPool) (text : String) (few : pool.size ≤ 4997)
    : (∃ salt < 100000000, salt < saltCount
        ∧ pool.allocate? text
          = some (textId (salted text salt), ⟨textId (salted text salt) :: pool.taken⟩)
        ∧ ∀ earlier < salt, pool.isFree (textId (salted text earlier)) = false)
      ∧ ∃ lead, Aligned text lead
        ∧ (∀ last < 10000, ∀ other < 10000, last ≠ other
            → Digest.ofText (salted text (lead * 10000 + last))
              ≠ Digest.ofText (salted text (lead * 10000 + other)))
        ∧ 5000 ≤ ((Finset.range 10000).image fun last =>
            textId (salted text (lead * 10000 + last))).card := by
  obtain ⟨lead, aligned⟩ := exists_aligned text
  have room : 100000000 < saltCount := by decide
  refine ⟨?_, lead, aligned, ?_, aligned.five_thousand_le_ids⟩
  · obtain ⟨last, small, free⟩ := aligned.exists_free few
    have bound := aligned.salt_lt small
    obtain ⟨salt, before, allocated, first⟩ := allocate?_of_free (bound.trans room) free
    exact ⟨salt, by omega, by omega, allocated, first⟩
  · intro last small other otherSmall differs same
    exact differs (aligned.ofText_injective small otherSmall same)

/-- A text whose own id and whose first two salts' ids are in use. -/
theorem allocation_ends_of_taken_text
    : let pool : IdPool := ⟨[906375932, 1159219705, 1052479588]⟩
      pool.size ≤ 4997
      ∧ (∀ salt < 3, pool.isFree (textId (salted "||ads.example^" salt)) = false)
      ∧ ∃ salt < 100000000, 3 ≤ salt
        ∧ pool.allocate? "||ads.example^"
          = some (textId (salted "||ads.example^" salt),
              ⟨textId (salted "||ads.example^" salt) :: pool.taken⟩) := by
  intro pool
  have few : pool.size ≤ 4997 := by decide
  have taken : ∀ salt < 3, pool.isFree (textId (salted "||ads.example^" salt)) = false := by
    decide +kernel
  obtain ⟨⟨salt, bound, -, allocated, -⟩, -⟩ := allocation_ends pool "||ads.example^" few
  refine ⟨few, taken, salt, bound, ?_, allocated⟩
  rcases Nat.lt_or_ge salt 3 with early | late
  · obtain ⟨least, -, fresh, -⟩ := allocate?_eq_some allocated
    have free := isFree_iff.mpr ⟨least, fresh⟩
    rw [taken salt early] at free
    cases free
  · exact late

end Blocklist.IdPool
