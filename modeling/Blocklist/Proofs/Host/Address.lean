import Blocklist.Host.Address
import Mathlib.Data.List.TakeDrop
import Mathlib.Data.List.TakeWhile

/-! The characters of addresses: what is read as an address has hexadecimal digits, points and
colons only.
-/

namespace Blocklist.Host.Address

/-- Whether a character can stand in an address. -/
def isAddressChar (c : Char) : Bool :=
  isHexDigit c || c == '.' || c == ':'

/-- What was read of a text, up to the rest, are characters of an address. -/
def Reads (text rest : List Char) : Prop :=
  ∃ read, text = read ++ rest ∧ ∀ c ∈ read, isAddressChar c = true

theorem Reads.refl (text : List Char) : Reads text text :=
  ⟨[], rfl, fun _ none => absurd none List.not_mem_nil⟩

theorem Reads.trans {text middle rest : List Char} (one : Reads text middle)
    (two : Reads middle rest)
    : Reads text rest := by
  obtain ⟨first, rfl, firstChars⟩ := one
  obtain ⟨second, rfl, secondChars⟩ := two
  refine ⟨first ++ second, (List.append_assoc first second rest).symm, ?_⟩
  exact List.forall_mem_append.mpr ⟨firstChars, secondChars⟩

theorem reads_dropWhile {p : Char → Bool} (fits : ∀ c, p c = true → isAddressChar c = true)
    (text : List Char)
    : Reads text (text.dropWhile p) := by
  refine ⟨text.takeWhile p, List.takeWhile_append_dropWhile.symm, ?_⟩
  intro c member
  exact fits c (List.mem_takeWhile_imp member)

theorem octet?_reads {text rest : List Char} (read : octet? text = some rest)
    : Reads text rest := by
  have digits : ∀ c, Char.isDigit c = true → isAddressChar c = true := by
    intro c digit
    simp [isAddressChar, isHexDigit, digit]
  simp only [octet?, List.span_eq_takeWhile_dropWhile] at read
  split at read
  · cases read
  · split at read
    · cases read
    · obtain rfl := Option.some.inj read
      exact reads_dropWhile digits text

theorem mark?_reads {c : Char} (fits : isAddressChar c = true) {text rest : List Char}
    (read : mark? c text = some rest)
    : Reads text rest := by
  cases text with
  | nil => cases read
  | cons d text =>
      rw [mark?] at read
      split at read
      · rename_i same
        obtain rfl := Option.some.inj read
        exact ⟨[d], rfl, List.forall_mem_singleton.mpr (same ▸ fits)⟩
      · cases read

theorem dotted?_reads {text rest : List Char} (read : dotted? text = some rest)
    : Reads text rest := by
  simp only [dotted?, bind, Option.bind_eq_some_iff] at read
  obtain ⟨_, first, _, point, _, second, _, point', _, third, _, point'', fourth⟩ := read
  exact (octet?_reads first).trans ((mark?_reads rfl point).trans ((octet?_reads second).trans
    ((mark?_reads rfl point').trans ((octet?_reads third).trans
      ((mark?_reads rfl point'').trans (octet?_reads fourth))))))

theorem group?_reads {text rest : List Char} (read : group? text = some rest)
    : Reads text rest := by
  have digits : ∀ c, isHexDigit c = true → isAddressChar c = true := by
    intro c digit
    simp [isAddressChar, digit]
  simp only [group?, List.span_eq_takeWhile_dropWhile] at read
  split at read
  · cases read
  · obtain rfl := Option.some.inj read
    exact reads_dropWhile digits text

theorem groups_reads (limit : Nat) (isFirst : Bool) (text : List Char)
    : Reads text (groups limit isFirst text).rest := by
  have start {first : Bool} {text start : List Char}
      (read : (if first then some text else mark? ':' text) = some start)
      : Reads text start := by
    cases first with
    | false => exact mark?_reads rfl read
    | true =>
        obtain rfl := Option.some.inj read
        exact Reads.refl text
  fun_induction groups limit isFirst text with
  | case1 isFirst text => exact Reads.refl text
  | case2 isFirst text limit none => exact Reads.refl text
  | case3 isFirst text limit next opened rest dotted =>
      split at dotted
      · exact (start opened).trans (dotted?_reads dotted)
      · cases dotted
  | case4 isFirst text limit next opened _ _ => exact Reads.refl text
  | case5 isFirst text limit next opened _ rest group more ih =>
      exact (start opened).trans ((group?_reads group).trans ih)

theorem isGrouped_reads {text : List Char} (grouped : isGrouped text = true) : Reads text [] := by
  have front := groups_reads 8 true text
  rw [isGrouped] at grouped
  split at grouped
  · rwa [List.isEmpty_iff.mp grouped] at front
  · split at grouped
    · cases grouped
    · split at grouped
      · rename_i rest split
        rw [split] at front
        have back := groups_reads (7 - (groups 8 true text).count) true rest
        rw [List.isEmpty_iff.mp grouped] at back
        have colons : Reads (':' :: ':' :: rest) rest :=
          ⟨[':', ':'], rfl, List.all_eq_true.mp (by decide)⟩
        exact front.trans (colons.trans back)
      · cases grouped

/-- An address has no other characters. -/
theorem isAddressChar_of_isAddress {text : List Char} (address : isAddress text = true)
    : ∀ c ∈ text, isAddressChar c = true := by
  have reads : Reads text [] := by
    rw [isAddress, Bool.or_eq_true, beq_iff_eq] at address
    rcases address with dotted | grouped
    · exact dotted?_reads dotted
    · exact isGrouped_reads grouped
  obtain ⟨read, rfl, chars⟩ := reads
  rwa [List.append_nil]

end Blocklist.Host.Address
