/-!
Nonnegative binary floating point numbers of 53 bits, in exact integer arithmetic: rounding
a quotient to the nearest one, and reading a decimal.
-/

namespace Blocklist.Decimal

/-- The number `mantissa * 2 ^ exponent`, the mantissa being below `2 ^ 53`. -/
structure Binary64 where
  mantissa : Nat
  exponent : Int
  deriving DecidableEq, Repr

/-- The weight of the leading bit of a mantissa, `2 ^ 52`. -/
def leadingBit : Nat := 0x10000000000000

/-- The least exponent of a number. -/
def leastExponent : Int := -1074

/-- The greatest exponent of a number. -/
def greatestExponent : Int := 971

/-- The integer nearest to a quotient, the even one of two. -/
def roundDiv (num den : Nat) : Nat :=
  let floor := num / den
  let twice := 2 * (num % den)
  if den < twice || (twice == den && floor % 2 == 1) then floor + 1 else floor

/-- A quotient divided by a power of two, as numerator and denominator. -/
def scaleDown (num den : Nat) (power : Int) : Nat × Nat :=
  (num * Nat.pow 2 (-power).toNat, den * Nat.pow 2 power.toNat)

namespace Binary64

/-- The number nearest to a quotient, the one with an even mantissa of two; none when it
would be too large.
-/
def ofQuotient? (num den : Nat) : Option Binary64 :=
  if num = 0 then some ⟨0, leastExponent⟩
  else
    let guess : Int := (Nat.log2 num : Int) - (Nat.log2 den : Int) - 53
    let (n, d) := scaleDown num den guess
    let exponent := max (if 2 * leadingBit ≤ n / d then guess + 1 else guess) leastExponent
    let (n, d) := scaleDown num den exponent
    let mantissa := roundDiv n d
    let (mantissa, exponent) :=
      if mantissa = 2 * leadingBit then (leadingBit, exponent + 1) else (mantissa, exponent)
    if greatestExponent < exponent then none else some ⟨mantissa, exponent⟩

/-- A number as numerator and denominator. -/
def toQuotient (x : Binary64) : Nat × Nat :=
  (x.mantissa * Nat.pow 2 x.exponent.toNat, Nat.pow 2 (-x.exponent).toNat)

/-- The rounded product. -/
def mul? (x y : Binary64) : Option Binary64 :=
  ofQuotient? (x.toQuotient.1 * y.toQuotient.1) (x.toQuotient.2 * y.toQuotient.2)

/-- The rounded quotient. -/
def div? (x y : Binary64) : Option Binary64 :=
  ofQuotient? (x.toQuotient.1 * y.toQuotient.2) (x.toQuotient.2 * y.toQuotient.1)

/-- The number nearest to a power of ten. -/
def powerOfTen? (n : Nat) : Option Binary64 :=
  ofQuotient? (Nat.pow 10 n) 1

/-- The leading digits of a natural number that fit 64 bits, and how many are left out. -/
def leadingDigits (digits dropped : Nat) : Nat × Nat :=
  if digits < UInt64.size then (digits, dropped) else leadingDigits (digits / 10) (dropped + 1)
termination_by digits
decreasing_by
  simp only [UInt64.size] at *
  omega

/-- The reading of `digits * 10 ^ (exponent - places)`, the last `places` digits being behind
the point. The leading digits before the point are taken, then those behind it as long as
they fit. They are rounded first, then scaled by the rounded power of ten, in two steps where
one power does not suffice. None when the number is too large.
-/
def ofDecimal? (digits places : Nat) (exponent : Int) : Option Binary64 := do
  let unit := Nat.pow 10 places
  let (whole, dropped) := leadingDigits (digits / unit) 0
  let (lead, unread) := leadingDigits (whole * unit + digits % unit) 0
  let exponent := exponent - places + dropped + unread
  let number ← ofQuotient? lead 1
  if lead = 0 then return number
  else if 308 < exponent then none
  else if 0 ≤ exponent then number.mul? (← powerOfTen? exponent.toNat)
  else if -308 ≤ exponent then number.div? (← powerOfTen? (-exponent).toNat)
  else
    let scaled ← number.div? (← powerOfTen? 308)
    if -616 ≤ exponent then scaled.div? (← powerOfTen? (-exponent - 308).toNat)
    else return ⟨0, leastExponent⟩

end Binary64

end Blocklist.Decimal
