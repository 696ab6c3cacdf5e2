import Blocklist.Decimal.Binary64

/-!
The shortest decimal of a floating point number: the fewest digits that still lie nearer to
the number than to its neighbours, and of those the digits nearest to it.
-/

namespace Blocklist.Decimal

/-- The decimal `digits * 10 ^ exponent`. -/
structure Scientific where
  digits : Nat
  exponent : Int
  deriving DecidableEq, Repr

/-- A decimal and a number over one common scale: `grid` is the weight of the last digit,
`unit` a quarter of the weight of the last bit.
-/
structure Scale where
  grid : Nat
  unit : Nat

/-- The common scale of decimals with a given exponent and a number. -/
def scaleAt (x : Binary64) (exponent : Int) : Scale where
  grid := Nat.pow 10 exponent.toNat * Nat.pow 2 (2 - x.exponent).toNat
  unit := Nat.pow 2 (x.exponent - 2).toNat * Nat.pow 10 (-exponent).toNat

/-- Whether `digits` at an exponent rounds to the number: the half way points belong to it
when its mantissa is even, and the lower one is nearer below a power of two.
-/
def roundsTo (x : Binary64) (scale : Scale) (digits : Nat) : Bool :=
  let isBoundary := x.mantissa == leadingBit && leastExponent < x.exponent
  let low := (4 * x.mantissa - if isBoundary then 1 else 2) * scale.unit
  let high := (4 * x.mantissa + 2) * scale.unit
  let point := digits * scale.grid
  if x.mantissa % 2 == 0 then low ≤ point && point ≤ high else low < point && point < high

/-- The decimal with a given exponent that rounds to the number and is nearest to it, the
even one of two.
-/
def decimalAt? (x : Binary64) (exponent : Int) : Option Scientific :=
  let scale := scaleAt x exponent
  let value := 4 * x.mantissa * scale.unit
  let below := value / scale.grid
  let toBelow := value - below * scale.grid
  let toAbove := (below + 1) * scale.grid - value
  let isAboveNearer := toAbove < toBelow || (toAbove == toBelow && below % 2 == 1)
  match roundsTo x scale below, roundsTo x scale (below + 1) with
  | true, true => some ⟨if isAboveNearer then below + 1 else below, exponent⟩
  | true, false => some ⟨below, exponent⟩
  | false, true => some ⟨below + 1, exponent⟩
  | false, false => none

/-- The first decimal found on the way from a high exponent downwards. -/
def searchDecimal (x : Binary64) : Nat → Int → Scientific
  | 0, exponent => ⟨0, exponent⟩
  | steps + 1, exponent =>
    match decimalAt? x exponent with
    | some decimal => decimal
    | none => searchDecimal x steps (exponent - 1)

/-- The shortest decimal of a number; every number has one above `10 ^ -342`. -/
def shortest (x : Binary64) : Scientific :=
  if x.mantissa = 0 then ⟨0, 0⟩ else searchDecimal x 652 309

/-- The text of a decimal: positional for up to sixteen places before the point and five
zeros after it, else with a signed exponent. A point or an exponent always shows.
-/
def Scientific.text (decimal : Scientific) : List Char :=
  let digits := Nat.toDigits 10 decimal.digits
  let point : Int := digits.length + decimal.exponent
  let zeros (n : Int) : List Char := List.replicate n.toNat '0'
  let power : List Char :=
    'e' :: (if 0 < point then ['+'] else []) ++ (toString (point - 1)).toList
  if decimal.digits = 0 then ['0', '.', '0']
  else if 0 ≤ decimal.exponent && point ≤ 16 then
    digits ++ zeros decimal.exponent ++ ['.', '0']
  else if 0 < point && point ≤ 16 then
    digits.take point.toNat ++ '.' :: digits.drop point.toNat
  else if -5 < point && point ≤ 0 then ['0', '.'] ++ zeros (-point) ++ digits
  else if digits.length = 1 then digits ++ power
  else digits.take 1 ++ '.' :: digits.drop 1 ++ power

end Blocklist.Decimal
