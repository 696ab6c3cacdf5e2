import Blocklist.Host.Label

/-!
Punycode: a text over all characters as letters, digits and hyphens. ASCII characters come
first, then the others as generalised variable length integers, lowest code point first.
-/

namespace Blocklist.Host.Punycode

/-- The symbol of a digit value: `a` to `z`, then `0` to `9`. -/
def symbol (value : Nat) : Char :=
  if value < 26 then Char.ofNat (0x61 + value) else Char.ofNat (0x30 + (value - 26))

/-- The threshold at a digit position under a bias, between 1 and 26. -/
def threshold (bias position : Nat) : Nat :=
  if position ≤ bias then 1 else if bias + 26 ≤ position then 26 else position - bias

/-- A threshold is positive. -/
theorem threshold_pos (bias position : Nat) : 0 < threshold bias position := by
  unfold threshold
  split
  · omega
  · split <;> omega

/-- The symbols of an integer, least significant first, from a digit position on. -/
def integer (bias position value : Nat) : List Char :=
  let t := threshold bias position
  if value < t then [symbol value]
  else
    symbol (t + (value - t) % (36 - t)) :: integer bias (position + 36) ((value - t) / (36 - t))
termination_by value
decreasing_by
  have positive := threshold_pos bias position
  have shrinks := Nat.div_le_self (value - threshold bias position)
    (36 - threshold bias position)
  omega

/-- Divides a delta down to the range of one digit and counts the divisions by 36. -/
def damp (delta steps : Nat) : Nat :=
  if delta ≤ 455 then steps + 36 * delta / (delta + 38)
  else damp (delta / 35) (steps + 36)
termination_by delta
decreasing_by omega

/-- The bias after an integer was written, `points` characters being handled by then. -/
def adapt (delta points : Nat) (isFirst : Bool) : Nat :=
  let delta := if isFirst then delta / 700 else delta / 2
  damp (delta + delta / points) 0

/-- How far an encoding has come: characters handled, the delta so far, the bias for the next
integer and the symbols written.
-/
structure Progress where
  handled : Nat
  delta : Nat
  bias : Nat
  symbols : List Char

/-- Adds to the delta, unless it outgrows 32 bits. -/
def Progress.advance? (progress : Progress) (amount : Nat) : Option Progress :=
  if progress.delta + amount < UInt32.size then
    some { progress with delta := progress.delta + amount }
  else none

/-- Passes one character of the text while the code point `code` is being written. -/
def Progress.visit? (basic code : Nat) (progress : Progress) (c : Char) : Option Progress :=
  if c.toNat < code then progress.advance? 1
  else if c.toNat = code then
    some { handled := progress.handled + 1
           delta := 0
           bias := adapt progress.delta (progress.handled + 1) (progress.handled == basic)
           symbols := progress.symbols ++ integer progress.bias 36 progress.delta }
  else some progress

/-- Writes all occurrences of the given code points, in their order, `floor` being the least
that is not handled yet.
-/
def encodeCodes (text : List Char) (basic : Nat) : List Nat → Nat → Progress → Option Progress
  | [], _, progress => some progress
  | code :: codes, floor, progress => do
    let start ← progress.advance? ((code - floor) * (progress.handled + 1))
    let done ← text.foldlM (Progress.visit? basic code) start
    encodeCodes text basic codes (code + 1) (← done.advance? 1)

/-- The distinct code points of a text outside ASCII, in increasing order. -/
def extendedCodes (text : List Char) : List Nat :=
  (((text.filter (!isBasic ·)).map Char.toNat).mergeSort (· ≤ ·)).eraseDups

/-- The Punycode form of a text; none when a delta outgrows 32 bits. -/
def encode? (text : List Char) : Option (List Char) :=
  let basic := text.filter isBasic
  let lead := if basic.isEmpty then [] else basic ++ ['-']
  (encodeCodes text basic.length (extendedCodes text) 128
    { handled := basic.length, delta := 0, bias := 72, symbols := [] }).map
      fun progress => lead ++ progress.symbols

end Blocklist.Host.Punycode
