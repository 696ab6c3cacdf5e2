import Blocklist.Text.Utf8

/-!
The 32 bit digest of a byte string, from which rule ids and pattern fingerprints derive.
Four byte blocks are mixed in one after the other, then the shorter tail, then the length.
-/

namespace Blocklist.Digest

/-- Rotates a word to the left by `n` bits, for `n` from 1 to 31. -/
def rotate (x n : UInt32) : UInt32 :=
  (x <<< n) ||| (x >>> (32 - n))

/-- Scrambles one block. -/
def scramble (k : UInt32) : UInt32 :=
  rotate (k * 0xcc9e2d51) 15 * 0x1b873593

/-- Mixes a whole block into the state. -/
def absorb (h k : UInt32) : UInt32 :=
  rotate (h ^^^ scramble k) 13 * 5 + 0xe6546b64

/-- The word of four bytes, the lowest first. -/
def word (a b c d : UInt8) : UInt32 :=
  a.toUInt32 ||| (b.toUInt32 <<< 8) ||| (c.toUInt32 <<< 16) ||| (d.toUInt32 <<< 24)

/-- Mixes up to three remaining bytes into the state. -/
def absorbTail (h : UInt32) : List UInt8 → UInt32
  | [] => h
  | a :: [] => h ^^^ scramble (word a 0 0 0)
  | a :: b :: [] => h ^^^ scramble (word a b 0 0)
  | a :: b :: c :: _ => h ^^^ scramble (word a b c 0)

/-- Mixes all blocks, then the tail. -/
def absorbAll (h : UInt32) : List UInt8 → UInt32
  | a :: b :: c :: d :: rest => absorbAll (absorb h (word a b c d)) rest
  | tail => absorbTail h tail

/-- Spreads every bit of the state over the whole word. -/
def avalanche (h : UInt32) : UInt32 :=
  let h := (h ^^^ (h >>> 16)) * 0x85ebca6b
  let h := (h ^^^ (h >>> 13)) * 0xc2b2ae35
  h ^^^ (h >>> 16)

/-- The digest of a byte string under a seed. -/
def ofBytes (seed : UInt32) (bytes : List UInt8) : UInt32 :=
  avalanche (absorbAll seed bytes ^^^ UInt32.ofNat bytes.length)

/-- The seed of rule texts. -/
def textSeed : UInt32 := 0x9e3779b9

/-- The seed of patterns, other than that of texts so that the two never line up. -/
def patternSeed : UInt32 := 0x85ebca6b

/-- The digest of a rule text. -/
def ofText (text : String) : UInt32 :=
  ofBytes textSeed (Text.encodeUtf8 text)

/-- The digest of a pattern. -/
def ofPattern (pattern : String) : UInt32 :=
  ofBytes patternSeed (Text.encodeUtf8 pattern)

end Blocklist.Digest
