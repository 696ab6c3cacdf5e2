import Blocklist.Text.Utf8

/-!
Percent decoding: `%` and two hexadecimal digits stand for one byte.
-/

namespace Blocklist.Text

/-- The value of a hexadecimal digit. -/
def hexValue? (b : UInt8) : Option UInt8 :=
  if 0x30 ≤ b && b ≤ 0x39 then some (b - 0x30)
  else if 0x41 ≤ b && b ≤ 0x46 then some (b - 0x37)
  else if 0x61 ≤ b && b ≤ 0x66 then some (b - 0x57)
  else none

/-- The byte that two hexadecimal digits spell. -/
def hexPair? (hi lo : UInt8) : Option UInt8 := do
  return (← hexValue? hi) * 16 + (← hexValue? lo)

/-- Replaces every complete escape by its byte; any other `%` stays. -/
def percentBytes : List UInt8 → List UInt8
  | [] => []
  | b :: rest =>
    if b = 0x25 then
      match rest with
      | hi :: lo :: after =>
        match hexPair? hi lo with
        | some byte => byte :: percentBytes after
        | none => b :: percentBytes (hi :: lo :: after)
      | short => b :: short
    else b :: percentBytes rest

/-- Percent decodes a text; the bytes must be UTF-8 again. -/
def percentDecode (text : String) : Except Utf8Defect String :=
  String.ofList <$> decodeUtf8 (percentBytes (encodeUtf8 text))

end Blocklist.Text
