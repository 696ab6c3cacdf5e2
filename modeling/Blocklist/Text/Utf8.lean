/-!
Reading bytes as UTF-8, with the place and extent of the first defect.
-/

namespace Blocklist.Text

/-- Where bytes stop being UTF-8: after `offset` good bytes. The next `length?` bytes can
belong to no character; without a length the bytes end inside one.
-/
structure Utf8Defect where
  offset : Nat
  length? : Option Nat
  deriving DecidableEq, Repr

/-- The wording of a defect. -/
def Utf8Defect.message (defect : Utf8Defect) : String :=
  match defect.length? with
  | some n => s!"invalid utf-8 sequence of {n} bytes from index {defect.offset}"
  | none => s!"incomplete utf-8 byte sequence from index {defect.offset}"

/-- A byte that continues a character. -/
def isContinuation (b : UInt8) : Bool :=
  0x80 ≤ b && b ≤ 0xBF

/-- Whether `b` may follow the first byte `a` of a three byte character. -/
def opensThree (a b : UInt8) : Bool :=
  if a = 0xE0 then 0xA0 ≤ b && b ≤ 0xBF
  else if a = 0xED then 0x80 ≤ b && b ≤ 0x9F
  else isContinuation b

/-- Whether `b` may follow the first byte `a` of a four byte character. -/
def opensFour (a b : UInt8) : Bool :=
  if a = 0xF0 then 0x90 ≤ b && b ≤ 0xBF
  else if a = 0xF4 then 0x80 ≤ b && b ≤ 0x8F
  else isContinuation b

/-- The character with the payload `lead` in its first byte and the given continuations. -/
def joinBytes (lead : Nat) (continuations : List UInt8) : Char :=
  Char.ofNat (continuations.foldl (fun n b => n * 64 + (b.toNat - 0x80)) lead)

/-- Decodes bytes that start at `offset` of the whole input. -/
def decodeUtf8From (offset : Nat) : List UInt8 → Except Utf8Defect (List Char)
  | [] => .ok []
  | a :: rest =>
    let bad (n : Nat) : Except Utf8Defect (List Char) := .error ⟨offset, some n⟩
    let cut : Except Utf8Defect (List Char) := .error ⟨offset, none⟩
    if a < 0x80 then (Char.ofNat a.toNat :: ·) <$> decodeUtf8From (offset + 1) rest
    else if 0xC2 ≤ a && a ≤ 0xDF then
      match rest with
      | [] => cut
      | b :: rest =>
        if !isContinuation b then bad 1
        else (joinBytes (a.toNat - 0xC0) [b] :: ·) <$> decodeUtf8From (offset + 2) rest
    else if 0xE0 ≤ a && a ≤ 0xEF then
      match rest with
      | [] => cut
      | b :: rest =>
        if !opensThree a b then bad 1
        else match rest with
          | [] => cut
          | c :: rest =>
            if !isContinuation c then bad 2
            else (joinBytes (a.toNat - 0xE0) [b, c] :: ·) <$> decodeUtf8From (offset + 3) rest
    else if 0xF0 ≤ a && a ≤ 0xF4 then
      match rest with
      | [] => cut
      | b :: rest =>
        if !opensFour a b then bad 1
        else match rest with
          | [] => cut
          | c :: rest =>
            if !isContinuation c then bad 2
            else match rest with
              | [] => cut
              | d :: rest =>
                if !isContinuation d then bad 3
                else
                  (joinBytes (a.toNat - 0xF0) [b, c, d] :: ·) <$> decodeUtf8From (offset + 4) rest
    else bad 1

/-- The text that bytes spell in UTF-8. -/
def decodeUtf8 (bytes : List UInt8) : Except Utf8Defect (List Char) :=
  decodeUtf8From 0 bytes

/-- The bytes of a text in UTF-8. -/
def encodeUtf8 (text : String) : List UInt8 :=
  text.toUTF8.toList

end Blocklist.Text
