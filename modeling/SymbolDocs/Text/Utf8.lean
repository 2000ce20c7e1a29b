/-
Reading bytes as UTF-8, with an exact account of the first fault.

The reader stops at the first byte sequence that no character has. It reports
where the sequence starts, how many bytes it spans and why it was refused: its
first byte starts no character, a later byte does not continue it, or the data
end inside it. The span of a refused continuation covers the bytes that were
still acceptable, so the byte that broke the sequence is not part of it.
-/

set_option autoImplicit false

namespace SymbolDocs.Text.Utf8

/-- Why a byte sequence is no character. -/
inductive Cause where
  /-- No character starts with this byte. -/
  | startByte
  /-- A byte does not continue the character begun before it. -/
  | continuation
  /-- The data end inside a character. -/
  | endOfData
  deriving DecidableEq, Repr

/-- The first fault in a sequence of bytes: the refused span starts at `start`,
holds `count` bytes, and its first byte is `byte`. -/
structure Fault where
  cause : Cause
  start : Nat
  count : Nat
  byte : UInt8
  deriving DecidableEq, Repr

/-! ## Reading -/

/-- Whether a byte can continue a character. -/
def isContinuation (b : UInt8) : Bool :=
  0x80 ≤ b.toNat && b.toNat ≤ 0xBF

/-- Whether `b` may follow the first byte `a` of a character of three bytes. The
bounds exclude overlong forms and surrogates. -/
def continuesThree (a b : UInt8) : Bool :=
  isContinuation b && (if b.toNat < 0xA0 then a.toNat ≠ 0xE0 else a.toNat ≠ 0xED)

/-- Whether `b` may follow the first byte `a` of a character of four bytes. The
bounds exclude overlong forms and code points beyond U+10FFFF. -/
def continuesFour (a b : UInt8) : Bool :=
  isContinuation b && (if b.toNat < 0x90 then a.toNat ≠ 0xF0 else a.toNat ≠ 0xF4)

/-- The six bits that a continuation byte contributes. -/
def payload (b : UInt8) : Nat :=
  b.toNat % 64

/-- Reads all characters from `bytes`, the first of which is byte number `start`
of the data. -/
def decodeFrom (start : Nat) : List UInt8 → Except Fault (List Char)
  | [] => .ok []
  | a :: rest =>
    let refuse (cause : Cause) (count : Nat) : Except Fault (List Char) :=
      .error { cause := cause, start := start, count := count, byte := a }
    if a.toNat < 0x80 then
      (Char.ofNat a.toNat :: ·) <$> decodeFrom (start + 1) rest
    else if a.toNat < 0xC2 then
      refuse .startByte 1
    else if a.toNat < 0xE0 then
      match rest with
      | [] => refuse .endOfData 1
      | b :: rest =>
        if isContinuation b then
          (Char.ofNat (a.toNat % 32 * 64 + payload b) :: ·) <$> decodeFrom (start + 2) rest
        else refuse .continuation 1
    else if a.toNat < 0xF0 then
      match rest with
      | [] => refuse .endOfData 1
      | [b] => if continuesThree a b then refuse .endOfData 2 else refuse .continuation 1
      | b :: c :: rest =>
        if !continuesThree a b then refuse .continuation 1
        else if !isContinuation c then refuse .continuation 2
        else
          (Char.ofNat (a.toNat % 16 * 4096 + payload b * 64 + payload c) :: ·)
            <$> decodeFrom (start + 3) rest
    else if a.toNat < 0xF5 then
      match rest with
      | [] => refuse .endOfData 1
      | [b] => if continuesFour a b then refuse .endOfData 2 else refuse .continuation 1
      | [b, c] =>
        if !continuesFour a b then refuse .continuation 1
        else if !isContinuation c then refuse .continuation 2
        else refuse .endOfData 3
      | b :: c :: d :: rest =>
        if !continuesFour a b then refuse .continuation 1
        else if !isContinuation c then refuse .continuation 2
        else if !isContinuation d then refuse .continuation 3
        else
          (Char.ofNat (a.toNat % 8 * 262144 + payload b * 4096 + payload c * 64 + payload d) :: ·)
            <$> decodeFrom (start + 4) rest
    else refuse .startByte 1

/-- The characters that a sequence of bytes encodes. -/
def decode (bytes : List UInt8) : Except Fault (List Char) :=
  decodeFrom 0 bytes

/-- The bytes that encode a text. -/
def encode (cs : List Char) : List UInt8 :=
  cs.flatMap String.utf8EncodeChar

/-! ## Wording -/

/-- The reason for a refusal, as a diagnostic gives it. -/
def Cause.message : Cause → String
  | .startByte => "invalid start byte"
  | .continuation => "invalid continuation byte"
  | .endOfData => "unexpected end of data"

/-- A byte as two lowercase hexadecimal digits. -/
def hexByte (b : UInt8) : String :=
  String.ofList [Nat.digitChar (b.toNat / 16), Nat.digitChar (b.toNat % 16)]

/-- The text of a fault. One byte is shown by its value, several only by their
positions. -/
def Fault.message (f : Fault) : String :=
  let place :=
    if f.count = 1 then
      "byte 0x" ++ hexByte f.byte ++ " in position " ++ toString f.start
    else
      "bytes in position " ++ toString f.start ++ "-" ++ toString (f.start + f.count - 1)
  "'utf-8' codec can't decode " ++ place ++ ": " ++ f.cause.message

end SymbolDocs.Text.Utf8
