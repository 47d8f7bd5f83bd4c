import ProxyLink.Text.HexDigit
import ProxyLink.Text.Utf8
import ProxyLink.Text.Quoted

/-!
# Hexadecimal text

Bytes as pairs of digits. Writing uses small letters; reading takes letters of both cases.
-/

namespace ProxyLink.Hex

/-- The digits of a byte sequence, high half first. -/
def encode (bytes : List UInt8) : List Char :=
  bytes.flatMap fun b => [digit (b.toNat / 16), digit (b.toNat % 16)]

/-- Why a text is no sequence of pairs of digits. -/
inductive Fault where
  /-- One half of the last pair is missing. -/
  | odd
  /-- The byte at `position` is no digit. -/
  | notDigit (byte : UInt8) (position : Nat)
  deriving DecidableEq

/-- The fault in words; a byte is shown as the character with its code. -/
def Fault.message : Fault → String
  | .odd => "Odd number of digits"
  | .notDigit byte position =>
    s!"Invalid character {Text.quoteChar (Char.ofNat byte.toNat)} at position {position}"

/-- The bytes that pairs of digits write, the first of which stands at `position`. -/
def decodePairs (position : Nat) : List UInt8 → Except Fault (List UInt8)
  | [] => .ok []
  | [_] => .error .odd
  | h :: l :: rest =>
    match value? h.toNat, value? l.toNat with
    | none, _ => .error (.notDigit h position)
    | some _, none => .error (.notDigit l (position + 1))
    | some high, some low =>
      (decodePairs (position + 2) rest).map (UInt8.ofNat (16 * high + low) :: ·)

/-- The bytes that a text writes; an odd number of bytes is noticed before any other fault. -/
def decode (text : String) : Except Fault (List UInt8) :=
  let bytes := Utf8.encode text
  if bytes.length % 2 = 1 then .error .odd else decodePairs 0 bytes

end ProxyLink.Hex
