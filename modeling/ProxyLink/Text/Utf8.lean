/-!
# Text as UTF-8 bytes

Writing a text as bytes, and reading bytes as a text. A refused reading tells where the first scalar
value that cannot be read starts, and how many bytes are at fault there.
-/

namespace ProxyLink.Utf8

/-- Why a byte sequence is no text. -/
inductive Fault where
  /-- The `length` bytes at `position` start no scalar value. -/
  | invalid (position length : Nat)
  /-- The bytes end within the scalar value that starts at `position`. -/
  | incomplete (position : Nat)
  deriving DecidableEq

def Fault.message : Fault → String
  | .invalid position length =>
    s!"invalid utf-8 sequence of {length} bytes from index {position}"
  | .incomplete position => s!"incomplete utf-8 byte sequence from index {position}"

/-- The bytes of a text, scalar value by scalar value. -/
def encode (text : String) : List UInt8 := text.toList.flatMap String.utf8EncodeChar

/-- What a first byte announces: how many bytes follow it, and the bounds of the second byte, which
are narrower where a shorter form or a surrogate would otherwise be written. -/
inductive Lead where
  | single
  | double
  | triple (low high : Nat)
  | quadruple (low high : Nat)
  | refused
  deriving DecidableEq

/-- The announcement of a first byte. -/
def lead (a : Nat) : Lead :=
  if a < 0x80 then .single
  else if a < 0xC2 then .refused
  else if a < 0xE0 then .double
  else if a < 0xF0 then
    .triple (if a = 0xE0 then 0xA0 else 0x80) (if a = 0xED then 0x9F else 0xBF)
  else if a < 0xF5 then
    .quadruple (if a = 0xF0 then 0x90 else 0x80) (if a = 0xF4 then 0x8F else 0xBF)
  else .refused

def continues (b : UInt8) : Bool := 0x80 ≤ b.toNat && b.toNat ≤ 0xBF

/-- The scalar value whose low bits are spread over continuing bytes. -/
def assemble (high : Nat) (low : List UInt8) : Char :=
  Char.ofNat (low.foldl (fun n b => 64 * n + (b.toNat - 0x80)) high)

/-- The scalar values of `bytes`, the first of which stands at `position`. -/
def decodeFrom (position : Nat) : List UInt8 → Except Fault (List Char)
  | [] => .ok []
  | a :: rest =>
    match lead a.toNat with
    | .refused => .error (.invalid position 1)
    | .single => (decodeFrom (position + 1) rest).map (assemble a.toNat [] :: ·)
    | .double =>
      match rest with
      | [] => .error (.incomplete position)
      | b :: rest =>
        if continues b then
          (decodeFrom (position + 2) rest).map (assemble (a.toNat - 0xC0) [b] :: ·)
        else .error (.invalid position 1)
    | .triple low high =>
      match rest with
      | [] => .error (.incomplete position)
      | b :: rest =>
        if low ≤ b.toNat ∧ b.toNat ≤ high then
          match rest with
          | [] => .error (.incomplete position)
          | c :: rest =>
            if continues c then
              (decodeFrom (position + 3) rest).map (assemble (a.toNat - 0xE0) [b, c] :: ·)
            else .error (.invalid position 2)
        else .error (.invalid position 1)
    | .quadruple low high =>
      match rest with
      | [] => .error (.incomplete position)
      | b :: rest =>
        if low ≤ b.toNat ∧ b.toNat ≤ high then
          match rest with
          | [] => .error (.incomplete position)
          | c :: rest =>
            if continues c then
              match rest with
              | [] => .error (.incomplete position)
              | d :: rest =>
                if continues d then
                  (decodeFrom (position + 4) rest).map
                    (assemble (a.toNat - 0xF0) [b, c, d] :: ·)
                else .error (.invalid position 3)
            else .error (.invalid position 2)
        else .error (.invalid position 1)

/-- The text that `bytes` write. -/
def decode (bytes : List UInt8) : Except Fault String :=
  (decodeFrom 0 bytes).map String.ofList

end ProxyLink.Utf8
