import ProxyLink.Message

/-!
# The layout of a frame

A frame is a length and a body of that many bytes. The body holds the type of a message, the number
of its properties and each property in the order of the keys: the key, a byte that says whether a
value follows, and the value. Lengths, counts and types are little-endian words of 32 bits; a text
is its length and its UTF-8 bytes.
-/

namespace ProxyLink.Frame

/-- The four bytes of a number modulo 2³², least significant byte first. -/
def word (n : Nat) : List UInt8 :=
  [.ofNat n, .ofNat (n / 256), .ofNat (n / 65536), .ofNat (n / 16777216)]

def wordValue (a b c d : UInt8) : Nat :=
  a.toNat + b.toNat * 256 + c.toNat * 65536 + d.toNat * 16777216

/-- The length and the bytes of a text. -/
def textField (text : String) : List UInt8 :=
  let bytes := Utf8.encode text
  word bytes.length ++ bytes

def present : UInt8 := 1

def absent : UInt8 := 0

def entry (key text : String) : List UInt8 := textField key ++ [present] ++ textField text

/-- The body of a frame with a given type and given properties. -/
def bodyOf (type : MessageType) (bag : Bag) : List UInt8 :=
  word type.id.toUInt32.toNat ++ word bag.size ++
    bag.entries.flatMap fun e => entry e.1 e.2

def ofBody (body : List UInt8) : List UInt8 := word body.length ++ body

/-- Bytes, with `fresh` written over those from a position on. -/
def overwriteAt (position : Nat) (fresh bytes : List UInt8) : List UInt8 :=
  bytes.take position ++ fresh ++ bytes.drop (position + fresh.length)

end ProxyLink.Frame

namespace ProxyLink.Message

def body (m : Message) : List UInt8 := Frame.bodyOf m.type m.bag

def frame (m : Message) : List UInt8 := Frame.ofBody m.body

/-- A buffer with the frame of a message behind what it holds. The length of the body is known only
once the body is there, and is then filled in before it. -/
def frameBehind (m : Message) (buffer : List UInt8) : List UInt8 :=
  let written := buffer ++ Frame.word 0 ++ m.body
  Frame.overwriteAt buffer.length (Frame.word (written.length - buffer.length - 4)) written

end ProxyLink.Message
