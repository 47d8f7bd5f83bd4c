import ProxyLink.Frame.Layout
import ProxyLink.Registry

/-!
# Reading a frame

The type is looked up before any property is read, so an unknown type wins over every fault behind
it. Each present property is written over what a fresh message of the type already holds; a property
marked absent changes nothing.
-/

namespace ProxyLink.Frame

/-- A word at the head of the bytes, and the bytes after it. -/
def readWord (part : Part) : List UInt8 → Except Fault (Nat × List UInt8)
  | a :: b :: c :: d :: rest => .ok (wordValue a b c d, rest)
  | bytes => .error (.truncated part 4 bytes.length)

/-- A text at the head of the bytes, and the bytes after it. -/
def readText (part : Part) (bytes : List UInt8) : Except Fault (String × List UInt8) :=
  match readWord part bytes with
  | .error fault => .error fault
  | .ok (length, rest) =>
    if rest.length < length then .error (.truncated part length rest.length)
    else
      match Utf8.decode (rest.take length) with
      | .error fault => .error (.notText part fault)
      | .ok text => .ok (text, rest.drop length)

/-- A property at the head of the bytes, with its value if it is present. -/
def readEntry (bytes : List UInt8) : Except Fault ((String × Option String) × List UInt8) :=
  match readText .propertyKey bytes with
  | .error fault => .error fault
  | .ok (_, []) => .error (.truncated .presenceFlag 1 0)
  | .ok (key, flag :: rest) =>
    if flag = present then
      match readText .propertyValue rest with
      | .error fault => .error fault
      | .ok (text, rest) => .ok ((key, some text), rest)
    else if flag = absent then .ok ((key, none), rest)
    else .error (.flag flag key)

/-- The bag after one property that was read. -/
def applyEntry (bag : Bag) : String × Option String → Bag
  | (key, some text) => bag.insert key text
  | (_, none) => bag

/-- Reads `count` properties into a bag. -/
def readEntries (bag : Bag) : (count : Nat) → List UInt8 → Except Fault (Bag × List UInt8)
  | 0, bytes => .ok (bag, bytes)
  | count + 1, bytes =>
    match readEntry bytes with
    | .error fault => .error fault
    | .ok (property, rest) => readEntries (applyEntry bag property) count rest

/-- The bag that the properties of a body make of a given one. -/
def readBag (bag : Bag) (bytes : List UInt8) : Except Fault Bag :=
  match readWord .propertyCount bytes with
  | .error fault => .error fault
  | .ok (count, rest) =>
    match readEntries bag count rest with
    | .error fault => .error fault
    | .ok (bag, []) => .ok bag
    | .ok (_, extra) => .error (.trailing extra.length count)

/-- The type whose id a word holds. -/
def typeOfWord (n : Nat) : MessageType := ⟨(UInt32.ofNat n).toInt32⟩

/-- The message in a body. -/
def decodeBody (registry : Registry) (bytes : List UInt8) : Except Failure Message :=
  match readWord .messageType bytes with
  | .error fault => .error (.malformed fault)
  | .ok (n, rest) =>
    match registry.instantiate (typeOfWord n) with
    | .error failure => .error failure
    | .ok fresh =>
      match readBag fresh.bag rest with
      | .error fault => .error (.malformed fault)
      | .ok bag => .ok { fresh with bag }

/-- The message in a frame that is all of the bytes. -/
def decode (registry : Registry) (bytes : List UInt8) : Except Failure Message :=
  match readWord .bodyLength bytes with
  | .error fault => .error (.malformed fault)
  | .ok (length, body) =>
    if body.length = length then decodeBody registry body
    else .error (.malformed (.length length body.length))

end ProxyLink.Frame
