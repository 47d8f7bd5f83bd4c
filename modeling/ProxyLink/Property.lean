import ProxyLink.PeerError
import ProxyLink.Text.Base64
import ProxyLink.Text.Decimal
import ProxyLink.Text.Quoted

/-!
# Typed property texts

A property is stored as text. Each type of value has one text that it is written as, and may read
others: an integer reads a plus sign and leading zeros, a string reads every text.
-/

namespace ProxyLink

/-- A span of time in whole nanoseconds; the seconds in it have 64 bits. -/
structure Duration where
  nanoseconds : Nat
  inRange : nanoseconds / 1000000000 < 18446744073709551616

namespace Duration

instance : DecidableEq Duration := fun a b =>
  decidable_of_iff (a.nanoseconds = b.nanoseconds)
    ⟨fun h => by cases a; cases b; cases h; rfl, fun h => h ▸ rfl⟩

/-- The span of `n` nanoseconds, if its seconds have 64 bits. -/
def ofNat? (n : Nat) : Option Duration :=
  if h : n / 1000000000 < 18446744073709551616 then some ⟨n, h⟩ else none

def zero : Duration := ⟨0, by decide⟩

def seconds (d : Duration) : Nat := d.nanoseconds / 1000000000

/-- What a span has beyond whole seconds. -/
def subsecond (d : Duration) : Nat := d.nanoseconds % 1000000000

end Duration

/-- A type of value that can be stored as the text of a property. -/
class Property (α : Type) where
  /-- What the type is called when a text cannot be read. -/
  typeName : String
  /-- The text that a value is written as. -/
  toText : α → String
  /-- The value that a text reads as. -/
  ofText? : String → Option α

instance : Property String where
  typeName := "string"
  toText text := text
  ofText? text := some text

instance : Property Bool where
  typeName := "boolean"
  toText
    | true => "true"
    | false => "false"
  ofText? text :=
    if text = "true" then some true else if text = "false" then some false else none

instance : Property Int64 where
  typeName := "64-bit integer"
  toText := Decimal.ofInt64
  ofText? text := Decimal.int64? text.toList

/-- The text is a number of any size. To refuse a number of more than 128 bits first would refuse
nothing else: it is beyond the spans already. -/
instance : Property Duration where
  typeName := "duration"
  toText d := Decimal.ofNat d.nanoseconds
  ofText? text := (Decimal.unsigned? text.toList).bind Duration.ofNat?

instance : Property (List UInt8) where
  typeName := "byte array"
  toText bytes := String.ofList (Base64.encode bytes)
  ofText? text := Base64.decode? text.toList

instance : Property PeerError where
  typeName := "error"
  toText := PeerError.toText
  ofText? := PeerError.ofText?

/-- A stored text that does not read as a value of the type asked for. -/
structure PropertyError where
  key : String
  /-- What the type asked for is called. -/
  expected : String
  text : String
  deriving DecidableEq

def PropertyError.message (e : PropertyError) : String :=
  s!"property `{e.key}` holds {Text.quote e.text}, which is not a valid {e.expected}"

/-- The types that the properties of messages have. -/
inductive ValueType where
  | string
  | bool
  | int64
  | duration
  | bytes
  | error
  deriving DecidableEq

/-- The values of a property type. -/
abbrev ValueType.Value : ValueType → Type
  | .string => String
  | .bool => Bool
  | .int64 => Int64
  | .duration => Duration
  | .bytes => List UInt8
  | .error => PeerError

instance (type : ValueType) : Property type.Value :=
  match type with
  | .string => inferInstanceAs (Property String)
  | .bool => inferInstanceAs (Property Bool)
  | .int64 => inferInstanceAs (Property Int64)
  | .duration => inferInstanceAs (Property Duration)
  | .bytes => inferInstanceAs (Property (List UInt8))
  | .error => inferInstanceAs (Property PeerError)

end ProxyLink
