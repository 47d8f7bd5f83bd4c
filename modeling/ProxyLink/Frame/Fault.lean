import ProxyLink.Text.Utf8

/-!
# What is wrong with a frame

The parts of a frame in the order in which they are read, and the ways in which bytes fail to be
one.
-/

namespace ProxyLink.Frame

inductive Part where
  | bodyLength
  | messageType
  | propertyCount
  | propertyKey
  | presenceFlag
  | propertyValue
  deriving DecidableEq

def Part.name : Part → String
  | .bodyLength => "body length"
  | .messageType => "message type"
  | .propertyCount => "property count"
  | .propertyKey => "property key"
  | .presenceFlag => "presence flag"
  | .propertyValue => "property value"

/-- Why bytes are no frame. -/
inductive Fault where
  /-- A part needs more bytes than there are. -/
  | truncated (part : Part) (needed available : Nat)
  /-- The body has another length than declared. -/
  | length (declared following : Nat)
  /-- A key is marked as neither absent nor present. -/
  | flag (byte : UInt8) (key : String)
  /-- A key or a value is no text. -/
  | notText (part : Part) (fault : Utf8.Fault)
  /-- Bytes follow the last property. -/
  | trailing (bytes properties : Nat)
  deriving DecidableEq

def Fault.message : Fault → String
  | .truncated part needed available =>
    s!"truncated {part.name}: need {needed} bytes, have {available}"
  | .length declared following =>
    s!"declared body length {declared} but {following} bytes follow"
  | .flag byte key => s!"invalid presence flag {byte.toNat} for property `{key}`"
  | .notText part fault => s!"{part.name} is not UTF-8: {fault.message}"
  | .trailing bytes properties => s!"{bytes} trailing bytes after {properties} properties"

end ProxyLink.Frame
