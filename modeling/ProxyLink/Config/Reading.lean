import ProxyLink.Config
import ProxyLink.Toml.Document

/-!
# Configurations in writing

A configuration is written as a TOML document with a table for each section. What is left out keeps
its default, and members of other names are passed over. A section may also be an array of its
values, in the order of the members; then, too, the last ones may be left out.
-/

namespace ProxyLink.Config

open Toml (Value Members)

def string? : Value → Option String
  | .string text => some text
  | _ => none

def natural? : Value → Option Nat
  | .integer n => if 0 ≤ n then some n.toNat else none
  | _ => none

/-- The number of a port. -/
def port? (value : Value) : Option UInt16 :=
  (natural? value).bind fun n => if n < 65536 then some (UInt16.ofNat n) else none

/-- Whether a value is a table or an array with nothing in it. -/
def holdsNothing : Value → Bool
  | .table _ members => members.isEmpty
  | .array elements => elements.isEmpty
  | _ => false

/-- A format is written as its name, or as a table whose one member has that name and holds
nothing. -/
def format? : Value → Option LogFormat
  | .string name => LogFormat.ofName? name
  | .table _ [(name, value)] => if holdsNothing value then LogFormat.ofName? name else none
  | _ => none

/-- The values of a section with members of the given names. A point in time has no such member. -/
def section? (names : List String) : Value → Option (List (Option Value))
  | .table _ members => some (names.map fun name => members.lookup name)
  | .array elements => some ((List.range names.length).map (elements[·]?))
  | .moment => some (names.map fun _ => none)
  | _ => none

/-- What a value is read as, or the default when there is none. -/
def orDefault {α : Type} (read : Value → Option α) (default : α) : Option Value → Option α
  | some value => read value
  | none => some default

def Proxy.ofValue? (value : Value) : Option Proxy := do
  match ← section? ["library_address", "library_port", "request_timeout", "max_frame_size"] value
    with
  | [address, port, timeout, frameLimit] =>
    some ⟨← orDefault string? Proxy.default.address address,
      ← orDefault port? Proxy.default.port port,
      ← orDefault natural? Proxy.default.timeout timeout,
      ← orDefault natural? Proxy.default.frameLimit frameLimit⟩
  | _ => none

def Logging.ofValue? (value : Value) : Option Logging := do
  match ← section? ["directory", "format", "file_prefix"] value with
  | [directory, format, fileStem] =>
    some ⟨← orDefault string? Logging.default.directory directory,
      ← orDefault format? Logging.default.format format,
      ← orDefault (fun value => (string? value).map some) Logging.default.fileStem fileStem⟩
  | _ => none

/-- The configuration that the members of a document describe. -/
def ofMembers? (members : Members) : Option Config := do
  some ⟨← orDefault Proxy.ofValue? .default (members.lookup "proxy"),
    ← orDefault Logging.ofValue? .default (members.lookup "logging")⟩

/-- The configuration that a text describes, before any check. -/
def ofText? (text : String) : Option Config := (Toml.parse? text).bind ofMembers?

/-- The configuration that a text describes, checked. The text may come from a file. -/
def parse (path : Option String) (text : String) : Except Failure Config :=
  match ofText? text with
  | some c => c.check
  | none => .error (.unparsable path)

/-- The configuration in a file, checked. -/
def load (files : Files) (path : String) : Except Failure Config :=
  match files.text path with
  | .ok text => parse (some path) text
  | .error fault => .error (.unreadable path fault)

end ProxyLink.Config
