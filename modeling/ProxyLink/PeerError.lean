import ProxyLink.Json.Value

/-!
# Errors reported by a peer

A failed reply carries an error: its kind, a message, and perhaps details. It travels as a JSON
object. Reading takes the members in any order and passes over members of other names; the three
values alone, as an array, are read as well.
-/

namespace ProxyLink

/-- A name in lower case: an underscore stands before each of its capitals but a first one. -/
def snakeCase (name : List Char) : String :=
  match name with
  | [] => ""
  | first :: rest =>
    String.ofList
      (first.toLower :: rest.flatMap fun c => if c.isUpper then ['_', c.toLower] else [c])

/-- What kind of failure a peer reports. -/
inductive ErrorKind where
  | cancelled
  | custom
  | generic
  | panic
  | terminated
  | timeout
  deriving DecidableEq

def ErrorKind.all : List ErrorKind :=
  [.cancelled, .custom, .generic, .panic, .terminated, .timeout]

/-- The name of a kind where an error is put into words, and in the text of a property. -/
def ErrorKind.name : ErrorKind → String
  | .cancelled => "cancelled"
  | .custom => "custom"
  | .generic => "generic"
  | .panic => "panic"
  | .terminated => "terminated"
  | .timeout => "timeout"

/-- What a kind is called where it is declared. -/
def ErrorKind.identifier : ErrorKind → String
  | .cancelled => "Cancelled"
  | .custom => "Custom"
  | .generic => "Generic"
  | .panic => "Panic"
  | .terminated => "Terminated"
  | .timeout => "Timeout"

/-- The name of a kind in a record. -/
def ErrorKind.recordName (kind : ErrorKind) : String := snakeCase kind.identifier.toList

def ErrorKind.ofName? (name : String) : Option ErrorKind :=
  ErrorKind.all.find? fun kind => kind.recordName == name

/-- An error that a peer reports in place of a result. -/
structure PeerError where
  kind : ErrorKind
  message : String
  /-- More about the failure, such as where it happened. -/
  details : Option String
  deriving DecidableEq

namespace PeerError

def display (e : PeerError) : String := s!"{e.kind.name} error: {e.message}"

/-- A value for the details: a literal, or `null` when there are none. -/
def detailsText (details : Option String) : List Char :=
  match details with
  | some text => Json.literal text
  | none => "null".toList

/-- A JSON object with the given members. -/
def objectText (members : List (String × List Char)) : List Char :=
  let written := members.map fun (name, value) => Json.literal name ++ [':'] ++ value
  ['\x7b'] ++ [','].intercalate written ++ ['\x7d']

/-- The error as the text of a property: the members stand in the order of their names. -/
def toText (e : PeerError) : String :=
  String.ofList <| objectText
    [("details", detailsText e.details), ("message", Json.literal e.message),
      ("type", Json.literal e.kind.name)]

/-- The error as a record: the members stand in the order of the fields. -/
def toRecord (e : PeerError) : String :=
  String.ofList <| objectText
    [("type", Json.literal e.kind.recordName), ("message", Json.literal e.message),
      ("details", detailsText e.details)]

/-- A kind is written as its name, or as an object whose one member has that name and no value. -/
def kindOfJson? : Json → Option ErrorKind
  | .string (some name) => ErrorKind.ofName? name
  | .object [(some name, .null)] => ErrorKind.ofName? name
  | _ => none

/-- A message is a string. -/
def messageOfJson? : Json → Option String
  | .string text => text
  | _ => none

/-- Details are a string, or null. -/
def detailsOfJson? : Json → Option (Option String)
  | .null => some none
  | .string (some text) => some (some text)
  | _ => none

/-- The values of the members named `name`. -/
def named (name : String) (members : List (Option String × Json)) : List Json :=
  (members.filter fun m => m.1 == some name).map (·.2)

def ofJson? : Json → Option PeerError
  | .array [kind, message] => do
    some ⟨← kindOfJson? kind, ← messageOfJson? message, none⟩
  | .array [kind, message, details] => do
    some ⟨← kindOfJson? kind, ← messageOfJson? message, ← detailsOfJson? details⟩
  | .object members =>
    if members.all fun m => m.1.isSome then
      match named "type" members, named "message" members, named "details" members with
      | [kind], [message], [] => do
        some ⟨← kindOfJson? kind, ← messageOfJson? message, none⟩
      | [kind], [message], [details] => do
        some ⟨← kindOfJson? kind, ← messageOfJson? message, ← detailsOfJson? details⟩
      | _, _, _ => none
    else none
  | _ => none

def ofText? (text : String) : Option PeerError := (Json.parse? text.toList).bind ofJson?

end PeerError

end ProxyLink
