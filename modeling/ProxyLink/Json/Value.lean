import ProxyLink.Json.Token

/-!
# JSON values

Values as trees, read from the tokens of a text. Members keep their order and repetitions, and a
member's name, like any string, may denote no text.
-/

namespace ProxyLink

inductive Json where
  | null
  | bool (value : Bool)
  | number
  /-- A string, with its text if its literal denotes one. -/
  | string (text : Option String)
  | array (elements : List Json)
  | object (members : List (Option String × Json))

namespace Json

mutual

/-- The value that the tokens start with, and the tokens after it. The steps bound the depth and the
length of what is read; twice the number of tokens is always enough. -/
def valueWithin : (steps : Nat) → List Token → Option (Json × List Token)
  | 0, _ => none
  | steps + 1, toks =>
    match toks with
    | .null :: rest => some (.null, rest)
    | .bool b :: rest => some (.bool b, rest)
    | .number :: rest => some (.number, rest)
    | .string s :: rest => some (.string s, rest)
    | .openBracket :: .closeBracket :: rest => some (.array [], rest)
    | .openBracket :: rest =>
      (elementsWithin steps rest).map fun (elements, rest) => (.array elements, rest)
    | .openBrace :: .closeBrace :: rest => some (.object [], rest)
    | .openBrace :: rest =>
      (membersWithin steps rest).map fun (members, rest) => (.object members, rest)
    | _ => none

/-- One or more elements up to the closing bracket. -/
def elementsWithin : (steps : Nat) → List Token → Option (List Json × List Token)
  | 0, _ => none
  | steps + 1, toks =>
    match valueWithin steps toks with
    | some (v, .closeBracket :: rest) => some ([v], rest)
    | some (v, .comma :: rest) =>
      (elementsWithin steps rest).map fun (elements, rest) => (v :: elements, rest)
    | _ => none

/-- One or more members up to the closing brace. -/
def membersWithin : (steps : Nat) → List Token → Option (List (Option String × Json) × List Token)
  | 0, _ => none
  | steps + 1, toks =>
    match toks with
    | .string name :: .colon :: toks =>
      match valueWithin steps toks with
      | some (v, .closeBrace :: rest) => some ([(name, v)], rest)
      | some (v, .comma :: rest) =>
        (membersWithin steps rest).map fun (members, rest) => ((name, v) :: members, rest)
      | _ => none
    | _ => none

end

/-- The value that a text writes, with blank characters before and after it and nothing else. -/
def parse? (text : List Char) : Option Json := do
  let toks ← tokens text
  match valueWithin (2 * toks.length + 1) toks with
  | some (v, []) => some v
  | _ => none

/-- One character within a string literal. -/
def escape (c : Char) : List Char :=
  if c = '"' then ['\\', '"']
  else if c = '\\' then ['\\', '\\']
  else if c = '\x08' then ['\\', 'b']
  else if c = '\x0c' then ['\\', 'f']
  else if c = '\n' then ['\\', 'n']
  else if c = '\r' then ['\\', 'r']
  else if c = '\t' then ['\\', 't']
  else if c.toNat < 0x20 then
    ['\\', 'u', '0', '0', Nat.digitChar (c.toNat / 16), Nat.digitChar (c.toNat % 16)]
  else [c]

/-- The literal of a text: control characters are escaped, and everything else stands as it is. -/
def literal (text : String) : List Char := '"' :: (text.toList.flatMap escape ++ ['"'])

end Json

end ProxyLink
