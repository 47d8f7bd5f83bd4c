import ProxyLink.Toml.Number

/-!
# TOML documents

Values of any kind, and the lines of a document: blank lines, comments, headers, and keys with their
values. Reading a document is all or nothing.
-/

namespace ProxyLink.Toml

/-- A word at the head of the text, and a value for it. -/
def word? (word : List Char) (value : Value) (text : List Char) : Option (Value × List Char) :=
  if word.isPrefixOf text then some (value, text.drop word.length) else none

mutual

/-- A value at the head of the text. `depth` counts the values around it, and the steps bound the
length of what is read. -/
def value? : (steps depth : Nat) → List Char → Option (Value × List Char)
  | 0, _, _ => none
  | steps + 1, depth, text =>
    match text with
    | [] => none
    | c :: rest =>
      if c = '"' ∨ c = '\'' then (string? text).map fun (s, rest) => (.string s, rest)
      else if c = '[' then
        if depthLimit ≤ depth + 1 then none
        else (elements? steps (depth + 1) rest).map fun (vs, rest) => (.array vs, rest)
      else if c = '\x7b' then
        if depthLimit ≤ depth + 1 then none
        else
          match skipSpaces rest with
          | '\x7d' :: rest => some (.table .inline [], rest)
          | _ =>
            (members? steps (depth + 1) [] rest).map fun (ms, rest) => (.table .inline ms, rest)
      else if c = 't' then word? ['t', 'r', 'u', 'e'] (.boolean true) text
      else if c = 'f' then word? ['f', 'a', 'l', 's', 'e'] (.boolean false) text
      else number? text

/-- The elements of an array up to its closing bracket; a comma may stand behind the last one. -/
def elements? : (steps depth : Nat) → List Char → Option (List Value × List Char)
  | 0, _, _ => none
  | steps + 1, depth, text => do
    let text ← skipLines? (text.length + 1) text
    match text with
    | ']' :: rest => some ([], rest)
    | _ =>
      let (v, rest) ← value? steps depth text
      match ← skipLines? (rest.length + 1) rest with
      | ']' :: rest => some ([v], rest)
      | ',' :: rest => do
        let (vs, rest) ← elements? steps depth rest
        some (v :: vs, rest)
      | _ => none

/-- The members of a table in braces up to the closing one, added to those read before. -/
def members? : (steps depth : Nat) → Members → List Char → Option (Members × List Char)
  | 0, _, _, _ => none
  | steps + 1, depth, members, text => do
    let ((path, key), rest) ← dottedKey? text
    let rest ← after? '=' rest
    let (v, rest) ← value? steps depth (skipSpaces rest)
    let members ← members.define .inline path key v
    match skipSpaces rest with
    | '\x7d' :: rest => some (members, rest)
    | ',' :: rest => members? steps depth members rest
    | _ => none

end

/-- A document as far as it has been read. -/
structure Draft where
  members : Members
  /-- The table that the last header names. -/
  current : List String

/-- A header in brackets; the text starts behind the first one. -/
def header? (draft : Draft) (text : List Char) : Option (Draft × List Char) :=
  match text with
  | '[' :: text => do
    let ((path, key), rest) ← dottedKey? text
    let rest ← after? ']' rest
    let rest ← after? ']' rest
    let members ← draft.members.extend? path key
    some (⟨members, path ++ [key]⟩, ← endLine? rest)
  | text => do
    let ((path, key), rest) ← dottedKey? text
    let rest ← after? ']' rest
    let members ← draft.members.open? path key
    some (⟨members, path ++ [key]⟩, ← endLine? rest)

/-- A key and its value. -/
def assignment? (draft : Draft) (text : List Char) : Option (Draft × List Char) := do
  let ((path, key), rest) ← dottedKey? text
  let rest ← after? '=' rest
  let (v, rest) ← value? (rest.length + 1) 0 (skipSpaces rest)
  let rest ← endLine? rest
  let members ← draft.members.assign draft.current path key v
  some (⟨members, draft.current⟩, rest)

/-- The lines of a document; the steps bound their number. -/
def lines? : (steps : Nat) → Draft → List Char → Option Members
  | 0, _, _ => none
  | steps + 1, draft, text =>
    match skipSpaces text with
    | [] => some draft.members
    | '#' :: rest => (endLine? ('#' :: rest)).bind (lines? steps draft)
    | '\n' :: rest => lines? steps draft rest
    | '\r' :: '\n' :: rest => lines? steps draft rest
    | '[' :: rest => do
      let (draft, rest) ← header? draft rest
      lines? steps draft rest
    | text => do
      let (draft, rest) ← assignment? draft text
      lines? steps draft rest

/-- The members of a document; a byte order mark may stand before it. -/
def parse? (text : String) : Option Members :=
  let chars := match text.toList with
    | '\uFEFF' :: rest => rest
    | chars => chars
  lines? (chars.length + 1) ⟨[], []⟩ chars

end ProxyLink.Toml
