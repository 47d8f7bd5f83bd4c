import ProxyLink.Text.HexDigit

/-!
# The smallest parts of a TOML text

Blanks, comments, the ends of lines, keys and strings. Each reader takes a part from the head of the
text and returns it with what follows, or fails.
-/

namespace ProxyLink.Toml

def isSpace (c : Char) : Bool := c == ' ' || c == '\t'

/-- A character of a comment: anything but the end of a line and other control characters. -/
def inComment (c : Char) : Bool := c == '\t' || (0x20 ≤ c.toNat && c.toNat != 0x7F)

/-- The text after its leading blanks. -/
def skipSpaces (text : List Char) : List Char := text.dropWhile isSpace

def newline? : List Char → Option (List Char)
  | '\n' :: rest => some rest
  | '\r' :: '\n' :: rest => some rest
  | _ => none

/-- The text after a comment, if there is one at its head. -/
def skipComment : List Char → List Char
  | '#' :: rest => rest.dropWhile inComment
  | text => text

/-- The text after blanks, a comment and the end of a line or of the text. -/
def endLine? (text : List Char) : Option (List Char) :=
  match skipComment (skipSpaces text) with
  | [] => some []
  | rest => newline? rest

/-- The text after blanks, comments and ends of lines; a comment ends with its line. -/
def skipLines? : (steps : Nat) → List Char → Option (List Char)
  | 0, text => some text
  | steps + 1, text =>
    match skipSpaces text with
    | '#' :: rest => (newline? (rest.dropWhile inComment)).bind (skipLines? steps)
    | '\n' :: rest => skipLines? steps rest
    | '\r' :: rest => (newline? ('\r' :: rest)).bind (skipLines? steps)
    | rest => some rest

/-- The character whose code stands in the next `digits` hexadecimal digits. -/
def scalar? (digits : Nat) (text : List Char) : Option (Char × List Char) := do
  let values ← (text.take digits).mapM Hex.digitValue?
  if values.length < digits then none
  else
    let n := values.foldl (fun n d => 16 * n + d) 0
    if n.isValidChar then some (Char.ofNat n, text.drop digits) else none

/-- The character that an escape denotes; the text starts behind the backslash. -/
def escape? : List Char → Option (Char × List Char)
  | 'b' :: rest => some ('\x08', rest)
  | 'f' :: rest => some ('\x0c', rest)
  | 'n' :: rest => some ('\n', rest)
  | 'r' :: rest => some ('\r', rest)
  | 't' :: rest => some ('\t', rest)
  | '\\' :: rest => some ('\\', rest)
  | '"' :: rest => some ('"', rest)
  | 'u' :: rest => scalar? 4 rest
  | 'U' :: rest => scalar? 8 rest
  | _ => none

/-- A character that stands for itself in strings of one line. -/
def isPlain (c : Char) : Bool := inComment c

/-- The rest of a string between double quotes. -/
def basicString? : (steps : Nat) → List Char → Option (List Char × List Char)
  | 0, _ => none
  | steps + 1, text =>
    match text with
    | '"' :: rest => some ([], rest)
    | '\\' :: rest => do
      let (c, rest) ← escape? rest
      let (more, rest) ← basicString? steps rest
      some (c :: more, rest)
    | c :: rest =>
      if isPlain c then (basicString? steps rest).map fun (more, rest) => (c :: more, rest)
      else none
    | [] => none

/-- The rest of a string between single quotes, in which nothing is escaped. -/
def literalString? : List Char → Option (List Char × List Char)
  | '\'' :: rest => some ([], rest)
  | c :: rest =>
    if isPlain c then (literalString? rest).map fun (more, rest) => (c :: more, rest) else none
  | [] => none

/-- What a run of quotes means in a string that three quotes end: how many of them belong to the
string, what follows, and whether the string ends. Three or more end it, and of those beyond three
two may belong to it. -/
def quoteRun (quote : Char) (text : List Char) : Nat × List Char × Bool :=
  let run := (text.takeWhile (· == quote)).length
  if run < 3 then (run, text.drop run, false)
  else
    let content := min (run - 3) 2
    (content, text.drop (content + 3), true)

/-- The text after blanks and ends of lines. -/
def skipBlankLines : List Char → List Char
  | '\r' :: '\n' :: rest => skipBlankLines rest
  | c :: rest => if isSpace c || c == '\n' then skipBlankLines rest else c :: rest
  | [] => []

/-- The text after a backslash that ends a line: the line ends and blanks there are left out. -/
def continuation? (text : List Char) : Option (List Char) :=
  (newline? (skipSpaces text)).map skipBlankLines

/-- The rest of a string between three quotes. Only one kind of quote admits escapes. -/
def longString? (quote : Char) : (steps : Nat) → List Char → Option (List Char × List Char)
  | 0, _ => none
  | steps + 1, text =>
    match text with
    | [] => none
    | c :: rest =>
      if c = quote then
        let (content, rest, done) := quoteRun quote text
        let quotes := List.replicate content quote
        if done then some (quotes, rest)
        else (longString? quote steps rest).map fun (more, rest) => (quotes ++ more, rest)
      else if c = '\\' ∧ quote = '"' then
        match continuation? rest with
        | some rest => longString? quote steps rest
        | none => do
          let (c, rest) ← escape? rest
          let (more, rest) ← longString? quote steps rest
          some (c :: more, rest)
      else
        match newline? text with
        | some rest => (longString? quote steps rest).map fun (more, rest) => ('\n' :: more, rest)
        | none =>
          if isPlain c then
            (longString? quote steps rest).map fun (more, rest) => (c :: more, rest)
          else none

/-- The text after the end of a line, if it starts with one. -/
def skipNewline (text : List Char) : List Char := (newline? text).getD text

def string? (text : List Char) : Option (String × List Char) :=
  let steps := text.length + 1
  let read := match text with
    | '"' :: '"' :: '"' :: rest => longString? '"' steps (skipNewline rest)
    | '\'' :: '\'' :: '\'' :: rest => longString? '\'' steps (skipNewline rest)
    | '"' :: rest => basicString? steps rest
    | '\'' :: rest => literalString? rest
    | _ => none
  read.map fun (content, rest) => (String.ofList content, rest)

/-- A character of a key without quotes. -/
def inBareKey (c : Char) : Bool := c.isAlphanum || c == '-' || c == '_'

/-- One key, with blanks around it. -/
def simpleKey? (text : List Char) : Option (String × List Char) :=
  let text := skipSpaces text
  let read := match text with
    | '"' :: rest => basicString? (text.length + 1) rest
    | '\'' :: rest => literalString? rest
    | _ =>
      let key := text.takeWhile inBareKey
      if key.isEmpty then none else some (key, text.dropWhile inBareKey)
  read.map fun (key, rest) => (String.ofList key, skipSpaces rest)

/-- Keys with dots between them. -/
def keys? : (steps : Nat) → List Char → Option (List String × List Char)
  | 0, _ => none
  | steps + 1, text => do
    let (key, rest) ← simpleKey? text
    match rest with
    | '.' :: rest => do
      let (keys, rest) ← keys? steps rest
      some (key :: keys, rest)
    | _ => some ([key], rest)

/-- How deeply values may be nested, and how many parts a key may have, is less than this. -/
def depthLimit : Nat := 80

/-- A dotted key: the path to a table, and the key in it. -/
def dottedKey? (text : List Char) : Option ((List String × String) × List Char) := do
  let (keys, rest) ← keys? (text.length + 1) text
  let last ← keys.getLast?
  if depthLimit ≤ keys.length then none else some ((keys.dropLast, last), rest)

end ProxyLink.Toml
