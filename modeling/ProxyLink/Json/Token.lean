import ProxyLink.Text.HexDigit

/-!
# JSON tokens

A text of JSON is cut into tokens by an automaton that takes one character at a time. A string
literal is read as the text that it denotes; a literal with half a surrogate pair in it denotes
none, and is a token nevertheless.
-/

namespace ProxyLink.Json

/-- A part of a string literal: a character, or a UTF-16 unit written as an escape. -/
inductive Piece where
  | char (c : Char)
  | unit (n : Nat)
  deriving DecidableEq

/-- The characters that the parts of a literal denote: two units that form a surrogate pair are one
character, and a unit that is half of a pair denotes nothing. -/
def joinPieces : List Piece → Option (List Char)
  | [] => some []
  | .char c :: rest => (joinPieces rest).map (c :: ·)
  | .unit n :: rest =>
    if n < 0xD800 ∨ 0xDFFF < n then (joinPieces rest).map (Char.ofNat n :: ·)
    else
      match rest with
      | .unit m :: rest =>
        if n < 0xDC00 ∧ 0xDC00 ≤ m ∧ m ≤ 0xDFFF then
          (joinPieces rest).map
            (Char.ofNat ((n - 0xD800) * 0x400 + (m - 0xDC00) + 0x10000) :: ·)
        else none
      | _ => none

/-- What a JSON text consists of. The value of a number is of no interest here. -/
inductive Token where
  | openBracket
  | closeBracket
  | openBrace
  | closeBrace
  | colon
  | comma
  | null
  | bool (value : Bool)
  | number
  /-- A string literal, with the text it denotes if it denotes one. -/
  | string (text : Option String)
  deriving DecidableEq

/-- How far a number has been read. -/
inductive NumberPhase where
  | minus
  | zero
  | whole
  | point
  | fraction
  | exponentMark
  | exponentSign
  | exponent
  deriving DecidableEq

def NumberPhase.complete : NumberPhase → Bool
  | .zero | .whole | .fraction | .exponent => true
  | _ => false

/-- The phase after one more character, if the number goes on with it. -/
def NumberPhase.next (phase : NumberPhase) (c : Char) : Option NumberPhase :=
  match phase with
  | .minus => if c = '0' then some .zero else if c.isDigit then some .whole else none
  | .zero =>
    if c = '.' then some .point else if c = 'e' ∨ c = 'E' then some .exponentMark else none
  | .whole =>
    if c.isDigit then some .whole else if c = '.' then some .point
    else if c = 'e' ∨ c = 'E' then some .exponentMark else none
  | .point => if c.isDigit then some .fraction else none
  | .fraction =>
    if c.isDigit then some .fraction else if c = 'e' ∨ c = 'E' then some .exponentMark else none
  | .exponentMark =>
    if c = '+' ∨ c = '-' then some .exponentSign else if c.isDigit then some .exponent else none
  | .exponentSign => if c.isDigit then some .exponent else none
  | .exponent => if c.isDigit then some .exponent else none

/-- Where the automaton stands. The parts of a literal are held last first. -/
inductive Scan where
  | between
  /-- Within a word: the letters that must follow, and the token they complete. -/
  | word (missing : List Char) (token : Token)
  | number (phase : NumberPhase)
  | literal (pieces : List Piece)
  | escape (pieces : List Piece)
  /-- Within a unit: the digits still missing, and the value of those read. -/
  | unit (pieces : List Piece) (missing value : Nat)
  deriving DecidableEq

/-- The blank characters of JSON. -/
def isSpace (c : Char) : Bool := c == ' ' || c == '\t' || c == '\n' || c == '\r'

/-- The character that a one-letter escape denotes. -/
def escapeValue? (c : Char) : Option Char :=
  if c = '"' ∨ c = '\\' ∨ c = '/' then some c
  else if c = 'b' then some '\x08'
  else if c = 'f' then some '\x0c'
  else if c = 'n' then some '\n'
  else if c = 'r' then some '\r'
  else if c = 't' then some '\t'
  else none

/-- One character between tokens. -/
def Scan.start (c : Char) : Option (Scan × List Token) :=
  if isSpace c then some (.between, [])
  else if c = '[' then some (.between, [.openBracket])
  else if c = ']' then some (.between, [.closeBracket])
  else if c = '\x7b' then some (.between, [.openBrace])
  else if c = '\x7d' then some (.between, [.closeBrace])
  else if c = ':' then some (.between, [.colon])
  else if c = ',' then some (.between, [.comma])
  else if c = '"' then some (.literal [], [])
  else if c = 'n' then some (.word ['u', 'l', 'l'] .null, [])
  else if c = 't' then some (.word ['r', 'u', 'e'] (.bool true), [])
  else if c = 'f' then some (.word ['a', 'l', 's', 'e'] (.bool false), [])
  else if c = '-' then some (.number .minus, [])
  else if c = '0' then some (.number .zero, [])
  else if c.isDigit then some (.number .whole, [])
  else none

/-- One character: where the automaton stands after it, and the tokens that it completes. -/
def Scan.step (state : Scan) (c : Char) : Option (Scan × List Token) :=
  match state with
  | .between => start c
  | .word [] _ => none
  | .word [last] token => if c = last then some (.between, [token]) else none
  | .word (next :: missing) token => if c = next then some (.word missing token, []) else none
  | .number phase =>
    match phase.next c with
    | some phase => some (.number phase, [])
    | none =>
      if phase.complete then (start c).map fun (state, tokens) => (state, .number :: tokens)
      else none
  | .literal pieces =>
    if c = '"' then
      some (.between, [.string ((joinPieces pieces.reverse).map String.ofList)])
    else if c = '\\' then some (.escape pieces, [])
    else if c.toNat < 0x20 then none
    else some (.literal (.char c :: pieces), [])
  | .escape pieces =>
    if c = 'u' then some (.unit pieces 4 0, [])
    else (escapeValue? c).map fun denoted => (.literal (.char denoted :: pieces), [])
  | .unit pieces missing value =>
    (Hex.digitValue? c).map fun digit =>
      let value := 16 * value + digit
      if missing ≤ 1 then (.literal (.unit value :: pieces), [])
      else (.unit pieces (missing - 1) value, [])

/-- The tokens that the end of the text completes. -/
def Scan.finish : Scan → Option (List Token)
  | .between => some []
  | .number phase => if phase.complete then some [.number] else none
  | _ => none

/-- The tokens of a text, read from a given state on. -/
def Scan.run (state : Scan) : List Char → Option (List Token)
  | [] => state.finish
  | c :: rest => do
    let (state, tokens) ← state.step c
    let more ← state.run rest
    some (tokens ++ more)

def tokens (text : List Char) : Option (List Token) := Scan.between.run text

end ProxyLink.Json
