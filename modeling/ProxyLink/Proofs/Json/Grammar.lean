import ProxyLink.Json.Value

/-!
# The grammar of JSON

The texts of a value, described without the reader: `Writes` relates a text to the value that it
writes, with one rule for each form that a value may have. Blanks may stand wherever they mean
nothing, a number is written in any of its forms, and each character of a string as itself, by a
letter behind a backslash or by its UTF-16 units. A string literal in which half a pair of units
stands alone keeps to the grammar and denotes no text.
-/

namespace ProxyLink.Json

def AreBlanks (text : List Char) : Prop := ∀ c ∈ text, c ∈ [' ', '\t', '\n', '\r']

/-! ### Numbers -/

/-- Decimal digits, at least one. -/
def AreDigits (text : List Char) : Prop := text ≠ [] ∧ ∀ c ∈ text, c.isDigit = true

/-- The whole part of a number: a zero, or digits that do not start with one. -/
inductive IsWhole : List Char → Prop where
  | zero : IsWhole ['0']
  | digits {text : List Char} : AreDigits text → text.head? ≠ some '0' → IsWhole text

/-- The fraction of a number, which may be missing. -/
inductive IsFraction : List Char → Prop where
  | missing : IsFraction []
  | digits {text : List Char} : AreDigits text → IsFraction ('.' :: text)

inductive IsExponent : List Char → Prop where
  | missing : IsExponent []
  | digits {mark : Char} {sign text : List Char} : mark ∈ ['e', 'E'] →
    sign ∈ [[], ['+'], ['-']] → AreDigits text → IsExponent (mark :: (sign ++ text))

def IsNumber (text : List Char) : Prop :=
  ∃ sign whole fraction exponent, sign ∈ [[], ['-']] ∧ IsWhole whole ∧ IsFraction fraction ∧
    IsExponent exponent ∧ text = sign ++ (whole ++ (fraction ++ exponent))

/-! ### Strings -/

/-- The letters that may follow a backslash, and the characters that they stand for there. -/
def letters : List (Char × Char) :=
  [('"', '"'), ('\\', '\\'), ('/', '/'), ('b', '\x08'), ('f', '\x0c'), ('n', '\n'), ('r', '\r'),
    ('t', '\t')]

/-- A hexadecimal digit and its value; the letters are small or capital ones. -/
def IsHexDigit (c : Char) (n : Nat) : Prop :=
  n < 16 ∧ (c = Nat.digitChar n ∨ c = (Nat.digitChar n).toUpper)

/-- The ways to write a part of a literal. -/
inductive IsPiece : Piece → List Char → Prop where
  | plain {c : Char} : c ≠ '"' → c ≠ '\\' → 0x20 ≤ c.toNat → IsPiece (.char c) [c]
  | letter {letter c : Char} : (letter, c) ∈ letters → IsPiece (.char c) ['\\', letter]
  | unit {a b c d : Char} {p q r s : Nat} :
    IsHexDigit a p → IsHexDigit b q → IsHexDigit c r → IsHexDigit d s →
      IsPiece (.unit (16 * (16 * (16 * p + q) + r) + s)) ['\\', 'u', a, b, c, d]

inductive ArePieces : List Piece → List Char → Prop where
  | nil : ArePieces [] []
  | cons {piece : Piece} {pieces : List Piece} {text rest : List Char} :
    IsPiece piece text → ArePieces pieces rest → ArePieces (piece :: pieces) (text ++ rest)

/-- The characters that the parts of a literal denote. Each is there itself, or in UTF-16: as one
unit, or as the pair of units of a character beyond the basic plane. -/
inductive Denotes : List Piece → List Char → Prop where
  | nil : Denotes [] []
  | char {c : Char} {pieces : List Piece} {text : List Char} :
    Denotes pieces text → Denotes (.char c :: pieces) (c :: text)
  | unit {c : Char} {pieces : List Piece} {text : List Char} : c.toNat < 0x10000 →
    Denotes pieces text → Denotes (.unit c.toNat :: pieces) (c :: text)
  | pair {c : Char} {pieces : List Piece} {text : List Char} : 0x10000 ≤ c.toNat →
    Denotes pieces text →
      Denotes (.unit (0xD800 + (c.toNat - 0x10000) / 0x400) ::
        .unit (0xDC00 + (c.toNat - 0x10000) % 0x400) :: pieces) (c :: text)

/-- A string literal, with the text that it denotes if it denotes one. -/
inductive IsString : Option String → List Char → Prop where
  | whole {pieces : List Piece} {body : List Char} {text : String} :
    ArePieces pieces body → Denotes pieces text.toList →
      IsString (some text) ('"' :: (body ++ ['"']))
  | broken {pieces : List Piece} {body : List Char} :
    ArePieces pieces body → (∀ text, ¬Denotes pieces text) → IsString none ('"' :: (body ++ ['"']))

/-! ### Values -/

/-- What a part of a text may write. -/
inductive Phrase where
  | value (v : Json)
  /-- The elements of an array, at least one. -/
  | elements (vs : List Json)
  /-- A member of an object, with its name. -/
  | member (m : Option String × Json)
  /-- The members of an object, at least one. -/
  | members (ms : List (Option String × Json))

/-- A text writes a value, or a part of what stands between its brackets or braces. -/
inductive Writes : Phrase → List Char → Prop where
  | null : Writes (.value .null) ['n', 'u', 'l', 'l']
  | trueWord : Writes (.value (.bool true)) ['t', 'r', 'u', 'e']
  | falseWord : Writes (.value (.bool false)) ['f', 'a', 'l', 's', 'e']
  | number {text : List Char} : IsNumber text → Writes (.value .number) text
  | string {s : Option String} {text : List Char} :
    IsString s text → Writes (.value (.string s)) text
  | emptyArray {blanks : List Char} :
    AreBlanks blanks → Writes (.value (.array [])) ('[' :: (blanks ++ [']']))
  | array {vs : List Json} {text : List Char} :
    Writes (.elements vs) text → Writes (.value (.array vs)) ('[' :: (text ++ [']']))
  | emptyObject {blanks : List Char} :
    AreBlanks blanks → Writes (.value (.object [])) ('\x7b' :: (blanks ++ ['\x7d']))
  | object {ms : List (Option String × Json)} {text : List Char} :
    Writes (.members ms) text → Writes (.value (.object ms)) ('\x7b' :: (text ++ ['\x7d']))
  | blanks {v : Json} {before text after : List Char} : AreBlanks before →
    Writes (.value v) text → AreBlanks after → Writes (.value v) (before ++ (text ++ after))
  | lastElement {v : Json} {text : List Char} :
    Writes (.value v) text → Writes (.elements [v]) text
  | elements {v : Json} {vs : List Json} {text rest : List Char} :
    Writes (.value v) text → Writes (.elements vs) rest →
      Writes (.elements (v :: vs)) (text ++ ',' :: rest)
  | member {name : Option String} {v : Json} {before literal after text : List Char} :
    AreBlanks before → IsString name literal → AreBlanks after → Writes (.value v) text →
      Writes (.member (name, v)) (before ++ (literal ++ (after ++ ':' :: text)))
  | lastMember {m : Option String × Json} {text : List Char} :
    Writes (.member m) text → Writes (.members [m]) text
  | members {m : Option String × Json} {ms : List (Option String × Json)}
      {text rest : List Char} :
    Writes (.member m) text → Writes (.members ms) rest →
      Writes (.members (m :: ms)) (text ++ ',' :: rest)

end ProxyLink.Json
