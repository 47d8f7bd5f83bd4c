import ProxyLink.Text.Decimal
import ProxyLink.Toml.Lexis
import ProxyLink.Toml.Value

/-!
# Numbers and times in a TOML text

Integers have 64 bits, and four notations. Of floating-point numbers and points in time only the
form matters, and that the first are not too great and the second exist.
-/

namespace ProxyLink.Toml

/-- Digits that satisfy `p`, with single underscores between them; at least one. -/
def digits? (p : Char → Bool) : List Char → Option (List Char × List Char)
  | c :: '_' :: rest =>
    if p c then (digits? p rest).map fun (more, rest) => (c :: more, rest) else none
  | c :: rest =>
    if p c then
      if rest.head?.any p then (digits? p rest).map fun (more, rest) => (c :: more, rest)
      else some ([c], rest)
    else none
  | [] => none

/-- The number that digits of a base stand for. -/
def valueIn (base : Nat) (digits : List Char) : Nat :=
  digits.foldl (fun n c => base * n + (Hex.digitValue? c).getD 0) 0

/-- An integer, if it has 64 bits. -/
def integer? (n : Int) : Option Value :=
  if Decimal.FitsInt64 n then some (.integer n) else none

/-- An integer of a base other than ten; the text starts behind the mark of the base. -/
def based? (base : Nat) (p : Char → Bool) (text : List Char) : Option (Value × List Char) := do
  let (digits, rest) ← digits? p text
  let value ← integer? (valueIn base digits)
  some (value, rest)

/-- A sign, and whether it is a minus. -/
def sign : List Char → Bool × List Char
  | '-' :: rest => (true, rest)
  | '+' :: rest => (false, rest)
  | text => (false, text)

/-- Decimal digits that do not start with a zero, unless it is the only one. -/
def whole? : List Char → Option (List Char × List Char)
  | '0' :: rest => some (['0'], rest)
  | text => digits? Char.isDigit text

def decimal? (text : List Char) : Option (Value × List Char) := do
  let (negative, text) := sign text
  let (digits, rest) ← whole? text
  let n : Int := Decimal.value digits
  let value ← integer? (if negative then -n else n)
  some (value, rest)

/-- An integer in any notation. -/
def anyInteger? : List Char → Option (Value × List Char)
  | '0' :: 'x' :: rest => based? 16 (fun c => (Hex.digitValue? c).isSome) rest
  | '0' :: 'o' :: rest => based? 8 (fun c => '0' ≤ c && c ≤ '7') rest
  | '0' :: 'b' :: rest => based? 2 (fun c => c == '0' || c == '1') rest
  | text => decimal? text

def fraction? : List Char → Option (List Char × List Char)
  | '.' :: rest => digits? Char.isDigit rest
  | _ => none

def power? : List Char → Option (Int × List Char)
  | c :: rest =>
    if c = 'e' ∨ c = 'E' then do
      let (negative, rest) := sign rest
      let (digits, rest) ← digits? Char.isDigit rest
      let n : Int := Decimal.value digits
      some (if negative then -n else n, rest)
    else none
  | [] => none

/-- Whether `digits` times ten to the `exponent` is too great for a floating-point number of 64
bits, that is, at least half way from the greatest one to the next power of two. -/
def isTooGreat (digits : List Char) (exponent : Int) : Bool :=
  let significant := digits.dropWhile (· == '0')
  let size := exponent + significant.length
  if significant.isEmpty ∨ size < 300 then false
  else if 320 < size then true
  else
    decide ((Nat.pow 2 1024 - Nat.pow 2 970) * Nat.pow 10 (-exponent).toNat ≤
      Decimal.value significant * Nat.pow 10 exponent.toNat)

/-- A floating-point number with a fraction, a power of ten, or both. -/
def digitFloat? (text : List Char) : Option (Value × List Char) := do
  let (negative, text) := sign text
  let (before, rest) ← whole? text
  let (behind, exponent, rest) ←
    match fraction? rest with
    | some (behind, rest) =>
      match power? rest with
      | some (exponent, rest) => some (behind, exponent, rest)
      | none => some (behind, 0, rest)
    | none => (power? rest).map fun (exponent, rest) => ([], exponent, rest)
  if !negative && isTooGreat (before ++ behind) (exponent - behind.length) then none
  else some (.float, rest)

/-- Infinity, or no number at all. -/
def specialFloat? (text : List Char) : Option (Value × List Char) :=
  match (sign text).2 with
  | 'i' :: 'n' :: 'f' :: rest => some (.float, rest)
  | 'n' :: 'a' :: 'n' :: rest => some (.float, rest)
  | _ => none

/-- A number of exactly `count` digits between two bounds. -/
def field? (count low high : Nat) (text : List Char) : Option (Nat × List Char) :=
  let digits := text.take count
  let n := Decimal.value digits
  if digits.length = count ∧ digits.all Char.isDigit ∧ low ≤ n ∧ n ≤ high then
    some (n, text.drop count)
  else none

def monthLength (year month : Nat) : Nat :=
  if month = 2 then
    if year % 4 = 0 ∧ (year % 100 ≠ 0 ∨ year % 400 = 0) then 29 else 28
  else if month = 4 ∨ month = 6 ∨ month = 9 ∨ month = 11 then 30
  else 31

/-- The text after one given character. -/
def after? (c : Char) : List Char → Option (List Char)
  | d :: rest => if d = c then some rest else none
  | [] => none

def date? (text : List Char) : Option (List Char) := do
  let (year, rest) ← field? 4 0 9999 text
  let (month, rest) ← field? 2 1 12 (← after? '-' rest)
  let (_, rest) ← field? 2 1 (monthLength year month) (← after? '-' rest)
  some rest

/-- The text after a time of day; a minute may have a leap second. -/
def time? (text : List Char) : Option (List Char) := do
  let (_, rest) ← field? 2 0 23 text
  let (_, rest) ← field? 2 0 59 (← after? ':' rest)
  let (_, rest) ← field? 2 0 60 (← after? ':' rest)
  match rest with
  | '.' :: d :: more =>
    if d.isDigit then some (more.dropWhile Char.isDigit) else some rest
  | _ => some rest

/-- The text after the distance from universal time. -/
def offset? : List Char → Option (List Char)
  | c :: rest =>
    if c = 'Z' ∨ c = 'z' then some rest
    else if c = '+' ∨ c = '-' then do
      let (_, rest) ← field? 2 0 23 rest
      let (_, rest) ← field? 2 0 59 (← after? ':' rest)
      some rest
    else none
  | [] => none

/-- The text after a time of day and, if there is one, the distance from universal time. -/
def timeAndOffset? (text : List Char) : Option (List Char) :=
  (time? text).map fun rest => (offset? rest).getD rest

def moment? (text : List Char) : Option (Value × List Char) :=
  match date? text with
  | some rest =>
    let end_ := match rest with
      | c :: more =>
        if c = 'T' ∨ c = 't' ∨ c = ' ' then (timeAndOffset? more).getD rest else rest
      | [] => rest
    some (.moment, end_)
  | none => (time? text).map fun rest => (.moment, rest)

/-- A number or a point in time; the longest form that fits wins. -/
def number? (text : List Char) : Option (Value × List Char) :=
  moment? text <|> digitFloat? text <|> specialFloat? text <|> anyInteger? text

end ProxyLink.Toml
