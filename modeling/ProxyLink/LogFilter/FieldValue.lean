import ProxyLink.Text.Decimal
import ProxyLink.Text.Shortest

/-!
# Values that a field may have to have

A value in a log filter is read as the first of these that it can be: a truth value, a natural
number, an integer, a floating-point number, or a pattern. It is shown in one form, however it was
written.
-/

namespace ProxyLink.LogFilter

/-- What a field is compared with. -/
inductive FieldValue where
  | boolean (b : Bool)
  | float (x : Float)
  | notNumber
  | natural (n : Nat)
  | negative (n : Int)
  | pattern (text : String)

namespace FieldValue

/-- The digits at the head of a text, and what follows. -/
def digits (text : List Char) : List Char × List Char :=
  (text.takeWhile Char.isDigit, text.dropWhile Char.isDigit)

def power? : List Char → Option Int
  | [] => some 0
  | c :: rest => if c = 'e' ∨ c = 'E' then Decimal.signed? rest else none

/-- The floating-point number nearest to `n` times ten to the `exponent`. Far from one, where powers
of ten would be huge, it is zero or infinite. -/
def nearest (n : Nat) (exponent : Int) : Float :=
  let size := exponent + (Nat.toDigits 10 n).length
  if n = 0 ∨ size < -400 then 0
  else if 400 < size then 1 / 0
  else Float.ofScientific n (exponent < 0) exponent.natAbs

/-- A number without sign: digits with or without a point, and perhaps a power of ten. -/
def unsignedFloat? (text : List Char) : Option Float :=
  let lower := text.map Char.toLower
  if lower = ['i', 'n', 'f'] ∨ lower = ['i', 'n', 'f', 'i', 'n', 'i', 't', 'y'] then some (1 / 0)
  else if lower = ['n', 'a', 'n'] then some (0 / 0)
  else
    let (whole, rest) := digits text
    let (fraction, rest) := match rest with
      | '.' :: rest => digits rest
      | rest => ([], rest)
    if whole.isEmpty ∧ fraction.isEmpty then none
    else (power? rest).map fun exponent =>
      nearest (Decimal.value (whole ++ fraction)) (exponent - fraction.length)

/-- A floating-point number with or without a sign. -/
def float? : List Char → Option Float
  | '-' :: rest => (unsignedFloat? rest).map fun x => -x
  | '+' :: rest => unsignedFloat? rest
  | text => unsignedFloat? text

/-- A number of one of the three kinds. -/
def number? (text : List Char) : Option FieldValue :=
  match Decimal.signed? text with
  | some n =>
    if 0 ≤ n ∧ n < 18446744073709551616 ∧ text.head? ≠ some '-' then some (.natural n.toNat)
    else if Decimal.FitsInt64 n ∧ n ≤ 0 then some (.negative n)
    else (float? text).map .float
  | none => (float? text).map fun x => if x.isNaN then .notNumber else .float x

def ofText (text : List Char) : FieldValue :=
  if text = ['t', 'r', 'u', 'e'] then .boolean true
  else if text = ['f', 'a', 'l', 's', 'e'] then .boolean false
  else (number? text).getD (.pattern (String.ofList text))

/-- A floating-point number in decimal notation, with no point behind a whole number. -/
def floatText (x : Float) : String :=
  let size := x.abs
  let sign := if x.toBits = size.toBits then "" else "-"
  if size.isInf then sign ++ "inf"
  else
    let text := (Shortest.text (-1000) 1000 size).toList
    let shown := match text.reverse with
      | '0' :: '.' :: whole => whole.reverse
      | _ => text
    sign ++ String.ofList shown

def display : FieldValue → String
  | .boolean b => if b then "true" else "false"
  | .float x => floatText x
  | .notNumber => "NaN"
  | .natural n => Decimal.ofNat n
  | .negative n => Decimal.ofInt n
  | .pattern text => text

/-- The place of each kind of value in the order of values. -/
def rank : FieldValue → Nat
  | .boolean _ => 0
  | .float _ => 1
  | .notNumber => 2
  | .natural _ => 3
  | .negative _ => 4
  | .pattern _ => 5

/-- The order of values: by their kinds, and within a kind as usual. -/
def cmp (a b : FieldValue) : Ordering :=
  match a, b with
  | .boolean a, .boolean b => compare a b
  | .float a, .float b => if a < b then .lt else if b < a then .gt else .eq
  | .natural a, .natural b => compare a b
  | .negative a, .negative b => compare a b
  | .pattern a, .pattern b => compare a b
  | a, b => compare a.rank b.rank

end FieldValue

end ProxyLink.LogFilter
