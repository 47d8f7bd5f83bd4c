/-!
# Decimal numerals

Reading whole numbers from ASCII digits, with and without a sign. Any number of leading zeros is
read, and no digit count overflows; bounds are the business of whoever asks for the number.
-/

namespace ProxyLink.Decimal

/-- The number that a run of digits stands for, most significant digit first. -/
def value (digits : List Char) : Nat :=
  digits.foldl (fun n c => 10 * n + (c.toNat - 48)) 0

/-- A run of one or more ASCII digits, read as a number. -/
def natural? (text : List Char) : Option Nat :=
  if text ≠ [] ∧ text.all Char.isDigit then some (value text) else none

def unsigned? : List Char → Option Nat
  | '+' :: digits => natural? digits
  | digits => natural? digits

def signed? : List Char → Option Int
  | '+' :: digits => (natural? digits).map Int.ofNat
  | '-' :: digits => (natural? digits).map fun n => -(n : Int)
  | digits => (natural? digits).map Int.ofNat

/-- Whether a number is among those that 64 bits write, one of them for the sign. -/
abbrev FitsInt64 (n : Int) : Prop := -9223372036854775808 ≤ n ∧ n < 9223372036854775808

/-- A signed numeral whose number has 64 bits. -/
def int64? (text : List Char) : Option Int64 :=
  (signed? text).bind fun n => if FitsInt64 n then some (Int64.ofInt n) else none

/-- The numeral of a natural number, with no leading zero. -/
def ofNat (n : Nat) : String := toString n

/-- The numeral of an integer, with a minus sign before it when it is negative. -/
def ofInt : Int → String
  | .ofNat n => ofNat n
  | .negSucc n => "-" ++ ofNat (n + 1)

def ofInt64 (n : Int64) : String := ofInt n.toInt

end ProxyLink.Decimal
