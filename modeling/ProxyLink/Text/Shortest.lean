/-!
# The shortest decimal text of a floating-point number

Of the decimals that read back as a given number, the text shows one with the fewest digits, and of
those the nearest to the number. All arithmetic is exact: a number is a fraction of naturals, and so
are the two ends of the interval of reals that round to it.
-/

namespace ProxyLink.Shortest

/-- A positive number and the ends of the interval that rounds to it, as numerators over `unit`. -/
structure Rounding where
  low : Nat
  number : Nat
  high : Nat
  unit : Nat
  /-- Whether the ends of the interval round to the number, too. -/
  closed : Bool

/-- The positive finite number whose 64 bits are `bits`. The interval reaches half way to each
neighbour, and the neighbour below a power of two is half as far away. -/
def Rounding.ofBits (bits : Nat) : Rounding :=
  let fraction := bits % 4503599627370496
  let exponent := bits / 4503599627370496 % 2048
  let mantissa := if exponent = 0 then fraction else fraction + 4503599627370496
  let scale := max exponent 1
  let below := if fraction = 0 ∧ 1 < exponent then 1 else 2
  let up := Nat.pow 2 (scale - 1077)
  { low := (4 * mantissa - below) * up
    number := 4 * mantissa * up
    high := (4 * mantissa + 2) * up
    unit := Nat.pow 2 (1077 - scale)
    closed := mantissa % 2 = 0 }

def digitCount (n : Nat) : Nat := (Nat.toDigits 10 n).length

/-- The exponent of the first digit of a number below one, tried from `-(tried + 1)` downwards. -/
def smallExponent (number unit : Nat) : (tries tried : Nat) → Int
  | 0, tried => -(tried : Int)
  | tries + 1, tried =>
    if unit ≤ number * Nat.pow 10 (tried + 1) then -((tried : Int) + 1)
    else smallExponent number unit tries (tried + 1)

/-- The exponent of the first digit of a positive number. -/
def Rounding.exponent (r : Rounding) : Int :=
  if r.unit ≤ r.number then (digitCount (r.number / r.unit) : Int) - 1
  else smallExponent r.number r.unit 400 0

/-- A decimal: `digits` times ten to the `exponent`. -/
structure Decimal where
  digits : Nat
  exponent : Int

/-- The decimal with its last digit at `exponent` that rounds to the number, if there is one; of two
such decimals the nearer, and the greater when both are equally near. -/
def Rounding.onGrid (r : Rounding) (exponent : Int) : Option Decimal :=
  let step := Nat.pow 10 exponent.toNat * r.unit
  let scale := Nat.pow 10 (-exponent).toNat
  let floor := r.number * scale / step
  let inside := fun d : Nat =>
    if r.closed then decide (r.low * scale ≤ d * step ∧ d * step ≤ r.high * scale)
    else decide (r.low * scale < d * step ∧ d * step < r.high * scale)
  let roundUp := decide (floor * step + (floor + 1) * step ≤ 2 * (r.number * scale))
  match inside floor, inside (floor + 1) with
  | true, true => some ⟨if roundUp then floor + 1 else floor, exponent⟩
  | true, false => some ⟨floor, exponent⟩
  | false, true => some ⟨floor + 1, exponent⟩
  | false, false => none

/-- The shortest decimal of a positive number; seventeen digits always suffice. -/
def Rounding.shortest (r : Rounding) : Decimal :=
  let first := r.exponent
  let found := (List.range 17).findSome? fun (n : Nat) => r.onGrid (first - n)
  found.getD ⟨0, 0⟩

/-- The digits of a decimal less the zeros at their end, and the exponent of the first digit. -/
def Decimal.normal (d : Decimal) : List Char × Int :=
  let digits := Nat.toDigits 10 d.digits
  ((digits.reverse.dropWhile (· == '0')).reverse, d.exponent + digits.length - 1)

/-- Digits with a point among them: the first digit stands at `exponent`. -/
def positional (digits : List Char) (exponent : Int) : List Char :=
  if exponent < 0 then
    ['0', '.'] ++ List.replicate (-exponent - 1).toNat '0' ++ digits
  else
    let whole := exponent.toNat + 1
    let fraction := digits.drop whole
    digits.take whole ++ List.replicate (whole - digits.length) '0' ++ ['.'] ++
      (if fraction.isEmpty then ['0'] else fraction)

/-- Digits with a power of ten behind them. -/
def scientific (digits : List Char) (exponent : Int) : List Char :=
  let mantissa := match digits with
    | first :: rest => if rest.isEmpty then [first] else first :: '.' :: rest
    | [] => []
  mantissa ++ ['e'] ++ (toString exponent).toList

/-- The text of a number that is not negative and finite. From `lowest` up to below `beyond` the
exponent of the first digit is shown by the place of the point, and otherwise as a power of ten. -/
def text (lowest beyond : Int) (x : Float) : String :=
  let bits := x.toBits.toNat
  if bits = 0 then "0.0"
  else
    let (digits, exponent) := (Rounding.ofBits bits).shortest.normal
    String.ofList <|
      if lowest ≤ exponent ∧ exponent < beyond then positional digits exponent
      else scientific digits exponent

end ProxyLink.Shortest
