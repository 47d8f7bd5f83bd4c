/-!
# Hexadecimal digits

Sixteen digits, of which the last six are letters. Writing uses small letters; reading takes letters
of both cases.
-/

namespace ProxyLink.Hex

/-- The digit for a value below 16. -/
def digit (n : Nat) : Char := if n < 10 then Char.ofNat (n + 48) else Char.ofNat (n + 87)

/-- The value of the digit whose code is `n`. -/
def value? (n : Nat) : Option Nat :=
  if 48 ≤ n ∧ n ≤ 57 then some (n - 48)
  else if 65 ≤ n ∧ n ≤ 70 then some (n - 55)
  else if 97 ≤ n ∧ n ≤ 102 then some (n - 87)
  else none

def digitValue? (c : Char) : Option Nat := value? c.toNat

end ProxyLink.Hex
