/-!
# Blank characters

The characters with the Unicode property `White_Space`, and what remains of a text without them at
its ends or anywhere.
-/

namespace ProxyLink.Text

/-- The characters with the property `White_Space`. -/
def isBlank (c : Char) : Bool :=
  let n := c.toNat
  (0x9 ≤ n && n ≤ 0xD) || n == 0x20 || n == 0x85 || n == 0xA0 || n == 0x1680 ||
    (0x2000 ≤ n && n ≤ 0x200A) || n == 0x2028 || n == 0x2029 || n == 0x202F || n == 0x205F ||
    n == 0x3000

def allBlank (text : String) : Bool := text.toList.all isBlank

/-- A text less every blank character in it. -/
def withoutBlanks (text : String) : List Char := text.toList.filter fun c => !isBlank c

/-- A text less the blank characters at its two ends. -/
def trimBlanks (text : List Char) : List Char :=
  ((text.dropWhile isBlank).reverse.dropWhile isBlank).reverse

end ProxyLink.Text
