/-
What the source's standard library says of characters: white space at the ends of a text,
texts that start with another, and decimal digits.
-/

import Mathlib.Data.List.DropRight

namespace Bookie.Text

/-- The characters of Unicode's White_Space property. -/
def isWhitespace (c : Char) : Bool :=
  let code := c.toNat
  (9 ≤ code && code ≤ 13) || code == 0x20 || code == 0x85 || code == 0xA0 || code == 0x1680 ||
    (0x2000 ≤ code && code ≤ 0x200A) || code == 0x2028 || code == 0x2029 || code == 0x202F ||
    code == 0x205F || code == 0x3000

def trimStart (text : List Char) : List Char := text.dropWhile isWhitespace

def trimEnd (text : List Char) : List Char := text.rdropWhile isWhitespace

def trimmed (text : List Char) : List Char := trimEnd (trimStart text)

def trim (text : String) : String := String.ofList (trimmed text.toList)

def startsWith (front : String) (text : List Char) : Bool := front.toList.isPrefixOf text

def digitValue (digit : Char) : Nat := digit.toNat - 48

def digitsValue (digits : List Char) : Nat :=
  digits.foldl (fun value digit => value * 10 + digitValue digit) 0

end Bookie.Text
