/-!
# Digits in any base up to sixteen
-/

namespace Signpost.Digit

def isHex (c : Char) : Bool :=
  c.isDigit || ('a' ≤ c && c ≤ 'f') || ('A' ≤ c && c ≤ 'F')

/-- The value of a hexadecimal digit. -/
def value (c : Char) : Nat :=
  if c.isDigit then c.toNat - '0'.toNat
  else if 'a' ≤ c then c.toNat - 'a'.toNat + 10
  else c.toNat - 'A'.toNat + 10

/-- Whether a character is a digit in a base. -/
def isIn (base : Nat) (c : Char) : Bool := isHex c && value c < base

/-- The number that digits write in a base. -/
def number (base : Nat) (cs : List Char) : Nat := cs.foldl (fun n c => base * n + value c) 0

/-- The character whose code point hexadecimal digits write. -/
def character? (cs : List Char) : Option Char :=
  if (number 16 cs).isValidChar then some (Char.ofNat (number 16 cs)) else none

end Signpost.Digit
