/-!
# Decimal numbers

Bounded integers as they are written in paths and settings: an optional sign and
one or more ASCII digits, any number of leading zeros among them.
-/

namespace Signpost.Decimal

/-- The number written by one or more ASCII digits. -/
def natural? (cs : List Char) : Option Nat :=
  if cs ≠ [] ∧ cs.all Char.isDigit then some (Nat.ofDigitChars 10 cs 0) else none

theorem natural?_eq_some_iff {cs : List Char} {n : Nat} :
    natural? cs = some n ↔
      cs ≠ [] ∧ (∀ c ∈ cs, c.isDigit = true) ∧ Nat.ofDigitChars 10 cs 0 = n := by
  simp [natural?, and_assoc]

/-- The number written by digits after an optional sign. -/
def integer? : List Char → Option Int
  | '+' :: cs => (natural? cs).map Int.ofNat
  | '-' :: cs => (natural? cs).map fun n => -Int.ofNat n
  | cs => (natural? cs).map Int.ofNat

/-- A signed number of 32 bits. -/
def int32? (s : String) : Option Int32 :=
  match integer? s.toList with
  | some n =>
    if Int32.minValue.toInt ≤ n ∧ n ≤ Int32.maxValue.toInt then some (Int32.ofInt n) else none
  | none => none

/-- The number written by digits after an optional plus sign. -/
def unsigned? : List Char → Option Nat
  | '+' :: cs => natural? cs
  | cs => natural? cs

/-- A number below `2 ^ 64` without a minus sign. -/
def nat64? (s : String) : Option Nat := (unsigned? s.toList).filter (· < UInt64.size)

end Signpost.Decimal
