import Signpost.Digit
import Signpost.Double
/-!
# TOML values

Numbers are kept as they are written. Whether a number has a machine form matters
only where one is looked at, which is what `Value.fits` says.
-/

namespace Signpost.Toml

/-- A real number: `digits * 10 ^ exponent`, or one of the two special ones. -/
inductive Real where
  | infinite
  | nan
  | finite (digits : Nat) (exponent : Int)

inductive Value where
  | string (s : String)
  /-- An integer as written in a base, without underscores. In base ten it may have
  a sign. -/
  | integer (base : Nat) (written : List Char)
  | real (x : Real)
  | boolean (b : Bool)
  /-- A date, a time or both, as written. -/
  | moment (text : String)
  | array (elements : List Value)
  | table (entries : List (String × Value))

abbrev Table := List (String × Value)

/-- Whether a number is finite in double precision, or special to begin with. -/
def Real.fits : Real → Bool
  | infinite => true
  | nan => true
  | finite digits exponent => Double.placeOfDecimal digits exponent < Double.infinity

/-- The number that a text writes in a base. -/
def natural? (base : Nat) (cs : List Char) : Option Nat :=
  if !cs.isEmpty && cs.all (Digit.isIn base) then some (Digit.number base cs) else none

/-- The number that a text writes in a base after a sign, if there is one. -/
def integer? (base : Nat) : List Char → Option Int
  | '+' :: cs => (natural? base cs).map fun n => (n : Int)
  | '-' :: cs => (natural? base cs).map fun n => -(n : Int)
  | cs => (natural? base cs).map fun n => (n : Int)

/-- Whether a text writes an integer that has a signed or an unsigned form of 128
bits. -/
def integerFits (base : Nat) (written : List Char) : Bool :=
  (integer? base written).any fun n => -Int.ofNat (1 <<< 127) ≤ n && n < Int.ofNat (1 <<< 128)

mutual

/-- Whether every number in a value has a machine form. -/
def Value.fits : Value → Bool
  | .integer base written => integerFits base written
  | .real x => x.fits
  | .array elements => elementsFit elements
  | .table entries => entriesFit entries
  | _ => true

def elementsFit : List Value → Bool
  | [] => true
  | v :: vs => v.fits && elementsFit vs

def entriesFit : List (String × Value) → Bool
  | [] => true
  | (_, v) :: es => v.fits && entriesFit es

end

end Signpost.Toml
