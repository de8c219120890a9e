import Signpost.Decimal
import Signpost.Double
import Signpost.Regex
/-!
# Values of fields

A directive can ask for the value of a field. The text is read as a truth value, as
a number or else as a pattern, in this order.
-/

namespace Signpost.Log

inductive FieldValue where
  | truth (b : Bool)
  | real (x : Double)
  | nan
  | natural (n : Nat)
  | integer (n : Int)
  | pattern (text : String)
deriving DecidableEq

namespace FieldValue

/-! ## Reading -/

def truth? : String → Option FieldValue
  | "true" => some (truth true)
  | "false" => some (truth false)
  | _ => none

/-- A whole number of 64 bits. -/
def whole? (s : String) : Option FieldValue :=
  match Decimal.nat64? s with
  | some n => some (natural n)
  | none =>
    ((Decimal.integer? s.toList).filter fun n =>
      Int64.minValue.toInt ≤ n && n ≤ Int64.maxValue.toInt).map integer

/-- The digits of a fraction at the front of a text, and what follows them. -/
def fraction : List Char → List Char × List Char
  | '.' :: cs => (cs.takeWhile Char.isDigit, cs.dropWhile Char.isDigit)
  | cs => ([], cs)

/-- The power of ten at the end of a number, zero if there is none. -/
def exponent? : List Char → Option Int
  | [] => some 0
  | c :: cs => if c = 'e' || c = 'E' then Decimal.integer? cs else none

/-- The magnitude that a decimal number is rounded to. It has a digit at least. -/
def decimal? (cs : List Char) : Option Nat :=
  let whole := cs.takeWhile Char.isDigit
  let (fraction, rest) := fraction (cs.dropWhile Char.isDigit)
  match Decimal.natural? (whole ++ fraction), exponent? rest with
  | some digits, some exponent =>
    some (Double.placeOfDecimal digits (exponent - fraction.length))
  | _, _ => none

/-- A number of double precision without its sign. The special ones are written in
letters of any case. -/
def magnitude? (negative : Bool) (cs : List Char) : Option FieldValue :=
  match String.ofList (cs.map Char.toLower) with
  | "nan" => some nan
  | "inf" | "infinity" => some (real ⟨negative, Double.infinity⟩)
  | _ => (decimal? cs).map fun place => real ⟨negative, place⟩

def real? : List Char → Option FieldValue
  | '+' :: cs => magnitude? false cs
  | '-' :: cs => magnitude? true cs
  | cs => magnitude? false cs

/-- The value that a text asks for, unless it is a pattern that cannot be read. -/
def ofText? (s : String) : Option FieldValue :=
  (((truth? s).or (whole? s)).or (real? s.toList)).or
    (if Regex.isValid s then some (pattern s) else none)

/-! ## Text and order -/

def render : FieldValue → String
  | truth b => toString b
  | real x => x.render
  | nan => "NaN"
  | natural n => toString n
  | integer n => toString n
  | pattern text => text

/-- The place of each kind of value in the order. -/
def rank : FieldValue → Nat
  | truth _ => 0
  | real _ => 1
  | nan => 2
  | natural _ => 3
  | integer _ => 4
  | pattern _ => 5

/-- Values of one kind are in their own order, and patterns in that of their texts. -/
def compare : FieldValue → FieldValue → Ordering
  | truth a, truth b => Ord.compare a b
  | real a, real b => a.compare b
  | natural a, natural b => Ord.compare a b
  | integer a, integer b => Ord.compare a b
  | pattern a, pattern b => Ord.compare a b
  | a, b => Ord.compare a.rank b.rank

end FieldValue

instance : Ord FieldValue := ⟨FieldValue.compare⟩

end Signpost.Log
