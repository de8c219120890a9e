/-!
# Numbers of double precision

The magnitudes of double precision stand in a row from zero to infinity, and a
number is told by its sign and its magnitude's place in that row. Decimal numbers
are rounded to the nearest magnitude and written with the fewest digits that read
back, all in whole numbers.
-/

namespace Signpost

structure Double where
  negative : Bool
  /-- The place of the magnitude among all of them, counted from zero. -/
  place : Nat
deriving DecidableEq

namespace Double

/-- How many magnitudes have a scale in common. -/
def step : Nat := 1 <<< 52

/-- The place of infinity, after all finite magnitudes. -/
def infinity : Nat := 2047 * step

/-- The magnitude at a place is its significand times two to its scale. -/
def significand (place : Nat) : Nat :=
  if place < step then place else step + place % step

def scale (place : Nat) : Int := (place / step - 1 : Nat) - 1074

/-! ## Reading -/

/-- The whole number nearest to `num / den`, and of two the even one. -/
def roundDiv (num den : Nat) : Nat :=
  match compare (2 * (num % den)) den with
  | .lt => num / den
  | .eq => num / den + num / den % 2
  | .gt => num / den + 1

/-- The place of the magnitude nearest to `num / den`, without an end of the row.
The leading bit of the quotient says how fine the magnitudes around it are. -/
def placeOfQuotient (num den : Nat) : Nat :=
  let guess : Int := num.log2 - den.log2
  let leading :=
    if den <<< guess.toNat ≤ num <<< (-guess).toNat then guess else guess - 1
  let scale := max (-1074) (leading - 52)
  (scale + 1074).toNat * step + roundDiv (num <<< (-scale).toNat) (den <<< scale.toNat)

/-- The place of the magnitude nearest to `digits * 10 ^ exponent`. A magnitude far
out of the row is told by its length, so that its power of ten is not needed. -/
def placeOfDecimal (digits : Nat) (exponent : Int) : Nat :=
  let length : Int := (Nat.toDigits 10 digits).length + exponent
  if digits = 0 || length < -323 then 0
  else if 309 < length then infinity
  else min infinity (placeOfQuotient (digits * Nat.pow 10 exponent.toNat) (Nat.pow 10 (-exponent).toNat))

/-! ## Writing -/

/-- The multiple of `10 ^ exponent` that stands for a finite magnitude: one that
rounds to it, and of two the nearer. -/
def multiple? (place : Nat) (exponent : Int) : Option Nat :=
  let m := significand place
  let shift := scale place - 2
  -- All lengths are fourths of the last bit, over one denominator.
  let unit := Nat.pow 10 (-exponent).toNat <<< shift.toNat
  let tick := Nat.pow 10 exponent.toNat <<< (-shift).toNat
  let lowest := unit * (if m = step ∧ 2 * step ≤ place then 4 * m - 1 else 4 * m - 2)
  let highest := unit * (4 * m + 2)
  let rounds (n : Nat) : Bool :=
    if m % 2 = 0 then lowest ≤ n * tick && n * tick ≤ highest
    else lowest < n * tick && n * tick < highest
  let below := unit * (4 * m) / tick
  match rounds below, rounds (below + 1) with
  | true, true =>
    some (if 2 * (unit * (4 * m) % tick) < tick then below else below + 1)
  | true, false => some below
  | false, true => some (below + 1)
  | false, false => none

/-- The fewest digits that read back as a finite magnitude, with their exponent: the
first hit from the coarsest power of ten down. The finest one always hits. -/
def shortest (place : Nat) : Nat × Int :=
  let exponents := (List.range 634).map fun (n : Nat) => (309 : Int) - n
  (exponents.findSome? fun e => (multiple? place e).map fun n => (n, e)).getD (0, 0)

/-- Digits with a point where the exponent says, and zeros up to it. -/
def positional (digits : Nat) (exponent : Int) : String :=
  let written := Nat.toDigits 10 digits
  let places := (-exponent).toNat
  let text :=
    if places = 0 then written ++ List.replicate exponent.toNat '0'
    else
      let padded := List.replicate (places + 1 - written.length) '0' ++ written
      padded.take (padded.length - places) ++ '.' :: padded.drop (padded.length - places)
  String.ofList text

/-- A number as text: `inf`, or the shortest digits in positional notation. -/
def render (x : Double) : String :=
  let magnitude :=
    if x.place = 0 then "0"
    else if infinity ≤ x.place then "inf"
    else positional (shortest x.place).1 (shortest x.place).2
  if x.negative then "-" ++ magnitude else magnitude

/-- The order of the values. The two zeros are equal. -/
def compare (x y : Double) : Ordering :=
  let signed (z : Double) : Int := if z.negative then -z.place else z.place
  Ord.compare (signed x) (signed y)

end Double

end Signpost
