/-!
# Dates and times

A moment is a date, a time of day, or a date with a time and perhaps the distance
from universal time. Seconds may be left out.
-/

namespace Signpost.Toml.Moment

/-- The number that the first `n` characters write, and what follows them. -/
def digits? (n : Nat) (cs : List Char) : Option (Nat × List Char) :=
  if (cs.take n).length = n ∧ (cs.take n).all Char.isDigit then
    some (Nat.ofDigitChars 10 (cs.take n) 0, cs.drop n)
  else none

def isLeap (year : Nat) : Bool := year % 4 = 0 && (year % 100 ≠ 0 || year % 400 = 0)

def daysIn (year month : Nat) : Nat :=
  if month = 2 then if isLeap year then 29 else 28
  else if month ∈ [4, 6, 9, 11] then 30
  else 31

/-- What follows a date at the front of `cs`. -/
def afterDate? (cs : List Char) : Option (List Char) := do
  let (year, cs) ← digits? 4 cs
  let '-' :: cs := cs | none
  let (month, cs) ← digits? 2 cs
  let '-' :: cs := cs | none
  let (day, cs) ← digits? 2 cs
  if 1 ≤ month ∧ month ≤ 12 ∧ 1 ≤ day ∧ day ≤ daysIn year month then some cs else none

/-- What follows the fraction of a second at the front of `cs`, if there is one. -/
def afterFraction? : List Char → Option (List Char)
  | '.' :: cs => if (cs.head?.map Char.isDigit).getD false then some (cs.dropWhile Char.isDigit)
      else none
  | cs => some cs

/-- What follows the seconds at the front of `cs`, if there are any. -/
def afterSeconds? : List Char → Option (List Char)
  | ':' :: cs => do
    let (second, cs) ← digits? 2 cs
    if second ≤ 60 then afterFraction? cs else none
  | cs => some cs

/-- What follows an hour and a minute at the front of `cs`. -/
def afterClock? (cs : List Char) : Option (List Char) := do
  let (hour, cs) ← digits? 2 cs
  let ':' :: cs := cs | none
  let (minute, cs) ← digits? 2 cs
  if hour ≤ 23 ∧ minute ≤ 59 then some cs else none

/-- What follows a time of day at the front of `cs`. -/
def afterTime? (cs : List Char) : Option (List Char) := (afterClock? cs).bind afterSeconds?

/-- Whether `cs` is a distance from universal time, or nothing. -/
def isOffset : List Char → Bool
  | [] => true
  | c :: cs =>
    if c = 'Z' || c = 'z' then cs.isEmpty
    else (c = '+' || c = '-') && afterClock? cs = some []

/-- Whether `cs` is a date and nothing else. -/
def isDate (cs : List Char) : Bool := afterDate? cs = some []

def isMoment (cs : List Char) : Bool :=
  match afterDate? cs with
  | none => afterTime? cs = some []
  | some [] => true
  | some (c :: cs) =>
    (c = 'T' || c = 't' || c = ' ') && ((afterTime? cs).map isOffset).getD false

end Signpost.Toml.Moment
