import Signpost.Toml.Moment
import Signpost.Toml.Value
/-!
# Values written without quotes

Booleans, numbers, dates and times. The digits of a number may be grouped by
underscores, each between two digits. A grouped integer in base ten may hold other
characters too; it is refused where its number is asked for.
-/

namespace Signpost.Toml

/-- Whether each underscore stands between two digits, where `afterDigit` says whether
the character before the text is one. -/
def isGroupedFrom (isDigit : Char → Bool) : (afterDigit : Bool) → List Char → Bool
  | _, [] => true
  | afterDigit, '_' :: cs => afterDigit && cs.head?.any isDigit && isGroupedFrom isDigit false cs
  | _, c :: cs => isGroupedFrom isDigit (isDigit c) cs

/-- Whether each underscore of a text stands between two digits. -/
def isGrouped (isDigit : Char → Bool) (cs : List Char) : Bool := isGroupedFrom isDigit false cs

/-- A text without its underscores. -/
def ungroup (cs : List Char) : List Char := cs.filter (· ≠ '_')

/-- What follows the mark of a base in an integer without a sign. There may be no
digit. -/
def inMarkedBase? (base : Nat) (cs : List Char) : Option Value :=
  if cs.all (fun c => Digit.isIn base c || c = '_') && isGrouped (Digit.isIn base) cs then
    some (.integer base (ungroup cs))
  else none

/-- Whether a text starts with a zero and has more digits than that. -/
def hasSpareZero (digits cs : List Char) : Bool := cs.head? = some '0' && 1 < digits.length

def isGroupChar (c : Char) : Bool := c.isDigit || c = '_'

/-- The digits at the front of a text, one at least, and what follows them. -/
def digits? (cs : List Char) : Option (List Char × List Char) :=
  let digits := ungroup (cs.takeWhile isGroupChar)
  if digits.isEmpty then none else some (digits, cs.dropWhile isGroupChar)

/-- The digits of a fraction at the front of a text, none if there is no point. -/
def fraction? : List Char → Option (List Char × List Char)
  | '.' :: cs => digits? cs
  | cs => some ([], cs)

/-- The number that a text of digits writes. -/
def allDigits? (cs : List Char) : Option Int :=
  match digits? cs with
  | some (digits, []) => some (Digit.number 10 digits)
  | _ => none

/-- The power of ten at the end of a real number, zero if there is none. -/
def exponent? : List Char → Option Int
  | [] => some 0
  | c :: cs =>
    if c = 'e' || c = 'E' then
      match cs with
      | '+' :: cs => allDigits? cs
      | '-' :: cs => (allDigits? cs).map fun n => -n
      | cs => allDigits? cs
    else none

/-- A real number without its sign, which is dropped, because nothing asks for it. -/
def real? (cs : List Char) : Option Real := do
  let (whole, rest) ← digits? cs
  let (fraction, rest) ← fraction? rest
  let exponent ← exponent? rest
  if isGrouped Char.isDigit cs && !hasSpareZero whole cs then
    some (.finite (Digit.number 10 (whole ++ fraction)) (exponent - fraction.length))
  else none

/-- An integer in base ten, a real number, a date or a time. `cs` is the text without
its sign. -/
def number? (sign cs : List Char) : Option Value :=
  let rest := cs.dropWhile Char.isDigit
  if rest.isEmpty then
    if cs.isEmpty || hasSpareZero cs cs then none else some (.integer 10 (sign ++ cs))
  else if rest.head? = some '-' || rest.head? = some ':' then
    if sign.isEmpty && Moment.isMoment cs then some (.moment (String.ofList cs)) else none
  else if rest.contains ' ' then none
  else if rest.any fun c => c = '.' || c = 'e' || c = 'E' then (real? cs).map .real
  else if rest.head? = some '_' && cs.head? ≠ some '0' && isGrouped Digit.isHex cs then
    some (.integer 10 (sign ++ ungroup cs))
  else none

/-- The words that stand for a value. -/
def word? (cs : List Char) : Option Value :=
  match String.ofList cs with
  | "true" => some (.boolean true)
  | "false" => some (.boolean false)
  | "inf" | "+inf" | "-inf" => some (.real .infinite)
  | "nan" | "+nan" | "-nan" => some (.real .nan)
  | _ => none

/-- The value of a text without quotes. -/
def scalar? (cs : List Char) : Option Value :=
  (word? cs).or <|
    match cs with
    | '0' :: 'x' :: cs => inMarkedBase? 16 cs
    | '0' :: 'o' :: cs => inMarkedBase? 8 cs
    | '0' :: 'b' :: cs => inMarkedBase? 2 cs
    | '+' :: cs => number? ['+'] cs
    | '-' :: cs => number? ['-'] cs
    | cs => number? [] cs

end Signpost.Toml
