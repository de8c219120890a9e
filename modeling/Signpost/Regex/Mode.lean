import Signpost.Text.Blank
/-!
# Modes of a pattern

A pattern can change how its rest is read. In extended mode, blanks and comments
stand between its pieces; without Unicode mode, it is about bytes instead of
characters, and no piece of it may match bytes that are not part of a text.
-/

namespace Signpost.Regex

structure Mode where
  extended : Bool
  unicode : Bool
deriving DecidableEq

namespace Mode

/-- The mode that a pattern starts in. -/
def initial : Mode := ⟨false, true⟩

/-- What follows blanks and comments. A comment ends with its line. -/
def afterBlanks : (inComment : Bool) → List Char → List Char
  | _, [] => []
  | true, c :: cs => afterBlanks (c ≠ '\n') cs
  | false, c :: cs =>
    if Text.isBlank c then afterBlanks false cs
    else if c = '#' then afterBlanks true cs
    else c :: cs

/-- What follows that is not passed over. -/
def skip (m : Mode) (cs : List Char) : List Char := if m.extended then afterBlanks false cs else cs

/-- The character that decides whether a hyphen before `cs` makes a range. Of a
comment only the mark is passed over. -/
def peek (m : Mode) (cs : List Char) : Option Char :=
  if m.extended then
    match cs.dropWhile Text.isBlank with
    | '#' :: cs => (cs.dropWhile Text.isBlank).head?
    | cs => cs.head?
  else cs.head?

/-! ## Flags -/

/-- Letters that switch something on, or off after a hyphen. -/
def flagLetters : List Char := ['i', 'm', 's', 'U', 'u', 'R', 'x']

/-- Whether a text switches flags: each at most once, and something after a hyphen. -/
def areFlags (cs : List Char) : Bool :=
  cs.all (fun c => c = '-' || flagLetters.contains c) && cs.Nodup && cs.getLast? ≠ some '-'

/-- A flag after flags are switched. -/
def switched (cs : List Char) (flag : Char) (before : Bool) : Bool :=
  (cs.takeWhile (· ≠ '-')).contains flag || (before && !cs.contains flag)

/-- The mode after flags are switched. -/
def switch (m : Mode) (cs : List Char) : Mode :=
  ⟨switched cs 'x' m.extended, switched cs 'u' m.unicode⟩

end Mode

end Signpost.Regex
