import Signpost.Digit
import Signpost.Regex.Mode
/-!
# Escapes

What a backslash and the characters after it stand for. A word boundary of Unicode is
refused, because an automaton that reads bytes cannot see one, and so is a byte beyond
ASCII, which is no text.
-/

namespace Signpost.Regex

/-- What stands for a set of characters, or for a place between two. -/
inductive Primitive where
  | literal (c : Char)
  | set
  | assertion
deriving DecidableEq

namespace Primitive

/-- Characters with a meaning of their own, which an escape takes away. -/
def isMeta (c : Char) : Bool := "\\.+*?()|[]\x7b\x7d^$#&-~".toList.contains c

/-- Characters that stand for themselves after a backslash. -/
def isEscapable (c : Char) : Bool :=
  isMeta c || (c.toNat < 128 && !c.isAlphanum && c ≠ '<' && c ≠ '>')

/-- The `n` hexadecimal digits at the front of a text, and what follows them. -/
def hexDigits? (m : Mode) : Nat → List Char → Option (List Char × List Char)
  | 0, cs => some ([], cs)
  | _ + 1, [] => none
  | n + 1, c :: cs =>
    if Digit.isHex c then (hexDigits? m n (m.skip cs)).map fun r => (c :: r.1, r.2) else none

/-- The character that `n` hexadecimal digits stand for. -/
def codePoint? (m : Mode) (n : Nat) (cs : List Char) : Option (Char × List Char) :=
  (hexDigits? m n (m.skip cs)).bind fun r => (Digit.character? r.1).map fun c => (c, r.2)

/-- The letters of the general categories, in capitals. -/
def categories : List Char := ['C', 'L', 'M', 'N', 'P', 'S', 'Z']

/-- What follows the letter of a general category. -/
def afterCategory? (m : Mode) (cs : List Char) : Option (List Char) :=
  match m.skip cs with
  | c :: cs => if m.unicode && categories.contains c.toUpper then some (m.skip cs) else none
  | [] => none

/-- The primitive that an escape stands for, after the backslash, and what follows. -/
def escaped? (m : Mode) : List Char → Option (Primitive × List Char)
  | [] => none
  | c :: cs =>
    if isEscapable c then some (.literal c, cs)
    else if c = 'x' then
      (codePoint? m 2 cs).bind fun r =>
        if m.unicode || r.1.toNat < 128 then some (.literal r.1, r.2) else none
    else if c = 'u' then (codePoint? m 4 cs).map fun r => (.literal r.1, r.2)
    else if c = 'U' then (codePoint? m 8 cs).map fun r => (.literal r.1, r.2)
    else if c = 'p' || c = 'P' then (afterCategory? m cs).map fun rest => (.set, rest)
    else if c = 'd' || c = 's' || c = 'w' then some (.set, cs)
    else if c = 'D' || c = 'S' || c = 'W' then if m.unicode then some (.set, cs) else none
    else if c = 'a' then some (.literal '\x07', cs)
    else if c = 't' then some (.literal '\t', cs)
    else if c = 'n' then some (.literal '\n', cs)
    else if c = 'v' then some (.literal '\x0b', cs)
    else if c = 'f' then some (.literal '\x0c', cs)
    else if c = 'r' then some (.literal '\r', cs)
    else if c = 'A' || c = 'z' then some (.assertion, cs)
    else if c = 'b' || c = 'B' || c = '<' || c = '>' then
      if m.unicode then none else some (.assertion, cs)
    else none

end Primitive

end Signpost.Regex
