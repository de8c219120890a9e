import Signpost.Regex.Bracket
import Signpost.Text.Alphanumeric
/-!
# Regular expressions

`Regex.isValid` says whether a text is a pattern that a finite automaton can match. Of
a pattern only its shape matters here: what follows what, how deep its parts are
nested and which names its groups have.
-/

namespace Signpost.Regex

/-- Parts may be nested this deep. -/
def depthLimit : Nat := 250

/-- A part of a row: how deep it is nested, and whether it can be repeated. -/
structure Part where
  depth : Nat
  isRepeatable : Bool

/-- What an opening parenthesis starts. -/
inductive Opening where
  /-- A change of mode up to the end of the group around it. -/
  | change (flags : List Char)
  | group (name : Option String) (flags : List Char)

namespace Opening

/-- Whether a character may start the name of a group. -/
def startsName (c : Char) : Bool := c = '_' || Text.isAlphabetic c

def isNameChar (c : Char) : Bool :=
  c = '_' || c = '.' || c = '[' || c = ']' || Text.isAlphanumeric c

/-- A group with its name, after the opening angle. -/
def named? (cs : List Char) : Option (Opening × List Char) :=
  let name := cs.takeWhile (· ≠ '>')
  match cs.dropWhile (· ≠ '>') with
  | '>' :: rest =>
    if name.head?.any startsName && (name.drop 1).all isNameChar then
      some (.group (some (String.ofList name)) [], rest)
    else none
  | _ => none

/-- A group or a change of mode by flags, after the question mark. -/
def flagged? (cs : List Char) : Option (Opening × List Char) :=
  let flags := cs.takeWhile fun c => c ≠ ':' && c ≠ ')'
  if Mode.areFlags flags then
    match cs.dropWhile fun c => c ≠ ':' && c ≠ ')' with
    | ':' :: rest => some (.group none flags, rest)
    | ')' :: rest => if flags.isEmpty then none else some (.change flags, rest)
    | _ => none
  else none

/-- What a parenthesis starts, and what follows. -/
def read? : List Char → Option (Opening × List Char)
  | '?' :: 'P' :: '<' :: cs => named? cs
  | '?' :: '<' :: cs => named? cs
  | '?' :: cs => flagged? cs
  | cs => some (.group none [], cs)

end Opening

/-- A group's inside as far as it is read. -/
structure Body where
  depth : Nat
  /-- The names of the groups in it. -/
  names : List String
  rest : List Char

/-- Reads alternatives up to a closing parenthesis or the end. `alternatives` are the
depths of those that are complete and `parts` what the next one starts with, last
first. Each call takes a character at least. -/
def body? : (fuel : Nat) → Mode → (alternatives : List Nat) → (parts : List Part) →
    List Char → Option Body
  | 0, _, _, _, _ => none
  | fuel + 1, m, alternatives, parts, cs =>
    let complete := levels (parts.map Part.depth) :: alternatives
    match m.skip cs with
    | [] => some ⟨levels complete, [], []⟩
    | ')' :: rest => some ⟨levels complete, [], ')' :: rest⟩
    | '|' :: rest => body? fuel m complete [] rest
    | '(' :: rest =>
      match Opening.read? (m.skip rest) with
      | none => none
      | some (.change flags, rest) =>
        body? fuel (m.switch flags) alternatives (⟨0, false⟩ :: parts) rest
      | some (.group name flags, rest) =>
        match body? fuel (m.switch flags) [] [] rest with
        | some ⟨d, names, ')' :: rest⟩ =>
          (body? fuel m alternatives (⟨d + 1, true⟩ :: parts) rest).map fun b =>
            { b with names := name.toList ++ names ++ b.names }
        | _ => none
    | '[' :: rest =>
      (Bracket.read? m rest).bind fun r =>
        body? fuel m alternatives (⟨r.1, true⟩ :: parts) r.2
    | '\\' :: rest =>
      (Primitive.escaped? m rest).bind fun r =>
        body? fuel m alternatives (⟨0, true⟩ :: parts) r.2
    | c :: rest =>
      if c = '?' || c = '*' || c = '+' then
        match parts with
        | ⟨d, true⟩ :: parts =>
          let rest := if rest.head? = some '?' then rest.drop 1 else rest
          body? fuel m alternatives (⟨d + 1, true⟩ :: parts) rest
        | _ => none
      -- A count needs a closing brace, which no text here has.
      else if c = '\x7b' || (c = '.' && !m.unicode) then none
      else body? fuel m alternatives (⟨0, true⟩ :: parts) rest

/-- Whether a text without closing braces is a pattern. -/
def isValid (text : String) : Bool :=
  match body? (text.toList.length + 1) .initial [] [] text.toList with
  | some b => b.rest.isEmpty && b.depth ≤ depthLimit && b.names.Nodup
  | none => false

end Signpost.Regex
