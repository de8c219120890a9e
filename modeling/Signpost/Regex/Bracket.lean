import Signpost.Regex.Escape
/-!
# Sets between brackets

A set is a row of characters, ranges, named classes and further sets, or two sets
joined by an operator. Only how deep sets are nested is kept of one.
-/

namespace Signpost.Regex

/-- How deep a row of parts is nested, given how deep each is: a row of several parts
is a level of its own. -/
def levels : List Nat → Nat
  | [] => 0
  | [d] => d
  | ds => ds.foldl max 0 + 1

namespace Bracket

def classNames : List String :=
  ["alnum", "alpha", "ascii", "blank", "cntrl", "digit", "graph", "lower", "print", "punct",
    "space", "upper", "word", "xdigit"]

/-- A class written by its name, after the opening bracket: whether it is negated, and
what follows it. -/
def named? : List Char → Option (Bool × List Char)
  | ':' :: '^' :: cs => (afterName? cs).map fun rest => (true, rest)
  | ':' :: cs => (afterName? cs).map fun rest => (false, rest)
  | _ => none
where
  /-- What follows a name and its closing marks. -/
  afterName? (cs : List Char) : Option (List Char) :=
    match cs.dropWhile (· ≠ ':') with
    | ':' :: ']' :: rest =>
      if classNames.contains (String.ofList (cs.takeWhile (· ≠ ':'))) then some rest else none
    | _ => none

/-- A character or an escape, and what follows it. -/
def primitive? (m : Mode) : List Char → Option (Primitive × List Char)
  | [] => none
  | '\\' :: cs => Primitive.escaped? m cs
  | c :: cs => some (.literal c, cs)

/-- Whether a character may be in a set. -/
def admits (m : Mode) (c : Char) : Bool := m.unicode || c.toNat < 128

/-- Whether a primitive may stand in a set by itself. -/
def isMember (m : Mode) : Primitive → Bool
  | .literal c => admits m c
  | .set => true
  | .assertion => false

/-- Whether two primitives are the ends of a range. -/
def isRange (m : Mode) : Primitive → Primitive → Bool
  | .literal a, .literal b => a ≤ b && admits m a && admits m b
  | _, _ => false

/-- What follows a range or a single member at the front of a set. -/
def afterMember? (m : Mode) (cs : List Char) : Option (List Char) := do
  let (first, rest) ← primitive? m cs
  let single := if isMember m first then some (m.skip rest) else none
  match m.skip rest with
  | '-' :: rest =>
    if m.peek rest = some ']' || m.peek rest = some '-' then single
    else
      let (last, rest) ← primitive? m (m.skip rest)
      if isRange m first last then some rest else none
  | _ => single

/-- Whether a set may be negated. About bytes, it would then hold some that are no text. -/
def mayNegate (m : Mode) : Bool := m.unicode

/-- What follows an opening bracket and the mark of negation. -/
def opened? (m : Mode) (cs : List Char) : Option (List Char) :=
  match m.skip cs with
  | '^' :: cs => if mayNegate m then some cs else none
  | cs => some cs

/-- The operators, which are of equal rank. -/
def operators : List Char := ['&', '-', '~']

/-- The depth of a set that consists of `left`, if there is an operator, and a row of
parts. -/
def joined (left : Option Nat) (parts : List Nat) : Nat :=
  left.elim (levels parts) fun d => max d (levels parts) + 1

/-- The depth of a set up to its closing bracket, and what follows it. `left` is what
comes before the last operator and `parts` what follows it; at the start hyphens and
a closing bracket are members. Each call takes a character at least. -/
def set? (m : Mode) :
    (fuel : Nat) → (start : Bool) → (left : Option Nat) → (parts : List Nat) → List Char →
      Option (Nat × List Char)
  | 0, _, _, _, _ => none
  | fuel + 1, start, left, parts, cs =>
    match m.skip cs with
    | [] => none
    | ']' :: rest =>
      if start && parts.isEmpty then set? m fuel false left [0] rest
      else some (joined left parts, rest)
    | '[' :: rest =>
      match named? rest with
      | some (negated, rest) =>
        if mayNegate m || !negated then set? m fuel false left (0 :: parts) rest else none
      | none =>
        match opened? m rest with
        | none => none
        | some inside =>
          match set? m fuel true none [] inside with
          | none => none
          | some (d, rest) => set? m fuel false left ((d + 1) :: parts) rest
    | c :: rest =>
      if start && c = '-' then set? m fuel true left (0 :: parts) rest
      else if operators.contains c && rest.head? = some c then
        set? m fuel false (some (joined left parts)) [] (rest.drop 1)
      else
        match afterMember? m (c :: rest) with
        | none => none
        | some rest => set? m fuel false left (0 :: parts) rest

/-- The depth of a set after its opening bracket, and what follows it. -/
def read? (m : Mode) (cs : List Char) : Option (Nat × List Char) :=
  (opened? m cs).bind fun inside =>
    (set? m (inside.length + 1) true none [] inside).map fun r => (r.1 + 1, r.2)

end Bracket

end Signpost.Regex
