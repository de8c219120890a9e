import Signpost.Text.Case.Table
import Signpost.Text.Case.Context
/-!
# Capital and small letters

`upper` and `lower` map a whole text. A letter may map to several characters
(`ß` to `SS`), and a capital sigma maps to the form that ends a word when it
stands at the end of one.
-/

namespace Signpost.Text

/-- The code points that `n` maps to: an expansion, else the run that holds it,
else itself. -/
def mapCase (expansions : List (Nat × List Nat)) (runs : List CaseRun) (n : Nat) : List Nat :=
  match expansions.lookup n with
  | some ns => ns
  | none => [(runs.findSome? (·.map? n)).getD n]

def upperChar (c : Char) : List Char :=
  (mapCase upperExpansions upperRuns c.toNat).map Char.ofNat

def lowerChar (c : Char) : List Char :=
  (mapCase lowerExpansions lowerRuns c.toNat).map Char.ofNat

def upperChars (cs : List Char) : List Char := cs.flatMap upperChar

def upper (s : String) : String := String.ofList (upperChars s.toList)

/-- Whether the first character of `cs` that has a say is a letter with case. -/
def startsCased (cs : List Char) : Bool :=
  ((cs.dropWhile caseIgnorable.contains).head?.map cased.contains).getD false

/-- A sigma ends a word when a letter comes before it and none after it. `before`
is what precedes it, nearest first. -/
def endsWord (before after : List Char) : Bool := startsCased before && !startsCased after

/-- The small letters of a text, given what precedes it, nearest first. -/
def lowerFrom (before : List Char) : List Char → List Char
  | [] => []
  | c :: cs =>
    (if c = 'Σ' then [if endsWord before cs then 'ς' else 'σ'] else lowerChar c) ++
      lowerFrom (c :: before) cs

def lower (s : String) : String := String.ofList (lowerFrom [] s.toList)

end Signpost.Text
