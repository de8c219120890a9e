import Signpost.Text.Blank
import Signpost.Text.Case
/-!
# Orders of routes

Which of several matching routes is taken: the one declared first, or the most
specific one.
-/

namespace Signpost

inductive Order where
  | declaration
  | specificity
deriving DecidableEq

namespace Order

/-- The order of a table that asks for none. -/
def standard : Order := .specificity

def name : Order → String
  | declaration => "declaration"
  | specificity => "specificity"

/-- The order of exactly this name. -/
def ofName? (name : String) : Option Order :=
  if name = "declaration" then some declaration
  else if name = "specificity" then some specificity
  else none

/-- A text that names no order, as it was compared. -/
structure Unknown where
  text : String
deriving DecidableEq

def Unknown.message (e : Unknown) : String :=
  "unknown route order '" ++ e.text ++ "', expected 'declaration' or 'specificity'"

/-- The order that a text names in any case, with blank space around it. -/
def parse (text : String) : Except Unknown Order :=
  match ofName? (Text.lower (Text.trim text)) with
  | some order => .ok order
  | none => .error ⟨Text.lower (Text.trim text)⟩

end Order

end Signpost
