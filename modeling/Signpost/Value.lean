import Signpost.Json
/-!
# Values of parameters

A parameter is bound to a text or to a 32-bit integer.
-/

namespace Signpost

inductive Value where
  | text (s : String)
  | int (n : Int32)
deriving DecidableEq

namespace Value

def asText? : Value → Option String
  | text s => some s
  | int _ => none

def asInt? : Value → Option Int32
  | text _ => none
  | int n => some n

/-- A text as it is, an integer in decimal. -/
def render : Value → String
  | text s => s
  | int n => toString n.toInt

def toJson : Value → Json
  | text s => .text s
  | int n => .int n.toInt

end Value

end Signpost
