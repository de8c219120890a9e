import Signpost.Value
/-!
# Bindings

The values that a match gives to the parameters of a pattern, in the order of the
pattern. A pattern built by hand may use a name twice; both bindings are then
kept.
-/

namespace Signpost

structure Bindings where
  entries : List (String × Value)
deriving DecidableEq

namespace Bindings

/-- The value of a name; of a repeated name the first. -/
def get? (b : Bindings) (name : String) : Option Value := b.entries.lookup name

def getText? (b : Bindings) (name : String) : Option String := (b.get? name).bind Value.asText?

def getInt? (b : Bindings) (name : String) : Option Int32 := (b.get? name).bind Value.asInt?

def size (b : Bindings) : Nat := b.entries.length

def isEmpty (b : Bindings) : Bool := b.entries.isEmpty

/-- Each name once, with the value that it was given last. -/
def lastEntries : List (String × Value) → List (String × Value)
  | [] => []
  | e :: es => if es.any (·.1 = e.1) then lastEntries es else e :: lastEntries es

/-- The bindings as a map; of a repeated name the last value stays. -/
def toMap (b : Bindings) : List (String × Value) := lastEntries b.entries

/-- The bindings as an object, repeated names included. -/
def toJson (b : Bindings) : Json := .object (b.entries.map fun e => (e.1, e.2.toJson))

end Bindings

end Signpost
