import Signpost.Order
import Signpost.Json
import Signpost.Text.Quoted
/-!
# Log events

What the library tells about its work. An operation that has something to tell
returns its events with its value, in the order in which they happened.
-/

namespace Signpost

inductive Event where
  /-- A route was added that an earlier equal route always beats. -/
  | routeShadowed (method template handler existingHandler : String)
  /-- A table is ready; `summary` lists its first routes. -/
  | tableLoaded (routeCount : Nat) (order : Order) (summary : List String)
  | manifestLoaded (routeCount : Nat) (order : Order)

namespace Event

inductive Level where
  | info
  | warn

def Level.name : Level → String
  | info => "INFO"
  | warn => "WARN"

def level : Event → Level
  | routeShadowed .. => .warn
  | tableLoaded .. => .info
  | manifestLoaded .. => .info

def message : Event → String
  | routeShadowed .. => "Route is shadowed by an earlier registration"
  | tableLoaded .. => "Routing table loaded"
  | manifestLoaded .. => "Route manifest loaded"

/-- The named facts of an event. -/
def fields : Event → List (String × Json)
  | routeShadowed method template handler existingHandler =>
    [("method", .text method), ("template", .text template), ("handler_name", .text handler),
     ("existing_handler", .text existingHandler)]
  | tableLoaded routeCount order summary =>
    [("routes_count", .int routeCount), ("route_order", .text order.name),
     ("routes_summary", .text (Text.quotedList summary))]
  | manifestLoaded routeCount order =>
    [("routes_count", .int routeCount), ("route_order", .text order.name)]

end Event

/-- A value and the events that came with it. -/
structure Logged (α : Type) where
  value : α
  events : List Event

end Signpost
