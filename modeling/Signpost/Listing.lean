import Signpost.Table
/-!
# Listings of tables

The two ways in which a table is shown: a dump with one line a route, and a short
summary for the log. Both follow the order of lookups.
-/

namespace Signpost

/-- A route on one line, with its canonical template. -/
def Route.line (r : Route) : String :=
  "[route] " ++ r.method.name ++ " " ++ r.pattern.render ++ " -> " ++ r.handler

/-- A route for the log, with its template as it was written. -/
def Route.summary (r : Route) : String :=
  r.method.name ++ " " ++ r.template ++ " -> " ++ r.handler

namespace Table

def headline (t : Table) : String :=
  "[routes] order=" ++ t.order.name ++ " count=" ++ toString t.size

/-- The lines of a dump. -/
def lines (t : Table) : List String := t.headline :: t.ordered.map Route.line

/-- The dump of a table, each line ended by a line feed. -/
def dump (t : Table) : String := String.join (t.lines.map (· ++ "\n"))

/-- The log names at most this many routes. -/
def summarySize : Nat := 10

def summaryEvent (t : Table) : Event :=
  .tableLoaded t.size t.order ((t.ordered.take summarySize).map Route.summary)

end Table

end Signpost
