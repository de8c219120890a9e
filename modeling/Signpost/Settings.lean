import Signpost.Table
/-!
# Settings

How tables behave when nothing else says so. Settings come from variables; a
variable that is missing or cannot be read leaves the standard in place.
-/

namespace Signpost

structure Settings where
  order : Order
  slowMatchMicros : Nat
deriving DecidableEq

namespace Settings

def standard : Settings := ⟨.standard, Table.standardSlowMatchMicros⟩

def orderVariable : String := "CTRLROUTE_ROUTE_ORDER"

def slowMatchVariable : String := "CTRLROUTE_SLOW_MATCH_US"

/-- The settings in a set of variables. -/
def ofVariables (lookup : String → Option String) : Settings where
  order := ((lookup orderVariable).bind fun s => (Order.parse s).toOption).getD standard.order
  slowMatchMicros :=
    ((lookup slowMatchVariable).bind fun s => Decimal.nat64? (Text.trim s)).getD
      standard.slowMatchMicros

/-- An empty table with these settings, and with `order` in place of their own. -/
def tableOf (s : Settings) (order : Order) : Table :=
  (Table.empty order).withSlowMatchMicros s.slowMatchMicros

def emptyTable (s : Settings) : Table := s.tableOf s.order

end Settings

end Signpost
