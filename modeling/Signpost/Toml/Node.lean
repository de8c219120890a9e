import Signpost.Toml.Value
/-!
# Tables under construction

A document fills its tables bit by bit. How a table came to be decides how it may
grow: one opened by its own header is closed to dotted keys from elsewhere, one
that dotted keys went through takes no header of its own, and one that only
appeared in the header of a deeper table may still get either.
-/

namespace Signpost.Toml

/-- How a table came to be. -/
inductive Origin where
  /-- On the way to the table of a deeper header. -/
  | passing
  /-- On the way to the last part of a dotted key, whatever it was before. -/
  | dotted
  /-- By a header of its own. -/
  | header
deriving DecidableEq

inductive Node where
  /-- A finished value. -/
  | leaf (v : Value)
  | table (origin : Origin) (entries : List (String × Node))
  /-- An array of tables, the last of which can still grow. -/
  | tables (finished : List (List (String × Node))) (last : List (String × Node))

namespace Node

abbrev Entries := List (String × Node)

/-- Changes the entry of a key, or adds it at the end. -/
def put (key : String) (node : Node) : Entries → Entries
  | [] => [(key, node)]
  | (k, n) :: es => if k = key then (k, node) :: es else (k, n) :: put key node es

/-- Gives a dotted key its value. `holds` says whether the entries may take a key
themselves, which the table at the end of an array may not. -/
def assign (v : Value) : Bool → List String → Entries → Option Entries
  | _, [], _ => none
  | holds, [key], es =>
    match holds, es.lookup key with
    | true, none => some (put key (.leaf v) es)
    | _, _ => none
  | _, key :: path, es =>
    match es.lookup key with
    | none => (assign v true path []).map fun deeper => put key (.table .dotted deeper) es
    | some (.table origin deeper) =>
      if origin = .header then none
      else (assign v true path deeper).map fun deeper => put key (.table .dotted deeper) es
    | some (.tables finished last) =>
      (assign v false path last).map fun last => put key (.tables finished last) es
    | some (.leaf _) => none

/-- Goes down a path of keys, making the tables that are missing, and changes the
entries at its end. -/
def descend (change : Entries → Option Entries) : List String → Entries → Option Entries
  | [], es => change es
  | key :: path, es =>
    match es.lookup key with
    | none => (descend change path []).map fun deeper => put key (.table .passing deeper) es
    | some (.table origin deeper) =>
      (descend change path deeper).map fun deeper => put key (.table origin deeper) es
    | some (.tables finished last) =>
      (descend change path last).map fun last => put key (.tables finished last) es
    | some (.leaf _) => none

/-- Opens the table of a header in the entries above it. -/
def openTable (key : String) (es : Entries) : Option Entries :=
  match es.lookup key with
  | none => some (put key (.table .header []) es)
  | some (.table .passing deeper) => some (put key (.table .header deeper) es)
  | some _ => none

/-- Opens the next table of an array in the entries above it. -/
def openElement (key : String) (es : Entries) : Option Entries :=
  match es.lookup key with
  | none => some (put key (.tables [] []) es)
  | some (.tables finished last) => some (put key (.tables (finished ++ [last]) []) es)
  | some _ => none

mutual

def toValue : Node → Value
  | .leaf v => v
  | .table _ entries => .table (toEntries entries)
  | .tables finished last => .array (toTables finished ++ [.table (toEntries last)])

def toEntries : List (String × Node) → List (String × Value)
  | [] => []
  | (key, node) :: es => (key, toValue node) :: toEntries es

def toTables : List (List (String × Node)) → List Value
  | [] => []
  | t :: ts => .table (toEntries t) :: toTables ts

end

/-- The entries of a table written on the spot. -/
def ofAssignments : List (List String × Value) → Entries → Option Entries
  | [], es => some es
  | (path, v) :: rest, es => (assign v true path es).bind (ofAssignments rest)

end Node

end Signpost.Toml
