import Signpost.Settings
/-!
# Manifests

A manifest declares the routes of a table. Building the table stops at the first
declaration that has no valid method or no readable template, and names it by its
position, counted from one.
-/

namespace Signpost

structure Declaration where
  method : String
  path : String
  handler : String
deriving DecidableEq

/-- The method of a declaration that names none. -/
def Declaration.standardMethod : String := "GET"

structure Manifest where
  order : Option Order
  declarations : List Declaration
deriving DecidableEq

/-- Why a manifest gives no table. -/
inductive BuildError where
  | invalidMethod (position : Nat) (declaration : Declaration)
  | invalidTemplate (position : Nat) (declaration : Declaration) (cause : Template.SyntaxError)
deriving DecidableEq

def BuildError.message : BuildError → String
  | invalidMethod position d =>
    "route #" ++ toString position ++ " (" ++ d.path ++ "): invalid method '" ++ d.method ++
      "': " ++ Method.invalidMessage
  | invalidTemplate position d cause =>
    "route #" ++ toString position ++ " (" ++ d.path ++ " -> " ++ d.handler ++ "): " ++
      cause.message

/-- Adds the route of one declaration. -/
def Declaration.addTo (d : Declaration) (position : Nat) (t : Table) :
    Except BuildError (Logged Table) :=
  match Method.ofAnyCase? d.method with
  | none => .error (.invalidMethod position d)
  | some method =>
    match t.register method d.path d.handler with
    | .error cause => .error (.invalidTemplate position d cause)
    | .ok added => .ok added

namespace Manifest

/-- Adds the routes of declarations, the first of which is at a position. -/
def addAll : Nat → List Declaration → Table → Logged (Except BuildError Table)
  | _, [], t => ⟨.ok t, []⟩
  | position, d :: ds, t =>
    match d.addTo position t with
    | .error e => ⟨.error e, []⟩
    | .ok added =>
      let rest := addAll (position + 1) ds added.value
      ⟨rest.value, added.events ++ rest.events⟩

/-- The order of a manifest's table: its own, or else that of the settings. -/
def orderWith (m : Manifest) (settings : Settings) : Order := m.order.getD settings.order

/-- The table of a manifest. -/
def build (m : Manifest) (settings : Settings) : Logged (Except BuildError Table) :=
  let added := addAll 1 m.declarations (settings.tableOf (m.orderWith settings))
  match added.value with
  | .error e => ⟨.error e, added.events⟩
  | .ok t => ⟨.ok t, added.events ++ [.manifestLoaded t.size (m.orderWith settings)]⟩

end Manifest

end Signpost
