import Signpost.Manifest
import Signpost.Toml.Document
/-!
# Manifests as documents

A manifest is written as a TOML document with an optional `order` and a list of
`routes`, each a table or the plain list of its method, path and handler. Keys that
mean nothing here are passed over, though their numbers must have a machine form.
-/

namespace Signpost

/-- What is said of a text that is no manifest. -/
def Manifest.unreadableMessage : String := "Failed to parse route manifest"

def Toml.Value.string? : Toml.Value → Option String
  | .string s => some s
  | _ => none

/-- Whether a value holds nothing. -/
def Toml.Value.isVoid : Toml.Value → Bool
  | .array [] => true
  | .table [] => true
  | _ => false

/-- An order by its name, or by a table with that name as its one key and nothing
in it. -/
def Order.ofToml? : Toml.Value → Option Order
  | .string s => ofName? s
  | .table [(name, v)] => if v.isVoid then ofName? name else none
  | _ => none

/-- Whether the entries that a reader passes over can be passed over. -/
def Toml.skips (known : List String) (t : Toml.Table) : Bool :=
  t.all fun e => known.contains e.1 || e.2.fits

/-- A declaration as a table, or as a list by position. -/
def Declaration.ofToml? : Toml.Value → Option Declaration
  | .table t => do
    let method ← (t.lookup "method").elim (some standardMethod) Toml.Value.string?
    let path ← (t.lookup "path").bind Toml.Value.string?
    let handler ← (t.lookup "handler").bind Toml.Value.string?
    if Toml.skips ["method", "path", "handler"] t then some ⟨method, path, handler⟩ else none
  | .array (.string method :: .string path :: .string handler :: _) => some ⟨method, path, handler⟩
  | _ => none

def declarations? : Toml.Value → Option (List Declaration)
  | .array vs => vs.mapM Declaration.ofToml?
  | _ => none

namespace Manifest

def ofToml? (t : Toml.Table) : Option Manifest := do
  let order ← (t.lookup "order").elim (some none) fun v => (Order.ofToml? v).map some
  let declarations ← (t.lookup "routes").elim (some []) declarations?
  if Toml.skips ["order", "routes"] t then some ⟨order, declarations⟩ else none

/-- The manifest that a document declares. -/
def parse? (document : String) : Option Manifest := (Toml.parse? document).bind ofToml?

end Manifest

end Signpost
