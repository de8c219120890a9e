import Signpost.Bisect
import Signpost.Event
import Signpost.Route
import Signpost.Template
/-!
# Route tables

A table keeps its routes twice: in the order of their registration, and by length
for lookups. The bucket at position `n` holds the routes with `n` segments, in the
order in which they are tried, so a lookup visits one bucket and stops at the
first route that matches.
-/

namespace Signpost

structure Table where
  order : Order
  /-- The types that registered templates may name. -/
  registry : Registry
  /-- Every route, in order of registration. -/
  routes : List Route
  /-- The routes by number of segments. -/
  buckets : List (List Route)
  /-- Lookups that take longer, in microseconds, are reported as slow. -/
  slowMatchMicros : Nat

/-- A route that matches a request, and what it binds. -/
structure Hit where
  route : Route
  bindings : Bindings

namespace Table

/-- Lookups count as slow after a millisecond unless settings say otherwise. -/
def standardSlowMatchMicros : Nat := 1000

def empty (order : Order) : Table := ⟨order, .standard, [], [], standardSlowMatchMicros⟩

/-- The table with another registry for the templates still to come. -/
def withRegistry (t : Table) (registry : Registry) : Table := { t with registry := registry }

def withSlowMatchMicros (t : Table) (micros : Nat) : Table := { t with slowMatchMicros := micros }

def size (t : Table) : Nat := t.routes.length

def isEmpty (t : Table) : Bool := t.routes.isEmpty

def templates (t : Table) : List String := t.routes.map Route.template

/-! ## Registration -/

/-- Where a new route goes among those of its length: behind all of them in order
of declaration, else behind those that are tried before it. -/
def position (order : Order) (r : Route) (bucket : List Route) : Nat :=
  match order with
  | .declaration => bucket.length
  | .specificity => bisect (fun s => decide (Route.Before .specificity s r)) bucket

/-- Puts a new route into its bucket. -/
def place (order : Order) (r : Route) (bucket : List Route) : List Route :=
  bucket.insertIdx (position order r bucket) r

/-- Puts a route into the bucket at a position, which may be the first there. -/
def placeAt (order : Order) (r : Route) : Nat → List (List Route) → List (List Route)
  | 0, [] => [[r]]
  | 0, bucket :: rest => place order r bucket :: rest
  | n + 1, [] => [] :: placeAt order r n []
  | n + 1, bucket :: rest => bucket :: placeAt order r n rest

/-- The first route of the same method and an equal pattern. -/
def shadowing? (t : Table) (method : Method) (pattern : Pattern) : Option Route :=
  t.routes.find? fun r => r.method = method && r.pattern == pattern

/-- The warning due when a route is added that an earlier one shadows. -/
def insertEvents (t : Table) (method : Method) (pattern : Pattern) (handler : String) :
    List Event :=
  match t.shadowing? method pattern with
  | some r => [.routeShadowed method.name pattern.template handler r.handler]
  | none => []

/-- Adds a route for a pattern that is already read. -/
def insert (t : Table) (method : Method) (pattern : Pattern) (handler : String) : Logged Table :=
  let r : Route := ⟨method, pattern, handler, t.size⟩
  ⟨{ t with routes := t.routes ++ [r], buckets := placeAt t.order r pattern.size t.buckets },
    t.insertEvents method pattern handler⟩

/-- Adds a route for a template, unless the template cannot be read. -/
def register (t : Table) (method : Method) (template handler : String) :
    Except Template.SyntaxError (Logged Table) :=
  match Template.parse t.registry template with
  | .error e => .error e
  | .ok pattern => .ok (t.insert method pattern handler)

@[simp] theorem routes_insert (t : Table) (method : Method) (pattern : Pattern)
    (handler : String) :
    (t.insert method pattern handler).value.routes =
      t.routes ++ [⟨method, pattern, handler, t.size⟩] := rfl

@[simp] theorem order_insert (t : Table) (method : Method) (pattern : Pattern) (handler : String) :
    (t.insert method pattern handler).value.order = t.order := rfl

theorem position_le (order : Order) (r : Route) (bucket : List Route) :
    position order r bucket ≤ bucket.length := by
  cases order with
  | declaration => exact Nat.le_refl _
  | specificity => exact bisect_le_length _ _

@[simp] theorem place_nil (order : Order) (r : Route) : place order r [] = [r] := by
  have h : position order r [] = 0 := Nat.le_zero.1 (position_le order r [])
  simp [place, h]

/-- A placed route is in its bucket, and nothing else there comes or goes. -/
theorem place_perm (order : Order) (r : Route) (bucket : List Route) :
    (place order r bucket).Perm (r :: bucket) :=
  List.perm_insertIdx r bucket (position_le order r bucket)

/-- Placing a route changes one bucket. -/
theorem getD_placeAt (order : Order) (r : Route) (n k : Nat) (buckets : List (List Route)) :
    (placeAt order r n buckets)[k]?.getD [] =
      if k = n then place order r (buckets[n]?.getD []) else buckets[k]?.getD [] := by
  fun_induction placeAt order r n buckets generalizing k with
  | case1 => cases k <;> simp
  | case2 bucket rest => cases k <;> simp
  | case3 n ih => cases k <;> simp [ih]
  | case4 n bucket rest ih => cases k <;> simp [ih]

/-! ## Lookup -/

/-- The routes that have `n` segments, in the order in which they are tried. -/
def bucket (t : Table) (n : Nat) : List Route := t.buckets[n]?.getD []

/-- An inserted route goes into the bucket of its length. -/
theorem bucket_insert (t : Table) (method : Method) (pattern : Pattern) (handler : String)
    (n : Nat) :
    (t.insert method pattern handler).value.bucket n =
      if n = pattern.size then
        place t.order ⟨method, pattern, handler, t.size⟩ (t.bucket pattern.size)
      else t.bucket n :=
  getD_placeAt t.order ⟨method, pattern, handler, t.size⟩ pattern.size n t.buckets

/-- The first route of a bucket that has the method, if one is asked for, and
matches the segments. -/
def firstHit? (method : Option Method) (segments : List String) : List Route → Option Hit
  | [] => none
  | r :: rs =>
    if method.all (· = r.method) then
      match r.pattern.matchSegments? segments with
      | some bindings => some ⟨r, bindings⟩
      | none => firstHit? method segments rs
    else firstHit? method segments rs

def find? (t : Table) (method : Option Method) (path : String) : Option Hit :=
  firstHit? method (Segment.split path) (t.bucket (Segment.split path).length)

/-- The route of a request. -/
def route? (t : Table) (method : Method) (path : String) : Option Hit := t.find? (some method) path

/-- The route of a path, whatever the method. -/
def routeAny? (t : Table) (path : String) : Option Hit := t.find? none path

/-- Every route in match order: the shorter first, and those of one length as
lookups try them. -/
def ordered (t : Table) : List Route := t.buckets.flatten

end Table

end Signpost
