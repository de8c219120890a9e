import Signpost.Bindings
import Signpost.Pattern
/-!
# Matching

A path matches a pattern when it has as many segments as the pattern has items
and each segment meets its item. A segment that does not convert is no error: the
path then does not match.
-/

namespace Signpost.Pattern

/-- Walks items and segments together and collects the bindings. -/
def bindAll : List Item → List String → Option (List (String × Value))
  | [], [] => some []
  | .literal text :: items, segment :: segments =>
    if text = segment then bindAll items segments else none
  | .parameter name type :: items, segment :: segments =>
    match type.convert segment with
    | none => none
    | some value => (bindAll items segments).map ((name, value) :: ·)
  | _, _ => none

/-- Matches a path that is already cut into segments. -/
def matchSegments? (p : Pattern) (segments : List String) : Option Bindings :=
  (bindAll p.items segments).map .mk

/-- The bindings of a path that matches. -/
def match? (p : Pattern) (path : String) : Option Bindings :=
  p.matchSegments? (Segment.split path)

/-- Only a list of as many segments as there are items can be bound. -/
theorem length_eq_of_bindAll {items : List Item} {segments : List String}
    {es : List (String × Value)} (h : bindAll items segments = some es) :
    items.length = segments.length := by
  fun_induction bindAll items segments generalizing es with
  | case1 => rfl
  | case2 items segment segments ih => simpa using ih h
  | case3 => simp at h
  | case4 => simp at h
  | case5 name type items segment segments value hv ih =>
    obtain ⟨es', h', -⟩ := Option.map_eq_some_iff.1 h
    simpa using ih h'
  | case6 => simp at h

/-- What is bound are the parameters, in order. -/
theorem names_of_bindAll {items : List Item} {segments : List String}
    {es : List (String × Value)} (h : bindAll items segments = some es) :
    es.map Prod.fst = Item.names items := by
  fun_induction bindAll items segments generalizing es with
  | case1 => simp_all
  | case2 items segment segments ih => simpa [Item.names_cons, Item.name?] using ih h
  | case3 => simp at h
  | case4 => simp at h
  | case5 name type items segment segments value hv ih =>
    obtain ⟨es', h', rfl⟩ := Option.map_eq_some_iff.1 h
    simpa [Item.names_cons, Item.name?] using ih h'
  | case6 => simp at h

end Signpost.Pattern
