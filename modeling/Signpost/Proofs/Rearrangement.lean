import Mathlib.Logic.Equiv.Defs
import Mathlib.Order.Fin.Basic
import Signpost.Proofs.Lookup
import Signpost.Proofs.StableOrder
/-!
# Registrations in another order

Two routes tie when they have one method and one length and, in order of specificity,
are equally specific: then the one registered first is tried first. A table made of
the same routes in another order gives every request the same answer, as long as the
routes that tie have kept their order (`route?_of_rearranges`).
-/

namespace Signpost

namespace Addition

/-- Two routes of which registration alone says which is tried first. -/
structure Ties (order : Order) (a b : Addition) : Prop where
  method : a.method = b.method
  size : a.pattern.size = b.pattern.size
  specificity : order = .specificity →
    a.pattern.literalCount = b.pattern.literalCount ∧ a.pattern.ranks = b.pattern.ranks

theorem Ties.symm {order : Order} {a b : Addition} (h : Ties order a b) : Ties order b a :=
  ⟨h.method.symm, h.size.symm, fun ho => ⟨(h.specificity ho).1.symm, (h.specificity ho).2.symm⟩⟩

instance (order : Order) (a b : Addition) : Decidable (Ties order a b) :=
  decidable_of_iff (a.method = b.method ∧ a.pattern.size = b.pattern.size ∧
      (order = .specificity →
        a.pattern.literalCount = b.pattern.literalCount ∧ a.pattern.ranks = b.pattern.ranks))
    ⟨fun ⟨hm, hs, hp⟩ => ⟨hm, hs, hp⟩, fun ⟨hm, hs, hp⟩ => ⟨hm, hs, hp⟩⟩

/-! Three routes to users, the first two of which tie. -/

def byName : Addition :=
  ⟨.get, .ofItems [.literal "users", .parameter "name" .string], "by name"⟩

def byId : Addition :=
  ⟨.get, .ofItems [.literal "users", .parameter "id" .string], "by id"⟩

def myself : Addition :=
  ⟨.get, .ofItems [.literal "users", .literal "me"], "myself"⟩

end Addition

/-- One list of routes is another in a different order: each route has its place there,
and two that tie are there in the order in which they are here. -/
def Rearranges (order : Order) (here there : List Addition) : Prop :=
  ∃ place : Fin here.length ≃ Fin there.length,
    (∀ i, there.get (place i) = here.get i) ∧
    ∀ i j, i < j → Addition.Ties order (here.get i) (here.get j) → place i < place j

theorem Rearranges.symm {order : Order} {here there : List Addition}
    (h : Rearranges order here there) : Rearranges order there here := by
  obtain ⟨place, hget, hkeep⟩ := h
  have hget' : ∀ i, here.get (place.symm i) = there.get i := fun i => by
    rw [← hget, Equiv.apply_symm_apply]
  refine ⟨place.symm, hget', fun i j hij hties => ?_⟩
  rcases lt_trichotomy (place.symm i) (place.symm j) with h | h | h
  · exact h
  · exact absurd (place.symm.injective h) hij.ne
  · -- Places of routes that tie are never swapped, so `j` would be before `i`.
    rw [← hget', ← hget' j] at hties
    have hji := hkeep _ _ h hties.symm
    rw [Equiv.apply_symm_apply, Equiv.apply_symm_apply] at hji
    exact absurd hij hji.asymm

/-- Two answers that differ in the index of the route at most. -/
structure Hit.SameAnswer (a b : Hit) : Prop where
  method : a.route.method = b.route.method
  template : a.route.template = b.route.template
  handler : a.route.handler = b.route.handler
  bindings : a.bindings = b.bindings

namespace Table

variable {order : Order} {here there : List Addition}

/-! ## Tables of insertions -/

theorem mem_routes_insertions {l : List Addition} {r : Route} :
    r ∈ (built order (l.map Addition.insertion)).routes ↔
      ∃ i : Fin l.length, r = (l.get i).route i := by
  rw [routes_insertions, List.mem_mapIdx]
  constructor
  · rintro ⟨i, hi, rfl⟩
    exact ⟨⟨i, hi⟩, rfl⟩
  · rintro ⟨i, rfl⟩
    exact ⟨i, i.isLt, rfl⟩

theorem isHit_insertions_iff {l : List Addition} {method : Method} {path : String} {hit : Hit} :
    IsHit (built order (l.map Addition.insertion)).routes (fun r => r.method = method) path hit ↔
      ∃ i : Fin l.length, hit.route = (l.get i).route i ∧ (l.get i).method = method ∧
        (l.get i).pattern.match? path = some hit.bindings := by
  constructor
  · rintro ⟨hmem, hmethod, hmatch⟩
    obtain ⟨i, hi⟩ := mem_routes_insertions.1 hmem
    rw [hi] at hmethod hmatch
    exact ⟨i, hi, hmethod, hmatch⟩
  · rintro ⟨i, hi, hmethod, hmatch⟩
    exact ⟨mem_routes_insertions.2 ⟨i, hi⟩, hi ▸ hmethod, hi ▸ hmatch⟩

/-! ## What a rearrangement keeps -/

section Place

variable {place : Fin here.length ≃ Fin there.length}
  (hget : ∀ i, there.get (place i) = here.get i)
  (hkeep : ∀ i j, i < j → Addition.Ties order (here.get i) (here.get j) → place i < place j)
include hget hkeep

/-- Of two routes of one method and one length, the one tried first stays so. -/
theorem before_place {i j : Fin here.length} (hmethod : (here.get i).method = (here.get j).method)
    (hsize : (here.get i).pattern.size = (here.get j).pattern.size)
    (h : Route.Before order ((here.get i).route i) ((here.get j).route j)) :
    Route.Before order ((there.get (place i)).route (place i))
      ((there.get (place j)).route (place j)) := by
  rw [hget, hget]
  cases order with
  | declaration => exact hkeep i j h ⟨hmethod, hsize, nofun⟩
  | specificity =>
    rcases h with hbetter | ⟨hequal, hij⟩
    · exact .inl hbetter
    · have hties : Addition.Ties .specificity (here.get i) (here.get j) :=
        ⟨hmethod, hsize, fun _ => Route.specificity_eq_iff.1 hequal⟩
      exact .inr ⟨hequal, hkeep i j hij hties⟩

/-- The first hit goes to its place, and is the first hit there. -/
theorem isFirstHit_place {method : Method} {path : String} {hit : Hit}
    (h : IsFirstHit order (built order (here.map Addition.insertion)).routes
      (fun r => r.method = method) path hit) :
    ∃ hit', IsFirstHit order (built order (there.map Addition.insertion)).routes
      (fun r => r.method = method) path hit' ∧ hit.SameAnswer hit' := by
  obtain ⟨hhit, hfirst⟩ := h
  obtain ⟨route, bindings⟩ := hit
  obtain ⟨i, rfl, hmethod, hmatch⟩ := isHit_insertions_iff.1 hhit
  refine ⟨⟨(there.get (place i)).route (place i), bindings⟩, ⟨?_, ?_⟩, ?_⟩
  · exact isHit_insertions_iff.2 ⟨place i, rfl, by rwa [hget], by rwa [hget]⟩
  · -- Another hit there has come from a place here, where it is not the first.
    rintro ⟨route', bindings'⟩ hother
    obtain ⟨j', rfl, hmethod', hmatch'⟩ := isHit_insertions_iff.1 hother
    obtain ⟨j, rfl⟩ := place.surjective j'
    rw [hget] at hmethod' hmatch'
    have hsize : (here.get i).pattern.size = (here.get j).pattern.size :=
      (size_eq_of_match? hmatch).trans (size_eq_of_match? hmatch').symm
    rcases hfirst ⟨(here.get j).route j, bindings'⟩
      (isHit_insertions_iff.2 ⟨j, rfl, hmethod', hmatch'⟩) with heq | hbefore
    · obtain ⟨hroute, rfl⟩ := Hit.mk.inj heq
      obtain rfl : j = i := Fin.ext (congrArg Route.index hroute)
      exact .inl rfl
    · exact .inr (before_place hget hkeep (hmethod.trans hmethod'.symm) hsize hbefore)
  · rw [hget]
    exact ⟨rfl, rfl, rfl, rfl⟩

end Place

theorem route?_built_eq_some_iff {changes : List Change} {method : Method} {path : String}
    {hit : Hit} : (built order changes).route? method path = some hit ↔
      IsFirstHit order (built order changes).routes (fun r => r.method = method) path hit := by
  simpa [route?] using (sound_built order changes).find?_eq_some_iff (all_some_iff method)

/-- An answer here has its like there. -/
theorem exists_sameAnswer (h : Rearranges order here there) {method : Method} {path : String}
    {hit : Hit} (hf : (built order (here.map Addition.insertion)).route? method path = some hit) :
    ∃ hit', (built order (there.map Addition.insertion)).route? method path = some hit' ∧
      hit.SameAnswer hit' := by
  obtain ⟨place, hget, hkeep⟩ := h
  obtain ⟨hit', hfirst, hsame⟩ := isFirstHit_place hget hkeep (route?_built_eq_some_iff.1 hf)
  exact ⟨hit', route?_built_eq_some_iff.2 hfirst, hsame⟩

/-! ## Main theorem -/

/-- A request gets the same answer from two tables when the routes of one have been
inserted in another order, with the routes that tie among them in the same order. -/
theorem route?_of_rearranges (order : Order) (here there : List Addition)
    (h : Rearranges order here there) (method : Method) (path : String) :
    Option.Rel Hit.SameAnswer ((built order (here.map Addition.insertion)).route? method path)
      ((built order (there.map Addition.insertion)).route? method path) := by
  cases hhere : (built order (here.map Addition.insertion)).route? method path with
  | some hit =>
    obtain ⟨hit', hthere, hsame⟩ := exists_sameAnswer h hhere
    rw [hthere]
    exact .some hsame
  | none =>
    cases hthere : (built order (there.map Addition.insertion)).route? method path with
    | none => exact .none
    | some hit' =>
      obtain ⟨hit, hhit, -⟩ := exists_sameAnswer h.symm hthere
      rw [hhere] at hhit
      cases hhit

/-- The third route moves to the front, and the two that tie stay in order. -/
theorem users_rearranged :
    Rearranges .specificity [.byName, .byId, .myself] [.myself, .byName, .byId] ∧
    Option.Rel Hit.SameAnswer
      ((built .specificity (List.map Addition.insertion [.byName, .byId, .myself])).route? .get
        "users/7")
      ((built .specificity (List.map Addition.insertion [.myself, .byName, .byId])).route? .get
        "users/7") := by
  have h : Rearranges .specificity [.byName, .byId, .myself] [.myself, .byName, .byId] := by
    let place : Fin 3 ≃ Fin 3 := ⟨(· + 1), (· - 1), by unfold Function.LeftInverse; decide,
      by unfold Function.RightInverse Function.LeftInverse; decide⟩
    refine ⟨place, fun i => ?_, by decide⟩
    match i with
    | 0 | 1 | 2 => rfl
  exact ⟨h, route?_of_rearranges .specificity _ _ h _ _⟩

end Table

end Signpost
