import Signpost.Proofs.Lookup
import Signpost.Proofs.StableOrder
/-!
# Tables that grow

A change adds a route behind those that a table has, or it adds none. So what matched
a request goes on matching it, and its answer stays until a route is added that is
strictly more specific; in order of declaration it stays for good (`run_evolves`).
-/

namespace Signpost

/-- What is tried before an older route has more literals, or as many and smaller ranks. -/
theorem Route.Before.better_of_index_lt {order : Order} {a b : Route} (h : Before order a b)
    (hi : b.index < a.index) : order = .specificity ∧
      (b.pattern.literalCount < a.pattern.literalCount ∨
        a.pattern.literalCount = b.pattern.literalCount ∧ a.pattern.ranks < b.pattern.ranks) := by
  cases order with
  | declaration =>
    rw [before_declaration_iff] at h
    omega
  | specificity =>
    rcases before_specificity_iff.1 h with hmore | ⟨hcount, hsmaller | ⟨-, hlt⟩⟩
    · exact ⟨rfl, .inl hmore⟩
    · exact ⟨rfl, .inr ⟨hcount, hsmaller⟩⟩
    · omega

namespace Table

/-! ## Routes old and new -/

/-- A table that changes can make of another: its first routes are those of the other. -/
structure GrowsTo (t u : Table) : Prop where
  order : u.order = t.order
  routes : t.routes <+: u.routes

/-- The routes that a table lacked. -/
def newRoutes (t u : Table) : List Route := u.routes.drop t.size

/-- What may become of the answer to a request while `t` grows to `u`. -/
inductive Evolves (t u : Table) : Option Hit → Option Hit → Prop
  | same {answer : Option Hit} : Evolves t u answer answer
  | found {hit : Hit} (new : hit.route ∈ newRoutes t u) : Evolves t u none (some hit)
  /-- A new route has more literals, or as many and smaller ranks. -/
  | bettered {hit hit' : Hit} (order : t.order = .specificity) (new : hit'.route ∈ newRoutes t u)
      (better : hit.route.pattern.literalCount < hit'.route.pattern.literalCount ∨
        hit'.route.pattern.literalCount = hit.route.pattern.literalCount ∧
          hit'.route.pattern.ranks < hit.route.pattern.ranks) :
      Evolves t u (some hit) (some hit')

variable {t u : Table} {r s : Route}

theorem GrowsTo.apply (h : t.GrowsTo u) (c : Change) : t.GrowsTo (u.apply c) where
  order := (order_apply u c).trans h.order
  routes := by
    rcases u.apply_cases c with ⟨a, -, he⟩ | ⟨-, registry, micros, he⟩ <;> rw [he]
    · exact h.routes.trans (List.prefix_append _ _)
    · exact h.routes

theorem growsTo_run (t : Table) (changes : List Change) : t.GrowsTo (t.run changes) :=
  run_induction ⟨rfl, List.prefix_refl _⟩ (fun _ c h => h.apply c) changes

theorem GrowsTo.routes_eq (h : t.GrowsTo u) : u.routes = t.routes ++ newRoutes t u := by
  obtain ⟨new, he⟩ := h.routes
  simp [newRoutes, size, ← he]

theorem GrowsTo.mem_routes_iff (h : t.GrowsTo u) :
    r ∈ u.routes ↔ r ∈ t.routes ∨ r ∈ newRoutes t u := by
  rw [h.routes_eq, List.mem_append]

/-- New routes have higher indices. -/
theorem Sound.index_lt_new (hu : u.Sound) (h : t.GrowsTo u) (hr : r ∈ t.routes)
    (hs : s ∈ newRoutes t u) : r.index < s.index := by
  have hindex := hu.pairwise_index
  rw [h.routes_eq, List.pairwise_append] at hindex
  exact hindex.2.2 r hr s hs

theorem Sound.run (h : t.Sound) (changes : List Change) : (t.run changes).Sound :=
  run_induction h (fun _ c h => h.apply c) changes

/-! ## Answers old and new -/

section Answers

variable {wanted : Route → Prop} {path : String} {hit hit' : Hit}

/-- A hit stays one while the table grows. -/
theorem IsHit.grow (hhit : IsHit t.routes wanted path hit) (h : t.GrowsTo u) :
    IsHit u.routes wanted path hit :=
  ⟨h.routes.subset hhit.mem, hhit.wanted, hhit.matched⟩

/-- The first hit of the grown table is that of the old one, or a new route strictly
better than it. -/
theorem IsFirstHit.grow (hu : u.Sound) (h : t.GrowsTo u)
    (hfirst : IsFirstHit t.order t.routes wanted path hit)
    (hfirst' : IsFirstHit u.order u.routes wanted path hit') :
    Evolves t u (some hit) (some hit') := by
  rcases hfirst'.2 hit (hfirst.1.grow h) with rfl | hbefore
  · exact .same
  rw [h.order] at hbefore
  rcases h.mem_routes_iff.1 hfirst'.1.mem with hold | hnew
  · -- Among the old routes the old answer is first already.
    rcases hfirst.2 hit' ⟨hold, hfirst'.1.wanted, hfirst'.1.matched⟩ with rfl | hbefore'
    · exact .same
    · exact absurd hbefore' hbefore.not_before
  · obtain ⟨horder, hbetter⟩ := hbefore.better_of_index_lt (hu.index_lt_new h hfirst.1.mem hnew)
    exact .bettered horder hnew hbetter

end Answers

theorem Sound.evolves (ht : t.Sound) (hu : u.Sound) (h : t.GrowsTo u) (method : Option Method)
    (path : String) : Evolves t u (t.find? method path) (u.find? method path) := by
  cases hold : t.find? method path with
  | some hit =>
    have hfirst := ht.isFirstHit (asks_iff method) hold
    obtain ⟨hit', hnew⟩ := hu.exists_find?_eq_some (asks_iff method) (hfirst.1.grow h)
    rw [hnew]
    exact hfirst.grow hu h (hu.isFirstHit (asks_iff method) hnew)
  | none =>
    cases hnew : u.find? method path with
    | none => exact .same
    | some hit =>
      have hhit := (hu.isFirstHit (asks_iff method) hnew).1
      refine .found ((h.mem_routes_iff.1 hhit.mem).resolve_left fun hmem => ?_)
      -- An old route that matches would have been found before.
      obtain ⟨found, hf⟩ := ht.exists_find?_eq_some (asks_iff method)
        ⟨hmem, hhit.wanted, hhit.matched⟩
      rw [hold] at hf
      cases hf

/-! ## Main theorem -/

/-- Whatever changes follow a history, a request keeps its answer, or gets a route that
is new. A new route takes the place of an answer only in order of specificity, and only
if it is strictly more specific. The same holds of requests for any method. -/
theorem run_evolves (order : Order) (before after : List Change) (path : String) :
    (∀ method, Evolves (built order before) ((built order before).run after)
      ((built order before).route? method path)
      (((built order before).run after).route? method path)) ∧
    Evolves (built order before) ((built order before).run after)
      ((built order before).routeAny? path) (((built order before).run after).routeAny? path) := by
  have h := sound_built order before
  have hgrows := growsTo_run (built order before) after
  exact ⟨fun method => h.evolves (h.run after) hgrows (some method) path,
    h.evolves (h.run after) hgrows none path⟩

end Table

end Signpost
