import Signpost.Listing
import Signpost.Proofs.RoundTrip
import Signpost.Proofs.Search
/-!
# Listings registered anew

When every template of a table was read with the standard types, its listing says all
that matters of it: registered line by line in a new table of the same order, it gives
the same dump, and requests find the same routes (`relisted_alike`). The new table has
the canonical templates, and its routes are numbered as they are listed.
-/

namespace Signpost

/-- Routes that differ at most in how their templates were written and in their index. -/
structure Route.Alike (a b : Route) : Prop where
  method : a.method = b.method
  pattern : (a.pattern == b.pattern) = true
  handler : a.handler = b.handler

structure Hit.Alike (a b : Hit) : Prop where
  route : a.route.Alike b.route
  bindings : a.bindings = b.bindings

/-- The route with its canonical template. -/
def Route.canonical (r : Route) : Addition :=
  ⟨r.method, ⟨r.pattern.render, r.pattern.items⟩, r.handler⟩

/-- A change that brings no pattern and no types of its own. -/
def Change.IsStandard : Change → Prop
  | .register .. => True
  | .insert .. => False
  | .withRegistry _ => False
  | .withSlowMatchMicros _ => True

namespace Table

/-- Every route was registered with a template that needs no types but the standard ones. -/
def ReadByStandard (t : Table) : Prop :=
  ∀ r ∈ t.routes, Template.parse .standard r.template = .ok r.pattern

/-- Registers routes by their canonical templates, up to the first that is refused. -/
def registerAll : Table → List Route → Except Template.SyntaxError Table
  | t, [] => .ok t
  | t, r :: rs =>
    match t.register r.method r.pattern.render r.handler with
    | .error e => .error e
    | .ok added => registerAll added.value rs

variable {t : Table}

/-! ## Histories without types of their own -/

theorem ReadByStandard.apply (h : t.ReadByStandard) (hregistry : t.registry = .standard)
    {c : Change} (hc : c.IsStandard) :
    (t.apply c).ReadByStandard ∧ (t.apply c).registry = .standard := by
  cases c with
  | register method template handler =>
    refine ⟨?_, by rw [registry_apply]; exact hregistry⟩
    simp only [Table.apply, register]
    cases hp : Template.parse t.registry template with
    | error e => exact h
    | ok pattern =>
      intro r hr
      rw [routes_insert, List.mem_append, List.mem_singleton] at hr
      rcases hr with hr | rfl
      · exact h r hr
      · -- A pattern that was read has the template that it was read from.
        rw [Route.template, (Template.parse_eq_ok_iff.1 hp).1, ← hregistry]
        exact hp
  | insert method pattern handler => cases hc
  | withRegistry registry => cases hc
  | withSlowMatchMicros micros => exact ⟨h, hregistry⟩

theorem ReadByStandard.run (h : t.ReadByStandard) (hregistry : t.registry = .standard)
    {changes : List Change} (hc : ∀ c ∈ changes, c.IsStandard) : (t.run changes).ReadByStandard := by
  induction changes generalizing t with
  | nil => exact h
  | cons c cs ih =>
    obtain ⟨h', hregistry'⟩ := h.apply hregistry (hc c List.mem_cons_self)
    exact ih h' hregistry' fun d hd => hc d (List.mem_cons_of_mem c hd)

/-- What is only ever registered with the standard types is read by them. -/
theorem readByStandard_built (order : Order) {changes : List Change}
    (hc : ∀ c ∈ changes, c.IsStandard) : (built order changes).ReadByStandard :=
  ReadByStandard.run (by simp [ReadByStandard, empty]) rfl hc

/-! ## Registering a listing -/

/-- Templates that read back are registered one and all. -/
theorem registerAll_eq {rs : List Route} (h : ∀ r ∈ rs,
      Template.parse t.registry r.pattern.render = .ok ⟨r.pattern.render, r.pattern.items⟩) :
    registerAll t rs = .ok (t.run ((rs.map Route.canonical).map Addition.insertion)) := by
  induction rs generalizing t with
  | nil => rfl
  | cons r rs ih =>
    have hr := h r List.mem_cons_self
    have hrest := ih (t := (t.insert r.method ⟨r.pattern.render, r.pattern.items⟩ r.handler).value)
      fun s hs => h s (List.mem_cons_of_mem r hs)
    simp only [registerAll, register, hr]
    exact hrest

/-- A sort compares what relisting keeps. -/
theorem sortLe_canonical (order : Order) (a b : Route) (i j : Nat) :
    Route.sortLe order (a.canonical.route i) (b.canonical.route j) = Route.sortLe order a b := by
  cases order <;> rfl

/-- The table that a listing makes. -/
def relisted (t : Table) : Table :=
  built t.order ((t.ordered.map Route.canonical).map Addition.insertion)

/-- What is registered in order is listed as it was registered. -/
theorem Sound.ordered_relisted (h : t.Sound) :
    t.relisted.ordered = (t.ordered.map Route.canonical).mapIdx fun i a => a.route i := by
  rw [relisted, (sound_built _ _).ordered_eq, routes_insertions, order_built]
  refine List.mergeSort_of_pairwise (List.pairwise_iff_getElem.2 ?_)
  intro i j hi hj hij
  have hlisted := List.pairwise_iff_getElem.1 h.pairwise_ordered i j (by simpa using hi)
    (by simpa using hj) hij
  simpa [sortLe_canonical] using Route.sortLe_of_listed hlisted

/-- Each route is listed where it was, under its canonical template. -/
theorem Sound.forall₂_relisted (h : t.Sound) :
    List.Forall₂ (fun a b => ∃ i, a = Addition.route (Route.canonical b) i)
      t.relisted.ordered t.ordered := by
  rw [h.ordered_relisted, List.forall₂_iff_get]
  refine ⟨by simp, fun i hi hj => ⟨i, by simp⟩⟩

theorem alike_canonical (r : Route) (i : Nat) : (r.canonical.route i).Alike r where
  method := rfl
  pattern := beq_self_eq_true r.pattern.items
  handler := rfl

/-! ## The dump -/

theorem line_canonical (r : Route) (i : Nat) : (r.canonical.route i).line = r.line := rfl

theorem Sound.size_relisted (h : t.Sound) : t.relisted.size = t.size := by
  rw [size, size, ← h.perm.length_eq, relisted, routes_insertions]
  simp

theorem Sound.dump_relisted (h : t.Sound) : t.relisted.dump = t.dump := by
  have hlines : t.relisted.ordered.map Route.line = t.ordered.map Route.line := by
    rw [← List.forall₂_eq_eq_eq, List.forall₂_map_left_iff, List.forall₂_map_right_iff]
    exact h.forall₂_relisted.imp fun a b ⟨i, ha⟩ => ha ▸ line_canonical b i
  have hheadline : t.relisted.headline = t.headline := by
    have horder : t.relisted.order = t.order := order_built _ _
    delta headline
    rw [horder, h.size_relisted]
  rw [dump, dump, lines, lines, hheadline, hlines]

/-! ## Lookups -/

/-- A search through two lists side by side comes to answers that go together. -/
theorem rel_findSome? {α β γ δ : Type} {R : α → β → Prop} {S : γ → δ → Prop} {f : α → Option γ}
    {g : β → Option δ} (hfg : ∀ a b, R a b → Option.Rel S (f a) (g b)) {as : List α} {bs : List β}
    (h : List.Forall₂ R as bs) : Option.Rel S (as.findSome? f) (bs.findSome? g) := by
  induction h with
  | nil => exact .none
  | @cons a b as bs hab _ ih =>
    rw [List.findSome?_cons, List.findSome?_cons]
    have hfirst := hfg a b hab
    generalize f a = x, g b = y at hfirst
    cases hfirst with
    | none => exact ih
    | some hs => exact .some hs

theorem answer?_canonical (method : Option Method) (segments : List String) (r : Route) (i : Nat) :
    Option.Rel Hit.Alike (answer? method segments (r.canonical.route i))
      (answer? method segments r) := by
  have hsame : (r.canonical.route i).pattern.matchSegments? segments =
      r.pattern.matchSegments? segments := rfl
  have hmethod : (r.canonical.route i).method = r.method := rfl
  rw [answer?, answer?, hsame, hmethod]
  split
  · cases r.pattern.matchSegments? segments with
    | none => exact .none
    | some bindings => exact .some ⟨alike_canonical r i, rfl⟩
  · exact .none

theorem Sound.find?_relisted (h : t.Sound) (method : Option Method) (path : String) :
    Option.Rel Hit.Alike (t.relisted.find? method path) (t.find? method path) := by
  have h' : t.relisted.Sound := sound_built _ _
  rw [h.find?_eq_findSome?, h'.find?_eq_findSome?]
  exact rel_findSome? (fun a b ⟨i, ha⟩ => ha ▸ answer?_canonical method _ b i) h.forall₂_relisted

/-! ## Main theorem -/

/-- A table whose routes were registered with the standard types is made again by its
own listing: every line is registered, the dump and the listing are the same, and
every request has the same answer. -/
theorem relisted_alike (order : Order) (changes : List Change)
    (h : (built order changes).ReadByStandard) :
    ∃ t, registerAll (empty order) (built order changes).ordered = .ok t ∧
      t.dump = (built order changes).dump ∧
      List.Forall₂ Route.Alike t.ordered (built order changes).ordered ∧
      (∀ method path, Option.Rel Hit.Alike (t.route? method path)
        ((built order changes).route? method path)) ∧
      ∀ path, Option.Rel Hit.Alike (t.routeAny? path) ((built order changes).routeAny? path) := by
  have hs := sound_built order changes
  refine ⟨(built order changes).relisted, ?_, hs.dump_relisted, ?_, ?_, ?_⟩
  · have hread : ∀ r ∈ (built order changes).ordered,
        Template.parse (empty order).registry r.pattern.render =
          .ok ⟨r.pattern.render, r.pattern.items⟩ := fun r hr =>
      Template.parse_render (by rfl) (h r (hs.perm.mem_iff.1 hr))
    rw [registerAll_eq hread, relisted, order_built]
    rfl
  · exact hs.forall₂_relisted.imp fun a b ⟨i, ha⟩ => ha ▸ alike_canonical b i
  · exact fun method path => hs.find?_relisted (some method) path
  · exact fun path => hs.find?_relisted none path

/-- Two routes and a template that is refused; the route with a literal is listed first. -/
def usersHistory : List Change :=
  [.register .get "/users//\x7bid:int\x7d/" "by number",
    .register .get "/users/\x7bid:float\x7d" "by fraction",
    .register .get "users/me" "myself"]

theorem users_relisted :
    (built .specificity usersHistory).ReadByStandard ∧
    ∃ t, registerAll (empty .specificity) (built .specificity usersHistory).ordered = .ok t ∧
      t.dump = (built .specificity usersHistory).dump := by
  have h : (built .specificity usersHistory).ReadByStandard := by
    refine readByStandard_built .specificity fun c hc => ?_
    simp only [usersHistory, List.mem_cons, List.not_mem_nil, or_false] at hc
    rcases hc with rfl | rfl | rfl <;> trivial
  obtain ⟨t, ht, hdump, -⟩ := relisted_alike .specificity usersHistory h
  exact ⟨h, t, ht, hdump⟩

end Table

end Signpost
