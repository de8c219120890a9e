import Signpost.Proofs.Growth
import Signpost.Proofs.RoundTrip
/-!
# Shadowed routes

A new route is shadowed when a route of the table has its method and an equal pattern.
The warning is given for just these, and it names the handler of the first route that
shadows the new one. While types of one tag convert alike, that route matches all that
the new one does and stays in front of it, so no request ever gets the new one
(`shadow_warning_exact`).
-/

namespace Signpost

/-- Where types of one tag convert alike, equal patterns have the same items. -/
theorem Pattern.items_eq_of_beq {p q : Pattern} (h : (p == q) = true)
    (halike : ∀ m n s t, .parameter m s ∈ p.items → .parameter n t ∈ q.items → s.tag = t.tag →
      s.convert = t.convert) : p.items = q.items := by
  obtain ⟨hlen, hget⟩ := List.forall₂_iff_get.1 (beq_iff.1 h)
  refine List.ext_get hlen fun i hi hi' => ?_
  have hx := List.get_mem p.items ⟨i, hi⟩
  have hy := List.get_mem q.items ⟨i, hi'⟩
  obtain ⟨text, hp, hq⟩ | ⟨name, s, t, hp, hq, htag⟩ := Item.beq_cases (hget i hi hi')
  · rw [hp, hq]
  · rw [hp] at hx
    rw [hq] at hy
    have hst : s = t := congrArg₂ ParamType.mk htag (halike name name s t hx hy htag)
    rw [hp, hq, hst]

/-- Matching and specificity depend on nothing but the items. -/
theorem Pattern.match?_eq_of_items_eq {p q : Pattern} (h : p.items = q.items) (path : String) :
    p.match? path = q.match? path := by
  rw [match?, match?, matchSegments?, matchSegments?, h]

theorem Pattern.specificity_eq_of_items_eq {p q : Pattern} (h : p.items = q.items) :
    p.specificity = q.specificity := by
  rw [specificity, specificity, literalCount, literalCount, ranks, ranks, h]

/-- `r` shadows a new route: it has its method and an equal pattern. -/
structure Route.Shadows (r : Route) (a : Addition) : Prop where
  method : r.method = a.method
  pattern : (r.pattern == a.pattern) = true

/-- Of two equally specific routes, the one registered first is tried first. -/
theorem Route.before_of_index_lt {order : Order} {a b : Route}
    (hspecificity : a.specificity = b.specificity) (hlt : a.index < b.index) :
    Before order a b := by
  cases order with
  | declaration => exact hlt
  | specificity => exact .inr ⟨hspecificity, hlt⟩

namespace Table

/-! ## The warning -/

/-- What is told when a change is made. -/
def eventsOf (t : Table) : Change → List Event
  | .register method template handler =>
    match t.register method template handler with
    | .ok added => added.events
    | .error _ => []
  | .insert method pattern handler => (t.insert method pattern handler).events
  | .withRegistry _ => []
  | .withSlowMatchMicros _ => []

/-- The first of the routes that shadow a new one. -/
structure IsFirstShadowing (t : Table) (a : Addition) (r : Route) : Prop where
  mem : r ∈ t.routes
  shadows : r.Shadows a
  first : ∀ s ∈ t.routes, s.Shadows a → r.index ≤ s.index

variable {t : Table} {c : Change} {a : Addition} {r s : Route}

/-- What a change adds comes last. -/
theorem routes_apply (hadds : c.addition? t.registry = some a) :
    (t.apply c).routes = t.routes ++ [a.route t.size] := by
  rcases t.apply_cases c with ⟨a', hadds', he⟩ | ⟨hnone, -⟩
  · obtain rfl : a = a' := Option.some.inj (hadds.symm.trans hadds')
    rw [he]
    rfl
  · rw [hadds] at hnone
    cases hnone

theorem eventsOf_eq_insertEvents (hadds : c.addition? t.registry = some a) :
    t.eventsOf c = t.insertEvents a.method a.pattern a.handler := by
  cases c with
  | register method template handler =>
    simp only [eventsOf, register]
    simp only [Change.addition?] at hadds
    cases hp : Template.parse t.registry template with
    | error e => simp [hp] at hadds
    | ok pattern =>
      simp only [hp, Option.some.injEq] at hadds
      subst hadds
      rfl
  | insert method pattern handler =>
    obtain rfl := Option.some.inj hadds
    rfl
  | withRegistry registry => cases hadds
  | withSlowMatchMicros micros => cases hadds

theorem shadowing?_eq_none_iff :
    t.shadowing? a.method a.pattern = none ↔ ∀ r ∈ t.routes, ¬ r.Shadows a := by
  rw [shadowing?, List.find?_eq_none]
  refine forall₂_congr fun r _ => not_congr ?_
  rw [Bool.and_eq_true, decide_eq_true_eq]
  exact ⟨fun h => ⟨h.1, h.2⟩, fun h => ⟨h.method, h.pattern⟩⟩

theorem Sound.isFirstShadowing (h : t.Sound) (hr : t.shadowing? a.method a.pattern = some r) :
    t.IsFirstShadowing a r := by
  obtain ⟨hmem, hp, hfirst⟩ := h.find?_routes_eq_some_iff.1 hr
  rw [Bool.and_eq_true, decide_eq_true_eq] at hp
  refine ⟨hmem, ⟨hp.1, hp.2⟩, fun s hs hshadows => hfirst s hs ?_⟩
  rw [Bool.and_eq_true, decide_eq_true_eq]
  exact ⟨hshadows.method, hshadows.pattern⟩

theorem eventsOf_ne_nil_iff (hadds : c.addition? t.registry = some a) :
    t.eventsOf c ≠ [] ↔ ∃ r ∈ t.routes, r.Shadows a := by
  rw [eventsOf_eq_insertEvents hadds, insertEvents]
  cases hr : t.shadowing? a.method a.pattern with
  | none =>
    have hnone := shadowing?_eq_none_iff.1 hr
    simpa using hnone
  | some r =>
    have hsome : ¬ ∀ r ∈ t.routes, ¬ r.Shadows a := by
      rw [← shadowing?_eq_none_iff, hr]
      simp
    simpa using hsome

/-- The one event of a new route names the first that shadows it. -/
theorem Sound.exists_isFirstShadowing (h : t.Sound) (hadds : c.addition? t.registry = some a)
    (hwarned : t.eventsOf c ≠ []) : ∃ r, t.IsFirstShadowing a r ∧ t.eventsOf c =
      [.routeShadowed a.method.name a.pattern.template a.handler r.handler] := by
  rw [eventsOf_eq_insertEvents hadds, insertEvents] at hwarned ⊢
  cases hr : t.shadowing? a.method a.pattern with
  | none => simp [hr] at hwarned
  | some r => exact ⟨r, h.isFirstShadowing hr, rfl⟩

/-! ## What shadowing does -/

/-- Whether some request, for a method or for any, gets a route. -/
def Reaches (t : Table) (r : Route) : Prop :=
  (∃ method path bindings, t.route? method path = some ⟨r, bindings⟩) ∨
    ∃ path bindings, t.routeAny? path = some ⟨r, bindings⟩

theorem Reaches.exists_find? (h : t.Reaches r) :
    ∃ method path bindings, t.find? method path = some ⟨r, bindings⟩ := by
  rcases h with ⟨method, path, bindings, hf⟩ | ⟨path, bindings, hf⟩
  · exact ⟨some method, path, bindings, hf⟩
  · exact ⟨none, path, bindings, hf⟩

/-- Parameter types of one tag convert alike, in whatever routes they are. -/
def ConvertsByTag (t : Table) : Prop :=
  ∀ r ∈ t.routes, ∀ s ∈ t.routes, ∀ m n a b, .parameter m a ∈ r.pattern.items →
    .parameter n b ∈ s.pattern.items → a.tag = b.tag → a.convert = b.convert

/-- A route is never found when an earlier one of its method is as specific and matches
all that it does. -/
theorem Sound.not_reaches (h : t.Sound) (hr : r ∈ t.routes) (hmethod : r.method = s.method)
    (hspecificity : r.specificity = s.specificity) (hlt : r.index < s.index)
    (hmatch : ∀ path, (s.pattern.match? path).isSome = true →
      (r.pattern.match? path).isSome = true) : ¬ t.Reaches s := by
  intro hreaches
  obtain ⟨method, path, bindings, hf⟩ := hreaches.exists_find?
  obtain ⟨⟨-, hasks, hmatched⟩, -⟩ := h.isFirstHit (asks_iff method) hf
  have hasks' : Asks method r := by rwa [Asks, hmethod]
  exact h.find?_ne hr (Route.before_of_index_lt hspecificity hlt) hasks'
    (hmatch path (Option.isSome_iff_exists.2 ⟨bindings, hmatched⟩)) hf rfl

/-- A shadowed route is never found, whatever is added after it. -/
theorem Sound.not_reaches_of_shadows (h : t.Sound) (hadds : c.addition? t.registry = some a)
    (hr : r ∈ t.routes) (hshadows : r.Shadows a) (after : List Change)
    (halike : (t.run (c :: after)).ConvertsByTag) :
    ¬ (t.run (c :: after)).Reaches (a.route t.size) := by
  have hgrows := growsTo_run (t.apply c) after
  have hroutes := routes_apply hadds
  have hr' : r ∈ (t.run (c :: after)).routes := hgrows.routes.subset (by simp [hroutes, hr])
  have ha' : a.route t.size ∈ (t.run (c :: after)).routes :=
    hgrows.routes.subset (by simp [hroutes])
  have hitems := Pattern.items_eq_of_beq hshadows.pattern (halike r hr' (a.route t.size) ha')
  exact (h.run (c :: after)).not_reaches hr' hshadows.method
    (Pattern.specificity_eq_of_items_eq hitems) (h.index_lt hr)
    fun path hm => by rwa [Pattern.match?_eq_of_items_eq hitems]

/-! ## Main theorem -/

/-- A route that is added after any history comes with a warning exactly when a route
of its method has an equal pattern; the warning names the handler of the first of
these. As long as types of one tag convert alike, a route that came with a warning is
never found, neither at once nor after further changes. -/
theorem shadow_warning_exact (order : Order) (before : List Change) (c : Change) (a : Addition)
    (hadds : c.addition? (built order before).registry = some a) :
    ((built order before).eventsOf c ≠ [] ↔ ∃ r ∈ (built order before).routes, r.Shadows a) ∧
    ((built order before).eventsOf c ≠ [] → ∃ r, (built order before).IsFirstShadowing a r ∧
      (built order before).eventsOf c =
        [.routeShadowed a.method.name a.pattern.template a.handler r.handler]) ∧
    ((built order before).eventsOf c ≠ [] → ∀ after : List Change,
      (built order (before ++ c :: after)).ConvertsByTag →
        ¬ (built order (before ++ c :: after)).Reaches (a.route (built order before).size)) := by
  have h := sound_built order before
  refine ⟨eventsOf_ne_nil_iff hadds, h.exists_isFirstShadowing hadds, ?_⟩
  intro hwarned after halike
  obtain ⟨r, hr, hshadows⟩ := (eventsOf_ne_nil_iff hadds).1 hwarned
  rw [built, run_append] at halike ⊢
  exact h.not_reaches_of_shadows hadds hr hshadows after halike

/-- A route to users by their number. -/
def user : Addition :=
  ⟨.get, ⟨"users/\x7bid:int\x7d", [.literal "users", .parameter "id" .int]⟩, "by number"⟩

def registerUser : Change := .register .get "users/\x7bid:int\x7d" "by number"

/-- The same route with slashes around it, and another handler. -/
def userAgain : Addition :=
  ⟨.get, ⟨"/users/\x7bid:int\x7d/", [.literal "users", .parameter "id" .int]⟩, "again"⟩

def registerUserAgain : Change := .register .get "/users/\x7bid:int\x7d/" "again"

def registerMyself : Change := .register .get "users/me" "myself"

/-- The second of two routes that differ in slashes comes with a warning, and it is not
found once a third has come in front of both. -/
theorem user_again_never_found :
    registerUserAgain.addition? (built .specificity [registerUser]).registry = some userAgain ∧
    (built .specificity [registerUser]).eventsOf registerUserAgain ≠ [] ∧
    ¬ (built .specificity ([registerUser] ++ registerUserAgain :: [registerMyself])).Reaches
      (userAgain.route 1) := by
  have hadds : registerUserAgain.addition? (built .specificity [registerUser]).registry =
      some userAgain := rfl
  obtain ⟨hwarned, -, hnever⟩ :=
    shadow_warning_exact .specificity [registerUser] registerUserAgain userAgain hadds
  have hevents : (built .specificity [registerUser]).eventsOf registerUserAgain ≠ [] :=
    hwarned.2 ⟨user.route 0, List.mem_singleton.2 rfl, rfl, by decide⟩
  refine ⟨hadds, hevents, hnever hevents [registerMyself] ?_⟩
  -- The three routes have no type but `int`.
  have hint : ∀ r ∈ (built .specificity
      ([registerUser] ++ registerUserAgain :: [registerMyself])).routes,
      ∀ name type, Item.parameter name type ∈ r.pattern.items → type = .int := by
    have hroutes : (built .specificity
        ([registerUser] ++ registerUserAgain :: [registerMyself])).routes =
        [user.route 0, userAgain.route 1,
          ⟨.get, ⟨"users/me", [.literal "users", .literal "me"]⟩, "myself", 2⟩] := rfl
    rw [hroutes]
    simp [user, userAgain, Addition.route]
  intro r hr s hs m n a b ha hb _
  rw [hint r hr m a ha, hint s hs n b hb]

end Table

end Signpost
