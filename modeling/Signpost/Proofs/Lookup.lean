import Signpost.Proofs.Buckets
/-!
# A lookup finds what a scan finds

A lookup visits one bucket and stops at the first route that matches. For every
history of a table that is the route which a scan of all routes, each matched
against the whole path, would choose as the one before all others that match
(`lookup_eq_scan`).
-/

namespace Signpost.Table

/-! ## The scan -/

/-- A route that matches a path, among those that are asked for. -/
structure IsHit (routes : List Route) (wanted : Route → Prop) (path : String) (hit : Hit) :
    Prop where
  mem : hit.route ∈ routes
  wanted : wanted hit.route
  matched : hit.route.pattern.match? path = some hit.bindings

/-- The hit that is before every other. -/
def IsFirstHit (order : Order) (routes : List Route) (wanted : Route → Prop) (path : String)
    (hit : Hit) : Prop :=
  IsHit routes wanted path hit ∧ ∀ other, IsHit routes wanted path other →
    other = hit ∨ Route.Before order hit.route other.route

theorem IsFirstHit.unique {order : Order} {routes : List Route} {wanted : Route → Prop}
    {path : String} {a b : Hit} (ha : IsFirstHit order routes wanted path a)
    (hb : IsFirstHit order routes wanted path b) : a = b := by
  rcases ha.2 b hb.1 with h | h
  · exact h.symm
  · rcases hb.2 a ha.1 with h' | h'
    · exact h'
    · exact absurd h' h.not_before

/-! ## The walk through a bucket -/

/-- What a route makes of a request that is already cut into segments. -/
def answer? (method : Option Method) (segments : List String) (r : Route) : Option Hit :=
  if method.all (· = r.method) then (r.pattern.matchSegments? segments).map (Hit.mk r) else none

theorem firstHit?_eq (method : Option Method) (segments : List String) (bucket : List Route) :
    firstHit? method segments bucket = bucket.findSome? (answer? method segments) := by
  fun_induction firstHit? method segments bucket with
  | case1 => rfl
  | case2 r rs hm bindings hb => simp [answer?, hm, hb]
  | case3 r rs hm hb ih => simp [answer?, hm, hb, ih]
  | case4 r rs hm ih => simp [answer?, hm, ih]

theorem answer?_eq_some_iff {method : Option Method} {segments : List String} {r : Route}
    {hit : Hit} : answer? method segments r = some hit ↔ r = hit.route ∧
      method.all (· = r.method) = true ∧ r.pattern.matchSegments? segments = some hit.bindings := by
  obtain ⟨route, bindings⟩ := hit
  unfold answer?
  split
  · rename_i hm
    simp [hm, and_comm]
  · rename_i hm
    simp [hm]

theorem size_eq_of_match? {p : Pattern} {path : String} {bindings : Bindings}
    (h : p.match? path = some bindings) : p.size = (Segment.split path).length := by
  obtain ⟨entries, he, -⟩ := Option.map_eq_some_iff.1 h
  exact Pattern.length_eq_of_bindAll he

section Find

variable {t : Table} {method : Option Method} {wanted : Route → Prop} {path : String} {hit : Hit}

/-- The hits of a table are the answers of one bucket. -/
theorem Sound.isHit_iff (h : t.Sound) (hw : ∀ r, wanted r ↔ method.all (· = r.method) = true) :
    IsHit t.routes wanted path hit ↔ ∃ r ∈ t.bucket (Segment.split path).length,
      answer? method (Segment.split path) r = some hit := by
  simp only [answer?_eq_some_iff, h.mem_bucket]
  constructor
  · rintro ⟨hr, hm, hp⟩
    exact ⟨hit.route, ⟨hr, size_eq_of_match? hp⟩, rfl, (hw _).1 hm, hp⟩
  · rintro ⟨_, ⟨hr, -⟩, rfl, hm, hp⟩
    exact ⟨hr, (hw _).2 hm, hp⟩

/-- In a bucket in order, the first answer is before all others. -/
theorem Sound.isFirstHit (h : t.Sound) (hw : ∀ r, wanted r ↔ method.all (· = r.method) = true)
    (hf : t.find? method path = some hit) : IsFirstHit t.order t.routes wanted path hit := by
  rw [find?, firstHit?_eq, List.findSome?_eq_some_iff] at hf
  obtain ⟨front, r, back, hb, ha, hnone⟩ := hf
  refine ⟨(h.isHit_iff hw).2 ⟨r, by simp [hb], ha⟩, ?_⟩
  intro other ho
  obtain ⟨s, hs, hsa⟩ := (h.isHit_iff hw).1 ho
  have hsorted := h.sorted (Segment.split path).length
  rw [hb, List.pairwise_append, List.pairwise_cons] at hsorted
  rw [hb, List.mem_append, List.mem_cons] at hs
  -- In front of the first answer nothing answers, and all behind it comes later.
  rcases hs with hs | rfl | hs
  · rw [hnone s hs] at hsa
    cases hsa
  · exact .inl (Option.some.inj (hsa.symm.trans ha))
  · right
    rw [← (answer?_eq_some_iff.1 ha).1, ← (answer?_eq_some_iff.1 hsa).1]
    exact hsorted.2.1.1 s hs

theorem Sound.exists_find?_eq_some (h : t.Sound)
    (hw : ∀ r, wanted r ↔ method.all (· = r.method) = true) (hhit : IsHit t.routes wanted path hit) :
    ∃ found, t.find? method path = some found := by
  obtain ⟨r, hr, ha⟩ := (h.isHit_iff hw).1 hhit
  rw [find?, firstHit?_eq, ← Option.isSome_iff_exists, List.findSome?_isSome_iff]
  exact ⟨r, hr, by simp [ha]⟩

theorem Sound.find?_eq_some_iff (h : t.Sound)
    (hw : ∀ r, wanted r ↔ method.all (· = r.method) = true) :
    t.find? method path = some hit ↔ IsFirstHit t.order t.routes wanted path hit := by
  constructor
  · exact h.isFirstHit hw
  · intro hfirst
    obtain ⟨found, hf⟩ := h.exists_find?_eq_some hw hfirst.1
    rw [hf, (h.isFirstHit hw hf).unique hfirst]

theorem Sound.find?_isSome_iff (h : t.Sound)
    (hw : ∀ r, wanted r ↔ method.all (· = r.method) = true) :
    (t.find? method path).isSome = true ↔
      ∃ r ∈ t.routes, wanted r ∧ (r.pattern.match? path).isSome = true := by
  constructor
  · intro hs
    obtain ⟨hit, hf⟩ := Option.isSome_iff_exists.1 hs
    obtain ⟨hr, hm, hp⟩ := (h.isFirstHit hw hf).1
    exact ⟨hit.route, hr, hm, by simp [hp]⟩
  · rintro ⟨r, hr, hm, hp⟩
    obtain ⟨bindings, hb⟩ := Option.isSome_iff_exists.1 hp
    have hhit : IsHit t.routes wanted path ⟨r, bindings⟩ := ⟨hr, hm, hb⟩
    obtain ⟨found, hf⟩ := h.exists_find?_eq_some hw hhit
    simp [hf]

end Find

theorem all_some_iff (method : Method) (r : Route) :
    r.method = method ↔ (some method).all (· = r.method) = true := by simp [eq_comm]

/-- Whether a request, for one method or for any, asks for a route. -/
def Asks (method : Option Method) (r : Route) : Prop := method.all (· = r.method) = true

theorem asks_iff (method : Option Method) (r : Route) :
    Asks method r ↔ method.all (· = r.method) = true := Iff.rfl

/-- A request that an earlier route matches does not get a later one. -/
theorem Sound.find?_ne {t : Table} (h : t.Sound) {a b : Route} (ha : a ∈ t.routes)
    (hab : Route.Before t.order a b) {method : Option Method} (hasks : Asks method a)
    {path : String} (hpa : (a.pattern.match? path).isSome = true) {hit : Hit}
    (hf : t.find? method path = some hit) : hit.route ≠ b := by
  rintro rfl
  obtain ⟨bindings, hp⟩ := Option.isSome_iff_exists.1 hpa
  have hfirst := h.isFirstHit (asks_iff method) hf
  rcases hfirst.2 ⟨a, bindings⟩ ⟨ha, hasks, hp⟩ with rfl | hba
  · exact Route.not_before_self t.order a hab
  · exact hab.not_before hba

theorem Sound.route?_ne {t : Table} (h : t.Sound) {a b : Route} (ha : a ∈ t.routes)
    (hab : Route.Before t.order a b) {path : String}
    (hpa : (a.pattern.match? path).isSome = true) {hit : Hit}
    (hf : t.route? a.method path = some hit) : hit.route ≠ b :=
  h.find?_ne ha hab ((all_some_iff a.method a).1 rfl) hpa hf

/-! ## Main theorem -/

/-- After any history, a lookup has an answer exactly when some route of the method
matches the path, and its answer is the hit of the route that is before all others
which do. The same holds of a lookup for any method, among all routes. -/
theorem lookup_eq_scan (order : Order) (changes : List Change) (path : String) :
    (∀ method,
      (((built order changes).route? method path).isSome = true ↔
        ∃ r ∈ (built order changes).routes, r.method = method ∧
          (r.pattern.match? path).isSome = true) ∧
      ∀ hit, (built order changes).route? method path = some hit ↔
        IsFirstHit order (built order changes).routes (fun r => r.method = method) path hit) ∧
    (((built order changes).routeAny? path).isSome = true ↔
      ∃ r ∈ (built order changes).routes, (r.pattern.match? path).isSome = true) ∧
    ∀ hit, (built order changes).routeAny? path = some hit ↔
      IsFirstHit order (built order changes).routes (fun _ => True) path hit := by
  have h := sound_built order changes
  have hany : ∀ r : Route, True ↔ (none : Option Method).all (· = r.method) = true := by simp
  refine ⟨fun method => ⟨h.find?_isSome_iff (all_some_iff method), fun hit => ?_⟩, ?_, fun hit => ?_⟩
  · simpa [route?] using h.find?_eq_some_iff (all_some_iff method)
  · simpa [routeAny?] using h.find?_isSome_iff hany
  · simpa [routeAny?] using h.find?_eq_some_iff hany

end Signpost.Table
