import Signpost.Proofs.Precedence
import Signpost.Table.History
/-!
# Buckets in order

What every change keeps of a table (`Table.Sound`): the routes are numbered as they
were registered, each is in the bucket of its length and nowhere else, and every
bucket is in the order in which routes are tried. A new route has the highest index,
so all that matters for its place is which routes it is not better than.
-/

namespace Signpost.Table

/-! ## One bucket -/

/-- A bucket in order falls into the routes that are before a route and the others. -/
theorem exists_cut {order : Order} {bucket : List Route} (hs : bucket.Pairwise (Route.Before order))
    (r : Route) : ∃ front back, bucket = front ++ back ∧
      (∀ s ∈ front, Route.Before order s r) ∧ ∀ s ∈ back, ¬ Route.Before order s r := by
  induction bucket with
  | nil => exact ⟨[], [], rfl, by simp, by simp⟩
  | cons x xs ih =>
    obtain ⟨hx, hxs⟩ := List.pairwise_cons.1 hs
    by_cases h : Route.Before order x r
    · obtain ⟨front, back, rfl, hf, hb⟩ := ih hxs
      refine ⟨x :: front, back, rfl, ?_, hb⟩
      intro s hm
      rcases List.mem_cons.1 hm with rfl | hm
      · exact h
      · exact hf s hm
    · refine ⟨[], x :: xs, rfl, by simp, ?_⟩
      intro s hm hsr
      rcases List.mem_cons.1 hm with rfl | hm
      · exact h hsr
      · exact h ((hx s hm).trans hsr)

theorem insertIdx_length_append {α : Type} (front back : List α) (x : α) :
    (front ++ back).insertIdx front.length x = front ++ x :: back := by
  induction front with
  | nil => rfl
  | cons y front ih => simp [ih]

/-- A new route goes between the routes before it and the routes that it is before. -/
theorem place_eq {order : Order} {r : Route} {bucket : List Route}
    (hs : bucket.Pairwise (Route.Before order)) (hnew : ∀ s ∈ bucket, s.index < r.index) :
    ∃ front back, bucket = front ++ back ∧ place order r bucket = front ++ r :: back ∧
      (∀ s ∈ front, Route.Before order s r) ∧ ∀ s ∈ back, Route.Before order r s := by
  cases order with
  | declaration =>
    refine ⟨bucket, [], by simp, ?_, hnew, by simp⟩
    simp only [place, position, List.insertIdx_length_self]
  | specificity =>
    obtain ⟨front, back, rfl, hf, hb⟩ := exists_cut hs r
    have hpos : position .specificity r (front ++ back) = front.length :=
      bisect_append (fun s hm => by simpa using hf s hm) (fun s hm => by simpa using hb s hm)
    refine ⟨front, back, rfl, by rw [place, hpos, insertIdx_length_append], hf, ?_⟩
    -- No route ties with a new one, so what is not before it is behind it.
    intro s hm
    have hne : s.index ≠ r.index := Nat.ne_of_lt (hnew s (List.mem_append_right _ hm))
    exact (Route.before_or_before _ hne).resolve_left (hb s hm)

/-- Placing a new route keeps a bucket in order. -/
theorem pairwise_place {order : Order} {r : Route} {bucket : List Route}
    (hs : bucket.Pairwise (Route.Before order)) (hnew : ∀ s ∈ bucket, s.index < r.index) :
    (place order r bucket).Pairwise (Route.Before order) := by
  obtain ⟨front, back, rfl, he, hf, hb⟩ := place_eq hs hnew
  obtain ⟨hsf, hsb, hfb⟩ := List.pairwise_append.1 hs
  rw [he, List.pairwise_append, List.pairwise_cons]
  refine ⟨hsf, ⟨hb, hsb⟩, ?_⟩
  intro s hm u hu
  rcases List.mem_cons.1 hu with rfl | hu
  · exact hf s hm
  · exact hfb s hm u hu

theorem flatten_placeAt (order : Order) (r : Route) (n : Nat) (buckets : List (List Route)) :
    (placeAt order r n buckets).flatten.Perm (r :: buckets.flatten) := by
  fun_induction placeAt order r n buckets with
  | case1 => exact .refl _
  | case2 bucket rest => exact (place_perm order r bucket).append_right rest.flatten
  | case3 n ih => exact ih
  | case4 n bucket rest ih => exact (ih.append_left bucket).trans List.perm_middle

/-! ## What every change keeps -/

structure Sound (t : Table) : Prop where
  /-- The index of a route is its position. -/
  index_eq : t.routes.map Route.index = List.range t.size
  size_eq : ∀ {n r}, r ∈ t.bucket n → r.pattern.size = n
  sorted : ∀ n, (t.bucket n).Pairwise (Route.Before t.order)
  perm : t.ordered.Perm t.routes

theorem mem_ordered {t : Table} {r : Route} : r ∈ t.ordered ↔ ∃ n, r ∈ t.bucket n := by
  simp only [ordered, bucket, List.mem_flatten]
  constructor
  · rintro ⟨b, hb, hr⟩
    obtain ⟨n, hn⟩ := List.mem_iff_getElem?.1 hb
    exact ⟨n, by simpa [hn] using hr⟩
  · rintro ⟨n, hr⟩
    cases hb : t.buckets[n]? with
    | none => simp [hb] at hr
    | some b => exact ⟨b, List.mem_of_getElem? hb, by simpa [hb] using hr⟩

namespace Sound

variable {t : Table}

theorem index_lt (h : t.Sound) {r : Route} (hr : r ∈ t.routes) : r.index < t.size := by
  have hm : r.index ∈ t.routes.map Route.index := List.mem_map_of_mem hr
  rwa [h.index_eq, List.mem_range] at hm

/-- A table's routes, looked up by their index. -/
theorem getElem?_index (h : t.Sound) {r : Route} (hr : r ∈ t.routes) :
    t.routes[r.index]? = some r := by
  obtain ⟨i, hi⟩ := List.mem_iff_getElem?.1 hr
  have hlt : i < t.size := (List.getElem?_eq_some_iff.1 hi).1
  have hx : (t.routes.map Route.index)[i]? = some r.index := by simp [hi]
  rw [h.index_eq, List.getElem?_range hlt] at hx
  rw [← Option.some.inj hx, hi]

/-- Of one index there is one route. -/
theorem eq_of_index_eq (h : t.Sound) {r s : Route} (hr : r ∈ t.routes) (hs : s ∈ t.routes)
    (hindex : r.index = s.index) : r = s := by
  have hsome := h.getElem?_index hr
  rw [hindex, h.getElem?_index hs] at hsome
  exact (Option.some.inj hsome).symm

/-- A bucket holds the routes of its length, and no others. -/
theorem mem_bucket (h : t.Sound) {n : Nat} {r : Route} :
    r ∈ t.bucket n ↔ r ∈ t.routes ∧ r.pattern.size = n := by
  rw [← h.perm.mem_iff, mem_ordered]
  constructor
  · intro hr
    exact ⟨⟨n, hr⟩, h.size_eq hr⟩
  · rintro ⟨⟨k, hk⟩, rfl⟩
    rwa [h.size_eq hk]

end Sound

theorem sound_empty (order : Order) : (empty order).Sound where
  index_eq := rfl
  size_eq h := by simp [bucket, empty] at h
  sorted n := by simp [bucket, empty]
  perm := .refl _

/-- Adding a route keeps a table sound. -/
theorem Sound.insert {t : Table} (h : t.Sound) (method : Method) (pattern : Pattern)
    (handler : String) : (t.insert method pattern handler).value.Sound where
  index_eq := by
    rw [routes_insert, List.map_append, h.index_eq]
    simp [size, List.range_succ]
  size_eq := by
    intro n r hr
    rw [bucket_insert] at hr
    split at hr
    · subst_vars
      rcases List.mem_cons.1 ((place_perm _ _ _).mem_iff.1 hr) with rfl | hr
      · rfl
      · exact h.size_eq hr
    · exact h.size_eq hr
  sorted n := by
    rw [bucket_insert, order_insert]
    split
    · exact pairwise_place (h.sorted _) fun s hs => h.index_lt (h.mem_bucket.1 hs).1
    · exact h.sorted n
  perm := by
    -- The listing has the route somewhere in the middle, the routes have it at the end.
    have hp := flatten_placeAt t.order ⟨method, pattern, handler, t.size⟩ pattern.size t.buckets
    exact hp.trans ((h.perm.cons _).trans (List.perm_append_singleton _ _).symm)

theorem Sound.apply {t : Table} (h : t.Sound) (c : Change) : (t.apply c).Sound := by
  rcases t.apply_cases c with ⟨a, -, he⟩ | ⟨-, registry, micros, he⟩ <;> rw [he]
  · exact h.insert a.method a.pattern a.handler
  · exact ⟨h.index_eq, h.size_eq, h.sorted, h.perm⟩

/-- Every history makes a sound table. -/
theorem sound_built (order : Order) (changes : List Change) : (built order changes).Sound :=
  run_induction (sound_empty order) (fun _ c h => h.apply c) changes

theorem order_apply (t : Table) (c : Change) : (t.apply c).order = t.order := by
  rcases t.apply_cases c with ⟨a, -, he⟩ | ⟨-, registry, micros, he⟩ <;> rw [he]
  exact order_insert t a.method a.pattern a.handler

@[simp] theorem order_built (order : Order) (changes : List Change) :
    (built order changes).order = order :=
  run_induction (P := fun t => t.order = order) rfl (fun t c h => (order_apply t c).trans h) changes

end Signpost.Table
