import Signpost.Proofs.Lookup
import Signpost.Proofs.StableOrder
/-!
# Lookups search the listing

A bucket is what the listing has of its length (`Table.Sound.bucket_eq_filter`), so
the route that a lookup finds is the first of the whole listing that answers
(`Table.Sound.find?_eq_findSome?`). For a request this is the first route listed that
has its method and matches its path (`Table.Sound.route?_eq_some_iff`).
-/

namespace Signpost.Table

variable {t : Table}

/-- A bucket is the listing without the routes of other lengths. -/
theorem Sound.bucket_eq_filter (h : t.Sound) (n : Nat) :
    t.bucket n = t.ordered.filter (fun r => r.pattern.size = n) := by
  refine List.Perm.eq_of_pairwise ?_ (h.pairwise_bucket n) (h.pairwise_ordered.filter _)
    ((h.bucket_perm n).trans (h.perm.symm.filter _))
  intro a b _ _ hab hba
  exact absurd hba hab.not_listed

/-- A route of another length has no answer. -/
theorem answer?_eq_none_of_size_ne {method : Option Method} {segments : List String} {r : Route}
    (h : r.pattern.size ≠ segments.length) : answer? method segments r = none := by
  rw [Option.eq_none_iff_forall_ne_some]
  intro hit ha
  obtain ⟨-, -, hm⟩ := answer?_eq_some_iff.1 ha
  obtain ⟨entries, he, -⟩ := Option.map_eq_some_iff.1 hm
  exact h (Pattern.length_eq_of_bindAll he)

/-- Elements without an answer can be left out of a search. -/
theorem findSome?_filter_eq {α β : Type} {f : α → Option β} {p : α → Bool} {l : List α}
    (h : ∀ x, p x = false → f x = none) : (l.filter p).findSome? f = l.findSome? f := by
  induction l with
  | nil => rfl
  | cons x l ih =>
    cases hp : p x with
    | true => rw [List.filter_cons_of_pos hp, List.findSome?_cons, List.findSome?_cons, ih]
    | false =>
      rw [List.filter_cons_of_neg (by simp [hp]), List.findSome?_cons, h x hp, ih]

/-- The answer of a lookup is that of the first route of the listing which has one. -/
theorem Sound.find?_eq_findSome? (h : t.Sound) (method : Option Method) (path : String) :
    t.find? method path = t.ordered.findSome? (answer? method (Segment.split path)) := by
  rw [find?, firstHit?_eq, h.bucket_eq_filter]
  refine findSome?_filter_eq fun r hr => answer?_eq_none_of_size_ne ?_
  simpa using hr

/-! ## The first that is listed -/

/-- The first route of a list that has a method and matches a path, and what it binds. -/
structure IsFirstListed (listing : List Route) (method : Method) (path : String) (hit : Hit) :
    Prop where
  asked : hit.route.method = method
  matched : hit.route.pattern.match? path = some hit.bindings
  first : ∃ front back, listing = front ++ hit.route :: back ∧
    ∀ r ∈ front, r.method = method → r.pattern.match? path = none

theorem answer?_eq_none_iff {method : Method} {path : String} {r : Route} :
    answer? (some method) (Segment.split path) r = none ↔
      (r.method = method → r.pattern.match? path = none) := by
  rw [all_some_iff, answer?]
  split
  · rename_i hm
    simp only [hm, Option.map_eq_none_iff, forall_const]
    rfl
  · rename_i hm
    exact iff_of_true rfl fun hm' => absurd hm' hm

theorem Sound.route?_eq_none_iff (h : t.Sound) {method : Method} {path : String} :
    t.route? method path = none ↔
      ∀ r ∈ t.ordered, r.method = method → r.pattern.match? path = none := by
  simp only [route?, h.find?_eq_findSome?, List.findSome?_eq_none_iff, answer?_eq_none_iff]

theorem Sound.route?_eq_some_iff (h : t.Sound) {method : Method} {path : String} {hit : Hit} :
    t.route? method path = some hit ↔ IsFirstListed t.ordered method path hit := by
  rw [route?, h.find?_eq_findSome?, List.findSome?_eq_some_iff]
  simp only [answer?_eq_none_iff]
  constructor
  · rintro ⟨front, r, back, hlisted, ha, hfront⟩
    obtain ⟨rfl, hm, hp⟩ := answer?_eq_some_iff.1 ha
    exact ⟨(all_some_iff method _).2 hm, hp, front, back, hlisted, hfront⟩
  · rintro ⟨hm, hp, front, back, hlisted, hfront⟩
    exact ⟨front, hit.route, back, hlisted,
      answer?_eq_some_iff.2 ⟨rfl, (all_some_iff method _).1 hm, hp⟩, hfront⟩

end Signpost.Table
