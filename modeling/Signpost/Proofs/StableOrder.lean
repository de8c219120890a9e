import Mathlib.Data.List.Pairwise
import Signpost.Proofs.Buckets
/-!
# The listing is a stable sort

However registrations, refused ones among them, are mixed with other changes, the
routes of a table are what was added, in that order, and the listing is their stable
sort by length and, in order of specificity, by what specificity compares
(`built_eq_sort`). No sort is ever run: each route is placed once.
-/

namespace Signpost

/-! ## Stable sorting -/

section MergeSort

variable {α : Type} {le : α → α → Bool} (trans : ∀ a b c, le a b → le b c → le a c)
  (total : ∀ a b, le a b || le b a)
include trans total

/-- Sorting leaves the elements that tie with a given one as they were. -/
theorem filter_mergeSort (l : List α) (a : α) :
    (l.mergeSort le).filter (fun b => le a b && le b a) =
      l.filter (fun b => le a b && le b a) := by
  have hties : (l.filter (fun b => le a b && le b a)).Pairwise (fun b c => le b c = true) := by
    refine List.pairwise_of_forall_mem_list fun b hb c hc => ?_
    rw [List.mem_filter, Bool.and_eq_true] at hb hc
    exact trans b a c hb.2.2 hc.2.1
  have hsub := List.sublist_mergeSort trans total hties List.filter_sublist
  -- As many elements tie after sorting as before, so the sublist is all of them.
  have hlen := ((List.mergeSort_perm l le).filter (fun b => le a b && le b a)).length_eq
  refine (List.Sublist.eq_of_length ?_ hlen.symm).symm
  simpa [List.filter_filter] using hsub.filter (fun b => le a b && le b a)

/-- A sorted list is in order, and those that tie are in the order they were in. -/
theorem pairwise_mergeSort_stable {R : α → α → Prop} {l : List α} (hl : l.Pairwise R) :
    (l.mergeSort le).Pairwise (fun a b => le a b = true ∧ (le b a = true → R a b)) := by
  rw [List.pairwise_iff_forall_sublist]
  intro a b hab
  have hle := List.pairwise_iff_forall_sublist.1 (List.pairwise_mergeSort trans total l) hab
  refine ⟨hle, fun hba => ?_⟩
  have haa : le a a = true := by simpa using total a a
  have hties : [a, b].filter (fun c => le a c && le c a) = [a, b] := by simp [haa, hle, hba]
  have hsub := hab.filter (fun c => le a c && le c a)
  rw [filter_mergeSort trans total, hties] at hsub
  exact List.pairwise_iff_forall_sublist.1 hl (hsub.trans List.filter_sublist)

end MergeSort

/-- In a list in order, two elements stand as the order says. -/
theorem pair_sublist_iff {α : Type} {R : α → α → Prop} {l : List α} {a b : α} (hl : l.Pairwise R)
    (hasymm : ∀ {x y}, R x y → ¬ R y x) (ha : a ∈ l) (hb : b ∈ l) : [a, b].Sublist l ↔ R a b := by
  constructor
  · exact fun h => List.pairwise_iff_forall_sublist.1 hl h
  · intro hab
    obtain ⟨front, back, rfl⟩ := List.append_of_mem ha
    obtain ⟨-, -, hfront⟩ := List.pairwise_append.1 hl
    rcases List.mem_append.1 hb with hb | hb
    · exact absurd (hfront b hb a (by simp)) (hasymm hab)
    · rcases List.mem_cons.1 hb with rfl | hb
      · exact absurd hab (hasymm hab)
      · exact List.sublist_append_of_sublist_right
          (List.Sublist.cons_cons a (List.singleton_sublist.2 hb))

/-! ## The order of the listing -/

namespace Route

/-- Whether a sort may leave `a` in front of `b`: the shorter first, and in order of
specificity those with more literals first, then those with smaller ranks. -/
def sortLe (order : Order) (a b : Route) : Bool :=
  match order with
  | .declaration => decide (a.pattern.size ≤ b.pattern.size)
  | .specificity =>
    decide (a.pattern.size < b.pattern.size ∨ a.pattern.size = b.pattern.size ∧
      (b.pattern.literalCount < a.pattern.literalCount ∨
        a.pattern.literalCount = b.pattern.literalCount ∧ ¬ b.pattern.ranks < a.pattern.ranks))

/-- Whether `a` is listed before `b`. -/
def Listed (order : Order) (a b : Route) : Prop :=
  a.pattern.size < b.pattern.size ∨ a.pattern.size = b.pattern.size ∧ Before order a b

variable {order : Order} {a b c : Route}

theorem Listed.not_listed (h : Listed order a b) : ¬ Listed order b a := by
  rintro (h' | ⟨e', h'⟩) <;> rcases h with h | ⟨e, h⟩
  · omega
  · omega
  · omega
  · exact h.not_before h'

theorem sortLe_specificity : sortLe .specificity a b = true ↔
    a.pattern.size < b.pattern.size ∨ a.pattern.size = b.pattern.size ∧
      ¬ b.specificity.Better a.specificity := by
  simp only [sortLe, decide_eq_true_eq, better_iff, not_or, not_and]
  constructor
  · rintro (h | ⟨e, h | ⟨el, hr⟩⟩)
    · exact .inl h
    · exact .inr ⟨e, by omega, by omega⟩
    · exact .inr ⟨e, by omega, fun _ => hr⟩
  · rintro (h | ⟨e, hl, hr⟩)
    · exact .inl h
    · rcases Nat.lt_or_eq_of_le (Nat.le_of_not_lt hl) with h | h
      · exact .inr ⟨e, .inl h⟩
      · exact .inr ⟨e, .inr ⟨h.symm, hr h⟩⟩

theorem sortLe_trans (order : Order) (a b c : Route) (hab : sortLe order a b = true)
    (hbc : sortLe order b c = true) : sortLe order a c = true := by
  cases order with
  | declaration =>
    simp only [sortLe, decide_eq_true_eq] at *
    omega
  | specificity =>
    rw [sortLe_specificity] at *
    rcases hab with h₁ | ⟨e₁, h₁⟩ <;> rcases hbc with h₂ | ⟨e₂, h₂⟩
    · exact .inl (by omega)
    · exact .inl (by omega)
    · exact .inl (by omega)
    · refine .inr ⟨e₁.trans e₂, fun h => ?_⟩
      rcases a.specificity.better_or_eq_or_better b.specificity with hb | hb | hb
      · exact h₂ (h.trans hb)
      · exact h₂ (hb ▸ h)
      · exact h₁ hb

theorem sortLe_total (order : Order) (a b : Route) :
    (sortLe order a b || sortLe order b a) = true := by
  rw [Bool.or_eq_true]
  cases order with
  | declaration =>
    simp only [sortLe, decide_eq_true_eq]
    omega
  | specificity =>
    rw [sortLe_specificity, sortLe_specificity]
    rcases Nat.lt_trichotomy a.pattern.size b.pattern.size with h | h | h
    · exact .inl (.inl h)
    · by_cases hb : b.specificity.Better a.specificity
      · exact .inr (.inr ⟨h.symm, fun ha => b.specificity.not_better_self (hb.trans ha)⟩)
      · exact .inl (.inr ⟨h, hb⟩)
    · exact .inr (.inl h)

/-- The listing is by `sortLe`, and by index where that has no preference. -/
theorem listed_of_sortLe (hab : sortLe order a b = true)
    (htie : sortLe order b a = true → a.index < b.index) : Listed order a b := by
  cases order with
  | declaration =>
    simp only [sortLe, decide_eq_true_eq] at *
    rcases Nat.lt_or_eq_of_le hab with h | h
    · exact .inl h
    · exact .inr ⟨h, htie (by omega)⟩
  | specificity =>
    rw [sortLe_specificity] at hab htie
    rcases hab with h | ⟨e, hb⟩
    · exact .inl h
    · refine .inr ⟨e, ?_⟩
      rcases a.specificity.better_or_eq_or_better b.specificity with ha | ha | ha
      · exact .inl ha
      · exact .inr ⟨ha, htie (.inr ⟨e.symm, ha ▸ a.specificity.not_better_self⟩)⟩
      · exact absurd ha hb

/-- What is listed in order a sort may leave alone. -/
theorem sortLe_of_listed (h : Listed order a b) : sortLe order a b = true := by
  cases order with
  | declaration =>
    simp only [sortLe, decide_eq_true_eq]
    rcases h with h | ⟨e, -⟩ <;> omega
  | specificity =>
    rw [sortLe_specificity]
    rcases h with h | ⟨e, h | ⟨hspec, -⟩⟩
    · exact .inl h
    · exact .inr ⟨e, fun hb => a.specificity.not_better_self (h.trans hb)⟩
    · exact .inr ⟨e, hspec ▸ a.specificity.not_better_self⟩

end Route

namespace Table

/-! ## Buckets and listing -/

theorem Sound.pairwise_index {t : Table} (h : t.Sound) :
    t.routes.Pairwise (fun a b => a.index < b.index) := by
  rw [← List.pairwise_map, h.index_eq]
  exact List.pairwise_lt_range

/-- What is listed in order is the stable sort of the same routes as registered. -/
theorem Sound.eq_mergeSort {t : Table} (h : t.Sound) {listed registered : List Route}
    (hs : listed.Pairwise (Route.Listed t.order)) (hr : registered.Sublist t.routes)
    (hp : listed.Perm registered) : listed = registered.mergeSort (Route.sortLe t.order) := by
  have hsort := pairwise_mergeSort_stable (Route.sortLe_trans t.order) (Route.sortLe_total t.order)
    (h.pairwise_index.sublist hr)
  refine List.Perm.eq_of_pairwise ?_ hs (hsort.imp fun hab => Route.listed_of_sortLe hab.1 hab.2)
    (hp.trans (List.mergeSort_perm _ _).symm)
  intro a b _ _ hab hba
  exact absurd hba hab.not_listed

theorem Sound.nodup_routes {t : Table} (h : t.Sound) : t.routes.Nodup :=
  h.pairwise_index.imp fun {a b} hab (he : a = b) => Nat.lt_irrefl _ (he ▸ hab)

/-- A search of the routes finds the one registered first. -/
theorem Sound.find?_routes_eq_some_iff {t : Table} (h : t.Sound) {p : Route → Bool} {r : Route} :
    t.routes.find? p = some r ↔
      r ∈ t.routes ∧ p r = true ∧ ∀ s ∈ t.routes, p s = true → r.index ≤ s.index := by
  rw [List.find?_eq_some_iff_append]
  constructor
  · rintro ⟨hr, front, back, hroutes, hfront⟩
    have hindex := h.pairwise_index
    rw [hroutes, List.pairwise_append, List.pairwise_cons] at hindex
    refine ⟨by simp [hroutes], hr, fun s hs hp => ?_⟩
    rw [hroutes, List.mem_append, List.mem_cons] at hs
    rcases hs with hs | rfl | hs
    · exact absurd (hfront s hs) (by simp [hp])
    · exact Nat.le_refl _
    · exact Nat.le_of_lt (hindex.2.1.1 s hs)
  · rintro ⟨hr, hp, hfirst⟩
    obtain ⟨front, back, hroutes⟩ := List.append_of_mem hr
    have hindex := h.pairwise_index
    rw [hroutes, List.pairwise_append] at hindex
    refine ⟨hp, front, back, hroutes, fun s hs => ?_⟩
    -- What stands in front was registered before.
    have hlt := hindex.2.2 s hs r List.mem_cons_self
    have hmem : s ∈ t.routes := by simp [hroutes, hs]
    by_contra hps
    have hle := hfirst s hmem (by simpa using hps)
    omega

theorem Sound.nodup_bucket {t : Table} (h : t.Sound) (n : Nat) : (t.bucket n).Nodup :=
  (h.sorted n).imp fun {a b} (hab : Route.Before t.order a b) (he : a = b) =>
    Route.not_before_self t.order b (he ▸ hab)

theorem Sound.bucket_perm {t : Table} (h : t.Sound) (n : Nat) :
    (t.bucket n).Perm (t.routes.filter (fun r => r.pattern.size = n)) := by
  rw [List.perm_ext_iff_of_nodup (h.nodup_bucket n) (h.nodup_routes.filter _)]
  intro r
  simp [h.mem_bucket]

theorem Sound.pairwise_bucket {t : Table} (h : t.Sound) (n : Nat) :
    (t.bucket n).Pairwise (Route.Listed t.order) := by
  refine List.Pairwise.imp_of_mem ?_ (h.sorted n)
  intro a b ha hb hab
  exact .inr ⟨(h.size_eq ha).trans (h.size_eq hb).symm, hab⟩

theorem Sound.bucket_eq {t : Table} (h : t.Sound) (n : Nat) :
    t.bucket n = (t.routes.filter (fun r => r.pattern.size = n)).mergeSort
      (Route.sortLe t.order) :=
  h.eq_mergeSort (h.pairwise_bucket n) List.filter_sublist (h.bucket_perm n)

theorem getElem_buckets {t : Table} {n : Nat} (hn : n < t.buckets.length) :
    t.buckets[n] = t.bucket n := by simp [bucket, hn]

/-- The listing is in order within a bucket and from one bucket to the next. -/
theorem Sound.pairwise_ordered {t : Table} (h : t.Sound) :
    t.ordered.Pairwise (Route.Listed t.order) := by
  rw [ordered, List.pairwise_flatten, List.pairwise_iff_getElem]
  constructor
  · intro b hb
    obtain ⟨n, hn, rfl⟩ := List.mem_iff_getElem.1 hb
    rw [getElem_buckets hn]
    exact h.pairwise_bucket n
  · intro i j hi hj hij r hr s hs
    rw [getElem_buckets] at hr hs
    exact .inl (by rw [h.size_eq hr, h.size_eq hs]; exact hij)

theorem Sound.ordered_eq {t : Table} (h : t.Sound) :
    t.ordered = t.routes.mergeSort (Route.sortLe t.order) :=
  h.eq_mergeSort h.pairwise_ordered (List.Sublist.refl _) h.perm

/-- Two routes of one length stand in the listing as lookups try them. -/
theorem Sound.listed_iff_before {t : Table} (h : t.Sound) {a b : Route} (ha : a ∈ t.routes)
    (hb : b ∈ t.routes) (hsize : a.pattern.size = b.pattern.size) :
    [a, b].Sublist t.ordered ↔ Route.Before t.order a b := by
  rw [pair_sublist_iff h.pairwise_ordered Route.Listed.not_listed (h.perm.mem_iff.2 ha)
    (h.perm.mem_iff.2 hb)]
  simp [Route.Listed, hsize]

/-! ## What a history registers -/

theorem routes_run (t : Table) (cs : List Change) :
    (t.run cs).routes =
      t.routes ++ (additions t.registry cs).mapIdx (fun i a => a.route (t.size + i)) := by
  induction cs generalizing t with
  | nil => simp [additions]
  | cons c cs ih =>
    rw [run_cons, ih, additions, registry_apply]
    rcases t.apply_cases c with ⟨a, ha, he⟩ | ⟨ha, registry, micros, he⟩
    · simp [ha, he, size, Addition.route, List.mapIdx_cons, Nat.add_assoc, Nat.add_comm 1]
    · simp [ha, he, size]

theorem routes_built (order : Order) (changes : List Change) :
    (built order changes).routes = (additions .standard changes).mapIdx fun i a => a.route i := by
  simpa [built, size, empty] using routes_run (empty order) changes

theorem routes_insertions (order : Order) (l : List Addition) :
    (built order (l.map Addition.insertion)).routes = l.mapIdx fun i a => a.route i := by
  rw [routes_built, additions_insertions]

/-- Refused registrations leave nothing behind. -/
theorem run_accepted (t : Table) (cs : List Change) :
    t.run (accepted t.registry cs) = t.run cs := by
  induction cs generalizing t with
  | nil => rfl
  | cons c cs ih =>
    rw [run_cons, accepted, ← registry_apply]
    split
    · rename_i hc
      rw [apply_of_isRefused hc, ih]
    · rw [run_cons, ih]

/-! ## Main theorem -/

/-- After any history the routes are what its changes added, in that order and each
with its position as index, as if the refused registrations had not been tried; every
bucket is the stable sort of its routes, and the listing that of all routes. -/
theorem built_eq_sort (order : Order) (changes : List Change) :
    (built order changes).routes =
      (additions .standard changes).mapIdx (fun i a => a.route i) ∧
    built order (accepted .standard changes) = built order changes ∧
    (∀ n, (built order changes).bucket n =
      ((built order changes).routes.filter (fun r => r.pattern.size = n)).mergeSort
        (Route.sortLe order)) ∧
    (built order changes).ordered =
      (built order changes).routes.mergeSort (Route.sortLe order) ∧
    (built order changes).ordered.Perm (built order changes).routes := by
  have h := sound_built order changes
  refine ⟨?_, run_accepted (empty order) changes, fun n => ?_, ?_, h.perm⟩
  · exact routes_built order changes
  · simpa using h.bucket_eq n
  · simpa using h.ordered_eq

end Table

end Signpost
