import Signpost.Proofs.Lookup
import Signpost.Proofs.StableOrder
/-!
# Which of two routes wins

Of two routes of one length, the one tried first is listed first, and requests that
both match never get the other (`Table.Sound.prefers_iff`). With as many literals
each, an earlier literal wins as long as no position further left already decides:
ranks are compared from the left, so where a typed parameter meets a string
parameter there, the typed one counts for more than the literal
(`Table.earlier_literal_wins_iff`).
-/

namespace Signpost

/-! ## Two patterns side by side -/

namespace Pattern

/-- Whether a pattern has a literal at a position. -/
def literalAt (p : Pattern) (i : Nat) : Bool := (p.items[i]?).any Item.isLiteral

/-- At the first position where just one of two patterns has a literal, it is `p`. -/
structure EarlierLiteral (p q : Pattern) (i : Nat) : Prop where
  left : p.literalAt i = true
  right : q.literalAt i = false
  same : ∀ j < i, p.literalAt j = q.literalAt j

/-- Left of a position there is a first one where two patterns differ in rank, and
there `p` has a typed parameter and `q` a string parameter. -/
def TypedLeftOf (p q : Pattern) (i : Nat) : Prop :=
  ∃ j < i, p.ranks[j]? = some 1 ∧ q.ranks[j]? = some 2 ∧ ∀ k < j, p.ranks[k]? = q.ranks[k]?

theorem getElem?_ranks (p : Pattern) (i : Nat) : p.ranks[i]? = (p.items[i]?).map Item.rank := by
  simp [ranks]

@[simp] theorem length_ranks (p : Pattern) : p.ranks.length = p.size := List.length_map _

theorem literalAt_iff {p : Pattern} {i : Nat} : p.literalAt i = true ↔ p.ranks[i]? = some 0 := by
  rw [getElem?_ranks, literalAt]
  cases p.items[i]? with
  | none => simp
  | some x =>
    cases x with
    | literal text => simp [Item.isLiteral, Item.rank]
    | parameter name type => cases h : type.isString <;> simp [Item.isLiteral, Item.rank, h]

theorem rank_le {p : Pattern} {i n : Nat} (h : p.ranks[i]? = some n) : n ≤ 2 := by
  rw [getElem?_ranks, Option.map_eq_some_iff] at h
  obtain ⟨x, -, rfl⟩ := h
  cases x with
  | literal text => simp [Item.rank]
  | parameter name type => cases h : type.isString <;> simp [Item.rank, h]

variable {p q : Pattern} {i : Nat}

theorem TypedLeftOf.ranks_lt (hsize : p.size = q.size) (h : p.TypedLeftOf q i) :
    p.ranks < q.ranks := by
  obtain ⟨j, -, hp, hq, hsame⟩ := h
  exact (lt_iff_getElem? (by simpa using hsize)).2 ⟨j, 1, 2, hp, hq, by omega, hsame⟩

/-- Left of the earlier literal only a typed parameter can give smaller ranks. -/
theorem EarlierLiteral.typedLeftOf (hlit : p.EarlierLiteral q i) (hsize : p.size = q.size)
    (h : q.ranks < p.ranks) : q.TypedLeftOf p i := by
  obtain ⟨j, x, y, hx, hy, hlt, hsame⟩ := (lt_iff_getElem? (by simpa using hsize.symm)).1 h
  have hpi := literalAt_iff.1 hlit.left
  -- Nothing beats the literal of `p` at `i`, and right of `i` comes too late.
  have hj : j < i := by
    rcases Nat.lt_trichotomy j i with hji | rfl | hij
    · exact hji
    · rw [hpi, Option.some.injEq] at hy
      omega
    · have hqi : q.literalAt i = true := literalAt_iff.2 ((hsame i hij).trans hpi)
      rw [hlit.right] at hqi
      cases hqi
  -- A literal of `q` at `j` would be one of `p` too.
  have hx0 : x ≠ 0 := by
    rintro rfl
    have hqj := literalAt_iff.2 hx
    rw [← hlit.same j hj, literalAt_iff, hy, Option.some.injEq] at hqj
    omega
  have hy2 := rank_le hy
  obtain rfl : x = 1 := by omega
  obtain rfl : y = 2 := by omega
  exact ⟨j, hj, hx, hy, hsame⟩

theorem EarlierLiteral.ranks_ne (hlit : p.EarlierLiteral q i) : p.ranks ≠ q.ranks := by
  intro heq
  have hqi : q.literalAt i = true := by rw [literalAt_iff, ← heq, ← literalAt_iff, hlit.left]
  rw [hlit.right] at hqi
  cases hqi

theorem EarlierLiteral.ranks_lt_iff (hlit : p.EarlierLiteral q i) (hsize : p.size = q.size) :
    p.ranks < q.ranks ↔ ¬ q.TypedLeftOf p i := by
  constructor
  · intro hlt htyped
    exact lt_asymm hlt (htyped.ranks_lt hsize.symm)
  · intro hnone
    rcases lt_trichotomy p.ranks q.ranks with hlt | heq | hgt
    · exact hlt
    · exact absurd heq hlit.ranks_ne
    · exact absurd (hlit.typedLeftOf hsize hgt) hnone

end Pattern

/-! ## Three routes -/

def Route.byWord : Route :=
  ⟨.get, .ofItems [.parameter "a" .string, .literal "x", .parameter "c" .string], "by word", 0⟩

def Route.byNumber : Route :=
  ⟨.get, .ofItems [.parameter "a" .int, .parameter "b" .string, .literal "y"], "by number", 1⟩

def Route.byBoth : Route :=
  ⟨.get, .ofItems [.parameter "a" .int, .literal "x", .parameter "c" .int], "by both", 2⟩

/-- The history that registers given routes. -/
def registrations (routes : List Route) : List Change :=
  routes.map fun r => .register r.method r.template r.handler

namespace Table

open Route (byWord byNumber byBoth)

/-! ## Who comes first -/

/-- A route is listed before another, and requests that both match never get the other. -/
structure Prefers (t : Table) (a b : Route) : Prop where
  listed : [a, b].Sublist t.ordered
  found : ∀ method path hit, a.method = method → b.method = method →
    (a.pattern.match? path).isSome = true → (b.pattern.match? path).isSome = true →
    t.route? method path = some hit → hit.route ≠ b

variable {t : Table} {a b : Route}

theorem Sound.prefers_iff (h : t.Sound) (ha : a ∈ t.routes) (hb : b ∈ t.routes)
    (hsize : a.pattern.size = b.pattern.size) : t.Prefers a b ↔ Route.Before t.order a b := by
  rw [← h.listed_iff_before ha hb hsize]
  constructor
  · exact fun hp => hp.listed
  · intro hl
    refine ⟨hl, ?_⟩
    rintro method path hit rfl - hpa - hf
    exact h.route?_ne ha ((h.listed_iff_before ha hb hsize).1 hl) hpa hf

/-- Of two routes with as many literals, the smaller ranks win. -/
theorem before_iff_ranks_lt (hlit : a.pattern.literalCount = b.pattern.literalCount)
    (hne : a.pattern.ranks ≠ b.pattern.ranks) :
    Route.Before .specificity a b ↔ a.pattern.ranks < b.pattern.ranks := by
  rw [Route.before_specificity_iff]
  simp [hlit, hne]

/-! ## Main theorem -/

/-- A route whose literal stands earlier than that of another of its length, with as
many literals, is preferred to it exactly when no typed parameter of the other meets
a string parameter of its own at the first difference in rank left of that literal. -/
theorem earlier_literal_wins_iff (changes : List Change) (a b : Route) (i : Nat)
    (ha : a ∈ (built .specificity changes).routes) (hb : b ∈ (built .specificity changes).routes)
    (hsize : a.pattern.size = b.pattern.size)
    (hcount : a.pattern.literalCount = b.pattern.literalCount)
    (hlit : a.pattern.EarlierLiteral b.pattern i) :
    (built .specificity changes).Prefers a b ↔ ¬ b.pattern.TypedLeftOf a.pattern i := by
  rw [(sound_built .specificity changes).prefers_iff ha hb hsize, order_built,
    before_iff_ranks_lt hcount hlit.ranks_ne, hlit.ranks_lt_iff hsize]

/-- Between equals in the first segment the earlier literal wins. -/
theorem by_both_preferred_to_by_number :
    byBoth.pattern.EarlierLiteral byNumber.pattern 1 ∧
    ¬ byNumber.pattern.TypedLeftOf byBoth.pattern 1 ∧
    (built .specificity (registrations [byWord, byNumber, byBoth])).Prefers byBoth byNumber := by
  have hroutes : (built .specificity (registrations [byWord, byNumber, byBoth])).routes =
      [byWord, byNumber, byBoth] := rfl
  have hlit : byBoth.pattern.EarlierLiteral byNumber.pattern 1 :=
    ⟨by decide, by decide, by decide⟩
  have htyped : ¬ byNumber.pattern.TypedLeftOf byBoth.pattern 1 := by
    unfold Pattern.TypedLeftOf
    decide
  exact ⟨hlit, htyped, (earlier_literal_wins_iff _ byBoth byNumber 1 (by simp [hroutes])
    (by simp [hroutes]) rfl rfl hlit).2 htyped⟩

/-- The word is the earlier literal, but the number before it decides: it is listed
first and gets the request that both match. -/
theorem typed_parameter_beats_earlier_literal :
    byWord ∈ (built .specificity (registrations [byWord, byNumber])).routes ∧
    byNumber ∈ (built .specificity (registrations [byWord, byNumber])).routes ∧
    byWord.pattern.size = byNumber.pattern.size ∧
    byWord.pattern.literalCount = byNumber.pattern.literalCount ∧
    byWord.pattern.EarlierLiteral byNumber.pattern 1 ∧
    ¬ [byWord, byNumber].Sublist (built .specificity (registrations [byWord, byNumber])).ordered ∧
    (byWord.pattern.match? "1/x/y").isSome = true ∧
    ∃ hit, (built .specificity (registrations [byWord, byNumber])).route? .get "1/x/y" = some hit ∧
      hit.route = byNumber := by
  have h := sound_built .specificity (registrations [byWord, byNumber])
  have hroutes : (built .specificity (registrations [byWord, byNumber])).routes =
      [byWord, byNumber] := rfl
  have hword : byWord ∈ (built .specificity (registrations [byWord, byNumber])).routes := by
    simp [hroutes]
  have hnumber : byNumber ∈ (built .specificity (registrations [byWord, byNumber])).routes := by
    simp [hroutes]
  have hbefore : Route.Before .specificity byNumber byWord := by decide
  have hmatch : (byNumber.pattern.match? "1/x/y").isSome = true := by decide +kernel
  refine ⟨hword, hnumber, rfl, rfl, ⟨by decide, by decide, by decide⟩, ?_, by decide +kernel, ?_⟩
  · rw [h.listed_iff_before hword hnumber rfl, order_built]
    exact hbefore.not_before
  · -- One of the two routes answers, and the word does not.
    obtain ⟨hit, hf⟩ := Option.isSome_iff_exists.1
      ((h.find?_isSome_iff (all_some_iff .get)).2 ⟨byNumber, hnumber, rfl, hmatch⟩)
    have hmem := (h.isFirstHit (all_some_iff .get) hf).1.mem
    have hne : hit.route ≠ byWord := h.route?_ne hnumber hbefore hmatch hf
    rw [hroutes, List.mem_cons, List.mem_singleton] at hmem
    exact ⟨hit, hf, hmem.resolve_left hne⟩

end Table

end Signpost
