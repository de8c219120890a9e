import Mathlib.Data.List.Forall2
import Signpost.Proofs.Priority
/-!
# Narrower patterns

An item is narrower than another when it leaves less open: a literal than a parameter,
a typed parameter than a string parameter. A route whose items are nowhere wider than
those of another, and somewhere narrower, is never hidden by it, and a route of
literals only is hidden by nothing but an earlier one of its kind
(`narrower_never_hidden`). Where ranks are nowhere larger, the literals are as many or
more, so both comparisons of specificity go the same way.
-/

namespace Signpost

/-! ## Ranks side by side -/

/-- Of two lists side by side, one nowhere larger than the other, it is the smaller
unless they are equal. -/
theorem eq_or_lt_of_forall₂_le {l l' : List Nat} (h : List.Forall₂ (· ≤ ·) l l') :
    l = l' ∨ l < l' := by
  induction h with
  | nil => exact .inl rfl
  | cons hab _ ih =>
    rcases Nat.lt_or_eq_of_le hab with hlt | rfl
    · exact .inr (List.cons_lt_cons_iff.2 (.inl hlt))
    · rcases ih with rfl | hlt
      · exact .inl rfl
      · exact .inr (List.cons_lt_cons_iff.2 (.inr ⟨rfl, hlt⟩))

theorem count_zero_le_of_forall₂_le {l l' : List Nat} (h : List.Forall₂ (· ≤ ·) l l') :
    l'.count 0 ≤ l.count 0 := by
  induction h with
  | nil => exact Nat.le_refl _
  | @cons a b l l' hab _ ih =>
    rw [List.count_cons, List.count_cons]
    -- Where the larger is zero, the smaller is zero too.
    by_cases hb : b = 0
    · obtain rfl : a = 0 := by omega
      simpa [hb] using ih
    · simp only [beq_iff_eq, hb, if_false]
      omega

/-! ## Items and patterns -/

namespace Item

/-- `x.Narrower y`: less is open in `x`. -/
inductive Narrower : Item → Item → Prop
  | literal {text name : String} {type : ParamType} :
      Narrower (.literal text) (.parameter name type)
  | typed {m n : String} {s t : ParamType} (hs : s.tag ≠ "string") (ht : t.tag = "string") :
      Narrower (.parameter m s) (.parameter n t)

variable {x y : Item}

theorem narrower_iff_rank_lt : x.Narrower y ↔ x.rank < y.rank := by
  constructor
  · rintro (@⟨_, _, t⟩ | ⟨hs, ht⟩)
    · cases ht : t.isString <;> simp [rank, ht]
    · simp [rank, ParamType.isString, hs, ht]
  · intro h
    cases x with
    | literal text =>
      cases y with
      | literal text' => simp [rank] at h
      | parameter n t => exact .literal
    | parameter m s =>
      cases y with
      | literal text' => simp [rank] at h
      | parameter n t =>
        by_cases hs : s.tag = "string" <;> by_cases ht : t.tag = "string" <;>
          simp [rank, ParamType.isString, hs, ht] at h
        exact .typed hs ht

instance : Decidable (x.Narrower y) := decidable_of_iff _ narrower_iff_rank_lt.symm

theorem rank_eq_zero_iff : x.rank = 0 ↔ x.isLiteral = true := by
  cases x with
  | literal text => simp [rank, isLiteral]
  | parameter name type => cases h : type.isString <;> simp [rank, isLiteral, h]

end Item

namespace Pattern

/-- Patterns of one length, of which `p` has nowhere the wider item and somewhere the
narrower one. -/
structure Narrower (p q : Pattern) : Prop where
  nowhere : List.Forall₂ (fun x y : Item => ¬ y.Narrower x) p.items q.items
  somewhere : ∃ (i : Nat) (x y : Item), p.items[i]? = some x ∧ q.items[i]? = some y ∧ x.Narrower y

/-- Whether a pattern has no parameters. -/
def isLiteral (p : Pattern) : Bool := p.items.all Item.isLiteral

variable {p q : Pattern}

theorem literalCount_eq_count_ranks (p : Pattern) : p.literalCount = p.ranks.count 0 := by
  rw [literalCount, ranks, List.count, List.countP_map]
  congr 1
  funext x
  rw [Function.comp_apply, Bool.eq_iff_iff, beq_iff_eq, Item.rank_eq_zero_iff]

theorem Narrower.forall₂_ranks (h : p.Narrower q) : List.Forall₂ (· ≤ ·) p.ranks q.ranks := by
  rw [ranks, ranks, List.forall₂_map_left_iff, List.forall₂_map_right_iff]
  exact h.nowhere.imp fun x y hxy => Nat.le_of_not_lt (mt Item.narrower_iff_rank_lt.2 hxy)

theorem Narrower.ranks_ne (h : p.Narrower q) : p.ranks ≠ q.ranks := by
  obtain ⟨i, x, y, hx, hy, hxy⟩ := h.somewhere
  intro heq
  have hrank : p.ranks[i]? = q.ranks[i]? := by rw [heq]
  rw [getElem?_ranks, getElem?_ranks, hx, hy, Option.map_some, Option.map_some,
    Option.some.injEq] at hrank
  exact absurd (Item.narrower_iff_rank_lt.1 hxy) (by omega)

/-- The narrower of two patterns is the more specific. -/
theorem Narrower.better (h : p.Narrower q) : p.specificity.Better q.specificity := by
  have hcount := count_zero_le_of_forall₂_le h.forall₂_ranks
  rw [← literalCount_eq_count_ranks, ← literalCount_eq_count_ranks] at hcount
  rcases Nat.lt_or_eq_of_le hcount with hlt | heq
  · exact .inl hlt
  · exact .inr ⟨heq.symm, (eq_or_lt_of_forall₂_le h.forall₂_ranks).resolve_left h.ranks_ne⟩

theorem literalCount_eq_size_iff : p.literalCount = p.size ↔ p.isLiteral = true := by
  rw [literalCount, size, List.countP_eq_length, isLiteral, List.all_eq_true]

/-- No pattern of its length is better than a literal one. -/
theorem not_better_of_isLiteral (hp : p.isLiteral = true) (hsize : q.size = p.size) :
    ¬ q.specificity.Better p.specificity := by
  have hcount : p.literalCount = p.size := literalCount_eq_size_iff.2 hp
  rintro (hmore | ⟨-, hlt⟩)
  · have hle : q.literalCount ≤ q.size := List.countP_le_length
    simp only [specificity] at hmore
    omega
  · -- Nothing is smaller than ranks that are all zero.
    obtain ⟨i, x, y, -, hy, hxy, -⟩ := (lt_iff_getElem? (by simpa [specificity] using hsize)).1 hlt
    rw [specificity, getElem?_ranks, Option.map_eq_some_iff] at hy
    obtain ⟨item, hitem, rfl⟩ := hy
    have hzero := Item.rank_eq_zero_iff.2 (List.all_eq_true.1 hp item (List.mem_of_getElem? hitem))
    omega

/-- A literal pattern binds nothing. -/
theorem bindings_of_isLiteral (hp : p.isLiteral = true) {path : String} {bindings : Bindings}
    (hm : p.match? path = some bindings) : bindings = ⟨[]⟩ := by
  obtain ⟨entries, he, rfl⟩ := Option.map_eq_some_iff.1 hm
  have hnames : Item.names p.items = [] := by
    rw [Item.names, List.filterMap_eq_nil_iff]
    intro item hitem
    have hliteral := List.all_eq_true.1 hp item hitem
    cases item with
    | literal text => rfl
    | parameter name type => cases hliteral
  rw [← names_of_bindAll he, List.map_eq_nil_iff] at hnames
  rw [hnames]

end Pattern

/-! ## Routes -/

/-- A route of literals that three patterns with parameters match as well. -/
def Route.byPath : Route :=
  ⟨.get, .ofItems [.literal "1", .literal "x", .literal "y"], "by path", 3⟩

namespace Table

open Route (byWord byNumber byBoth byPath)

/-- The first route registered of those of a method that are literal and match a path. -/
def literalRoute? (t : Table) (method : Method) (path : String) : Option Route :=
  t.routes.find? fun r =>
    r.method = method && r.pattern.isLiteral && (r.pattern.match? path).isSome

variable {t : Table}

theorem Sound.literalRoute?_eq_some_iff (h : t.Sound) {method : Method} {path : String}
    {r : Route} : t.literalRoute? method path = some r ↔
      r ∈ t.routes ∧ (r.method = method ∧ r.pattern.isLiteral = true ∧
        (r.pattern.match? path).isSome = true) ∧
      ∀ s ∈ t.routes, s.method = method → s.pattern.isLiteral = true →
        (s.pattern.match? path).isSome = true → r.index ≤ s.index := by
  simp only [literalRoute?, h.find?_routes_eq_some_iff, Bool.and_eq_true, decide_eq_true_eq,
    and_assoc, and_imp]

/-- A request that a literal route matches gets the first of these. -/
theorem Sound.route?_of_literalRoute? (h : t.Sound) (horder : t.order = .specificity)
    {method : Method} {path : String} {r : Route} (hr : t.literalRoute? method path = some r) :
    t.route? method path = some ⟨r, ⟨[]⟩⟩ := by
  obtain ⟨hmem, ⟨hmethod, hliteral, hmatch⟩, hfirst⟩ := h.literalRoute?_eq_some_iff.1 hr
  obtain ⟨bindings, hb⟩ := Option.isSome_iff_exists.1 hmatch
  obtain rfl := Pattern.bindings_of_isLiteral hliteral hb
  refine (h.find?_eq_some_iff (all_some_iff method)).2 ⟨⟨hmem, hmethod, hb⟩, ?_⟩
  rintro ⟨s, bindings⟩ ⟨hs, hsm, hsb⟩
  have hsize : s.pattern.size = r.pattern.size :=
    (size_eq_of_match? hsb).trans (size_eq_of_match? hb).symm
  by_cases hindex : s.index = r.index
  · obtain rfl := h.eq_of_index_eq hs hmem hindex
    rw [hb, Option.some.injEq] at hsb
    exact .inl (congrArg _ hsb.symm)
  · refine .inr ((Route.before_or_before t.order hindex).resolve_left fun hbefore => ?_)
    rw [horder] at hbefore
    rcases hbefore with hbetter | ⟨hequal, hlt⟩
    · exact Pattern.not_better_of_isLiteral hliteral hsize hbetter
    · -- What is as specific as a literal route is literal itself, so it is not earlier.
      have hcount : s.pattern.literalCount = r.pattern.literalCount :=
        congrArg Specificity.literals hequal
      have hsl : s.pattern.isLiteral = true := by
        rw [← Pattern.literalCount_eq_size_iff, hcount, hsize]
        exact Pattern.literalCount_eq_size_iff.2 hliteral
      have hle := hfirst s hs hsm hsl (by simp [hsb])
      omega

/-! ## Main theorem -/

/-- In order of specificity, a route is preferred to every route with a wider pattern,
and a request that literal routes of its method match gets the one registered first. -/
theorem narrower_never_hidden (changes : List Change) :
    (∀ a ∈ (built .specificity changes).routes, ∀ b ∈ (built .specificity changes).routes,
      a.pattern.Narrower b.pattern → (built .specificity changes).Prefers a b) ∧
    ∀ method path r, (built .specificity changes).literalRoute? method path = some r →
      (built .specificity changes).route? method path = some ⟨r, ⟨[]⟩⟩ := by
  have h := sound_built .specificity changes
  refine ⟨fun a ha b hb hab => ?_, fun method path r hr => ?_⟩
  · rw [h.prefers_iff ha hb hab.nowhere.length_eq, order_built]
    exact .inl hab.better
  · exact h.route?_of_literalRoute? (order_built _ _) hr

/-- The route with the wider pattern is registered first, the literal route last. -/
theorem by_both_never_hidden :
    byBoth.pattern.Narrower byWord.pattern ∧
    (built .specificity (registrations [byWord, byNumber, byBoth, byPath])).Prefers byBoth byWord ∧
    (built .specificity (registrations [byWord, byNumber, byBoth, byPath])).literalRoute? .get
      "1/x/y" = some byPath ∧
    (built .specificity (registrations [byWord, byNumber, byBoth, byPath])).route? .get "1/x/y" =
      some ⟨byPath, ⟨[]⟩⟩ := by
  have hroutes : (built .specificity (registrations [byWord, byNumber, byBoth, byPath])).routes =
      [byWord, byNumber, byBoth, byPath] := rfl
  have hnarrower : byBoth.pattern.Narrower byWord.pattern := by
    refine ⟨?_, 0, _, _, rfl, rfl, by decide⟩
    simp only [byBoth, byWord, Pattern.ofItems]
    exact .cons (by decide) (.cons (by decide) (.cons (by decide) .nil))
  have hliteral : (built .specificity (registrations [byWord, byNumber, byBoth, byPath])).literalRoute?
      .get "1/x/y" = some byPath := by
    rw [literalRoute?, hroutes]
    rfl
  obtain ⟨hprefers, hfound⟩ :=
    narrower_never_hidden (registrations [byWord, byNumber, byBoth, byPath])
  exact ⟨hnarrower, hprefers byBoth (by simp [hroutes]) byWord (by simp [hroutes]) hnarrower,
    hliteral, hfound _ _ _ hliteral⟩

end Table

end Signpost
