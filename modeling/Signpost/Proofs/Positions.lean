import Signpost.Proofs.Acceptance
/-!
# Matching, position by position

A path matches a pattern exactly when it has as many segments as the pattern has items
and each item accepts the segment at its own position. What is bound is then what the
positions bind, from the first to the last, repeated names included (`match?_exact`).
-/

namespace Signpost

/-- Lists side by side, told by their positions. -/
theorem forall₂_iff_getElem? {α β : Type} {R : α → β → Prop} {xs : List α} {ys : List β} :
    List.Forall₂ R xs ys ↔ xs.length = ys.length ∧
      ∀ (i : Nat) (x : α) (y : β), xs[i]? = some x → ys[i]? = some y → R x y := by
  rw [List.forall₂_iff_get]
  refine and_congr_right fun _ => ⟨fun h i x y hx hy => ?_, fun h i hi hi' => ?_⟩
  · obtain ⟨hi, rfl⟩ := List.getElem?_eq_some_iff.1 hx
    obtain ⟨hi', rfl⟩ := List.getElem?_eq_some_iff.1 hy
    exact h i hi hi'
  · exact h i _ _ (List.getElem?_eq_getElem hi) (List.getElem?_eq_getElem hi')

/-- What an item makes of the segment at its position: a literal binds nothing, a
parameter binds its name to the value. -/
def Item.binding? : Item → String → Option (String × Value)
  | .literal _, _ => none
  | .parameter name type, segment => (type.convert segment).map (name, ·)

namespace Pattern

/-- What position `i` binds. -/
def bindingAt? (items : List Item) (segments : List String) (i : Nat) : Option (String × Value) :=
  items[i]?.bind fun item => segments[i]?.bind item.binding?

/-- What the positions bind, in order. -/
def bindingsAt (items : List Item) (segments : List String) : List (String × Value) :=
  (List.range items.length).filterMap (bindingAt? items segments)

/-- Segments that the items of a pattern accept, each at its own position. -/
structure Fits (p : Pattern) (segments : List String) : Prop where
  length : segments.length = p.size
  literal : ∀ (i : Nat) (text segment : String),
    p.items[i]? = some (.literal text) → segments[i]? = some segment → text = segment
  parameter : ∀ (i : Nat) (name : String) (type : ParamType) (segment : String),
    p.items[i]? = some (.parameter name type) → segments[i]? = some segment →
      (type.convert segment).isSome = true

variable {p : Pattern} {items : List Item} {segments : List String}
  {entries : List (String × Value)}

/-! ## What fits -/

theorem fits_iff_forall₂ :
    p.Fits segments ↔
      List.Forall₂ (fun segment x => Item.accepts x segment = true) segments p.items := by
  rw [forall₂_iff_getElem?]
  constructor
  · intro h
    refine ⟨h.length, fun i segment x hs hx => ?_⟩
    cases x with
    | literal text => simpa [Item.accepts] using h.literal i text segment hx hs
    | parameter name type => exact h.parameter i name type segment hx hs
  · rintro ⟨hlength, haccepts⟩
    refine ⟨hlength, fun i text segment hx hs => ?_, fun i name type segment hx hs => ?_⟩
    · simpa [Item.accepts] using haccepts i segment (.literal text) hs hx
    · exact haccepts i segment (.parameter name type) hs hx

/-! ## What is bound -/

/-- The first position, and the others counted from the second. -/
theorem bindingsAt_cons (item : Item) (segment : String) :
    bindingsAt (item :: items) (segment :: segments) =
      (item.binding? segment).toList ++ bindingsAt items segments := by
  have hrest : bindingAt? (item :: items) (segment :: segments) ∘ Nat.succ =
      bindingAt? items segments := by
    funext i
    simp [bindingAt?]
  have hfirst : bindingAt? (item :: items) (segment :: segments) 0 = item.binding? segment := rfl
  rw [bindingsAt, List.length_cons, List.range_succ_eq_map, List.filterMap_cons, hfirst,
    List.filterMap_map, hrest]
  cases item.binding? segment <;> rfl

/-- One step of the walk, over a literal. -/
theorem bindAll_literal_eq_some_iff {text segment : String} :
    bindAll (.literal text :: items) (segment :: segments) = some entries ↔
      text = segment ∧ bindAll items segments = some entries := by
  rw [bindAll]
  split <;> simp [*]

/-- One step of the walk, over a parameter. -/
theorem bindAll_parameter_eq_some_iff {name segment : String} {type : ParamType} :
    bindAll (.parameter name type :: items) (segment :: segments) = some entries ↔
      ∃ value rest, type.convert segment = some value ∧ bindAll items segments = some rest ∧
        (name, value) :: rest = entries := by
  rw [bindAll]
  cases type.convert segment with
  | none => simp
  | some value => simp [Option.map_eq_some_iff]

/-- The walk collects what the positions bind. -/
theorem eq_bindingsAt_of_bindAll (h : bindAll items segments = some entries) :
    entries = bindingsAt items segments := by
  fun_induction bindAll items segments generalizing entries with
  | case1 => simpa [bindingsAt] using h.symm
  | case2 items segment segments ih =>
    rw [bindingsAt_cons]
    exact ih h
  | case3 => cases h
  | case4 => cases h
  | case5 name type items segment segments value hv ih =>
    obtain ⟨rest, hrest, rfl⟩ := Option.map_eq_some_iff.1 h
    rw [bindingsAt_cons, ← ih hrest]
    simp [Item.binding?, hv]
  | case6 => cases h

theorem bindAll_eq_some_iff : bindAll items segments = some entries ↔
    List.Forall₂ (fun segment x => Item.accepts x segment = true) segments items ∧
      entries = bindingsAt items segments := by
  rw [← isSome_bindAll_iff]
  constructor
  · intro h
    exact ⟨by rw [h]; rfl, eq_bindingsAt_of_bindAll h⟩
  · rintro ⟨hsome, rfl⟩
    obtain ⟨entries, h⟩ := Option.isSome_iff_exists.1 hsome
    rw [h, eq_bindingsAt_of_bindAll h]

theorem match?_eq_some_iff_bindAll {path : String} {b : Bindings} :
    p.match? path = some b ↔ bindAll p.items (Segment.split path) = some b.entries := by
  obtain ⟨entries⟩ := b
  simp [match?, matchSegments?]

theorem match?_eq_some_iff {path : String} {b : Bindings} : p.match? path = some b ↔
    p.Fits (Segment.split path) ∧ b.entries = bindingsAt p.items (Segment.split path) := by
  rw [match?_eq_some_iff_bindAll, bindAll_eq_some_iff, fits_iff_forall₂]

theorem names_of_match? {path : String} {b : Bindings} (h : p.match? path = some b) :
    b.entries.map Prod.fst = p.names :=
  names_of_bindAll (match?_eq_some_iff_bindAll.1 h)

/-- No path has a segment that is empty or has a slash in it. -/
theorem match?_eq_none_of_literal {text : String} (hmem : .literal text ∈ p.items)
    (hno : ¬ Segment.Possible text) (path : String) : p.match? path = none := by
  rw [← Option.not_isSome_iff_eq_none, isSome_match?_iff]
  intro hmeets
  obtain ⟨segment, -, hsegment⟩ := exists_mem_of_forall₂ hmeets hmem
  exact hno (Item.meets_literal.1 hsegment).1

/-! ## Main theorem -/

/-- A path matches a pattern exactly when its segments fit the items, one at each
position. Every parameter is then bound, in order, to what its type makes of the segment
at its own position, so the bound names are those of the pattern. A literal that is empty
or has a slash in it is never matched. -/
theorem match?_exact (p : Pattern) (path : String) :
    ((p.match? path).isSome = true ↔ p.Fits (Segment.split path)) ∧
    (∀ b, p.match? path = some b → b.entries = bindingsAt p.items (Segment.split path) ∧
      b.entries.map Prod.fst = p.names) ∧
    ∀ text, .literal text ∈ p.items → text = "" ∨ '/' ∈ text.toList → p.match? path = none := by
  refine ⟨?_, fun b hb => ⟨(match?_eq_some_iff.1 hb).2, names_of_match? hb⟩, ?_⟩
  · rw [Option.isSome_iff_exists]
    exact ⟨fun ⟨b, hb⟩ => (match?_eq_some_iff.1 hb).1,
      fun h => ⟨⟨bindingsAt p.items (Segment.split path)⟩, match?_eq_some_iff.2 ⟨h, rfl⟩⟩⟩
  · intro text hmem hno
    exact match?_eq_none_of_literal hmem (fun h => hno.elim h.1 h.2) path

/-- A pattern that uses one name for two parameters of different types. -/
def twoOfAName : Pattern := .ofItems [.parameter "a" .int, .literal "x", .parameter "a" .string]

/-- Both parameters are bound, each to the segment at its own position. A literal with a
slash in it does not match itself. -/
theorem two_of_a_name_match :
    twoOfAName.Fits (Segment.split "/7//x/y") ∧
    twoOfAName.match? "/7//x/y" = some ⟨[("a", .int 7), ("a", .text "y")]⟩ ∧
    bindingsAt twoOfAName.items (Segment.split "/7//x/y") = [("a", .int 7), ("a", .text "y")] ∧
    (ofItems [.literal "x/y"]).match? "x/y" = none := by
  obtain ⟨hfits, hbound, -⟩ := match?_exact twoOfAName "/7//x/y"
  have hmatch : twoOfAName.match? "/7//x/y" = some ⟨[("a", .int 7), ("a", .text "y")]⟩ := by decide
  refine ⟨hfits.1 (by rw [hmatch]; rfl), hmatch, (hbound _ hmatch).1.symm, ?_⟩
  exact (match?_exact (ofItems [.literal "x/y"]) "x/y").2.2 "x/y" List.mem_cons_self
    (.inr (by decide))

end Pattern

end Signpost
