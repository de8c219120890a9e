import Signpost.Proofs.Relisting
import Signpost.Proofs.Shadowing
/-!
# Which paths a pattern accepts

A pattern accepts the paths whose segments meet its items one by one. Patterns of the
standard types accept the same paths exactly when they differ at most in the names of
their parameters (`acceptsSame_iff`), for each such item can be told from the others by
a segment. So a route that accepts what an earlier one of its method accepts comes with
a warning if their parameters have the same names, and else without
(`warned_iff_same_paths_and_names`).
-/

namespace Signpost

/-! ## Segments and items -/

/-- A text that some path has as a segment. -/
def Segment.Possible (s : String) : Prop := s ≠ "" ∧ '/' ∉ s.toList

instance (s : String) : Decidable (Segment.Possible s) :=
  inferInstanceAs (Decidable (s ≠ "" ∧ '/' ∉ s.toList))

theorem Segment.possible_of_mem_split {path s : String} (h : s ∈ split path) : Possible s :=
  ⟨(mem_split.1 h).1, slash_not_mem_of_mem_split h⟩

namespace Item

def accepts : Item → String → Bool
  | literal text, segment => text = segment
  | parameter _ type, segment => (type.convert segment).isSome

/-- A segment of a path that an item accepts. -/
def Meets (segment : String) (x : Item) : Prop :=
  Segment.Possible segment ∧ x.accepts segment = true

/-- Items of templates that bring no types of their own. -/
inductive Standard : Item → Prop
  | literal {text : String} (possible : Segment.Possible text) : Standard (.literal text)
  | string {name : String} : Standard (.parameter name .string)
  | int {name : String} : Standard (.parameter name .int)

/-- One literal twice, or two parameters of one tag, whatever their names. -/
inductive Agrees : Item → Item → Prop
  | literal {text : String} : Agrees (.literal text) (.literal text)
  | parameter {m n : String} {s t : ParamType} (tag : s.tag = t.tag) :
      Agrees (.parameter m s) (.parameter n t)

variable {x y : Item}

theorem agrees_of_beq (h : (x == y) = true) : x.Agrees y := by
  obtain ⟨text, rfl, rfl⟩ | ⟨name, s, t, rfl, rfl, htag⟩ := beq_cases h
  · exact .literal
  · exact .parameter htag

/-! ## Items told apart by segments -/

theorem meets_literal {text segment : String} :
    Meets segment (literal text) ↔ Segment.Possible text ∧ text = segment := by
  simp only [Meets, accepts, decide_eq_true_eq]
  exact ⟨fun ⟨h, he⟩ => ⟨he ▸ h, he⟩, fun ⟨h, he⟩ => ⟨he ▸ h, he⟩⟩

theorem Standard.exists_meets (h : x.Standard) : ∃ segment, Meets segment x := by
  cases h with
  | @literal text possible => exact ⟨text, meets_literal.2 ⟨possible, rfl⟩⟩
  | string => exact ⟨"0", by decide, rfl⟩
  | int =>
    have hzero : (ParamType.int.convert "0").isSome = true := by decide
    exact ⟨"0", by decide, hzero⟩

/-- A literal is met by one segment only, a parameter by more than one. -/
theorem not_meets_alike {text name : String} {type : ParamType}
    (hzero : (type.convert "0").isSome = true) (hone : (type.convert "1").isSome = true) :
    ¬ ∀ segment, Meets segment (literal text) ↔ Meets segment (parameter name type) := by
  intro h
  obtain ⟨-, h0⟩ := meets_literal.1 ((h "0").2 ⟨by decide, hzero⟩)
  obtain ⟨-, h1⟩ := meets_literal.1 ((h "1").2 ⟨by decide, hone⟩)
  exact absurd (h0.symm.trans h1) (by decide)

/-- A word is a string and no number. -/
theorem not_meets_word {m n : String} :
    ¬ ∀ segment, Meets segment (parameter m .string) ↔ Meets segment (parameter n .int) := by
  intro h
  obtain ⟨-, hword⟩ := (h "a").1 ⟨by decide, rfl⟩
  have hnumber : (ParamType.int.convert "a").isSome = false := by decide
  exact absurd (hword.symm.trans hnumber) (by decide)

/-- Standard items that the same segments meet differ in their names at most. -/
theorem Standard.agrees (hx : x.Standard) (hy : y.Standard)
    (h : ∀ segment, Meets segment x ↔ Meets segment y) : x.Agrees y := by
  have h' : ∀ segment, Meets segment y ↔ Meets segment x := fun segment => (h segment).symm
  cases hx with
  | @literal text possible =>
    cases hy with
    | literal =>
      obtain ⟨-, rfl⟩ := meets_literal.1 ((h text).1 (meets_literal.2 ⟨possible, rfl⟩))
      exact .literal
    | string => exact absurd h (not_meets_alike rfl rfl)
    | int => exact absurd h (not_meets_alike (by decide) (by decide))
  | string =>
    cases hy with
    | literal => exact absurd h' (not_meets_alike rfl rfl)
    | string => exact .parameter rfl
    | int => exact absurd h not_meets_word
  | int =>
    cases hy with
    | literal => exact absurd h' (not_meets_alike (by decide) (by decide))
    | string => exact absurd h' not_meets_word
    | int => exact .parameter rfl

/-- Standard items that differ in their names at most accept the same segments. -/
theorem Agrees.accepts_eq (h : x.Agrees y) (hx : x.Standard) (hy : y.Standard) (segment : String) :
    x.accepts segment = y.accepts segment := by
  cases h with
  | literal => rfl
  | parameter tag =>
    cases hx with
    | string =>
      cases hy with
      | string => rfl
      | int => exact absurd tag (by decide)
    | int =>
      cases hy with
      | string => exact absurd tag (by decide)
      | int => rfl

theorem meets_iff_iff_agrees (hx : x.Standard) (hy : y.Standard) :
    (∀ segment, Meets segment x ↔ Meets segment y) ↔ x.Agrees y := by
  refine ⟨hx.agrees hy, fun h segment => ?_⟩
  rw [Meets, Meets, h.accepts_eq hx hy]

end Item

/-! ## Words over a list of predicates -/

section Words

variable {α β σ : Type} {P : σ → α → Prop} {Q : σ → β → Prop}

theorem exists_forall₂ {xs : List α} (hx : ∀ x ∈ xs, ∃ s, P s x) : ∃ ss, List.Forall₂ P ss xs := by
  induction xs with
  | nil => exact ⟨[], .nil⟩
  | cons x xs ih =>
    obtain ⟨s, hs⟩ := hx x List.mem_cons_self
    obtain ⟨ss, hss⟩ := ih fun y hy => hx y (List.mem_cons_of_mem x hy)
    exact ⟨s :: ss, .cons hs hss⟩

/-- Lists of predicates that are met by the same letters at every position are met by
the same words, one letter a predicate. -/
theorem same_words_of_forall₂ {xs : List α} {ys : List β}
    (h : List.Forall₂ (fun x y => ∀ s, P s x ↔ Q s y) xs ys) (ss : List σ) :
    List.Forall₂ P ss xs ↔ List.Forall₂ Q ss ys := by
  induction h generalizing ss with
  | nil => rw [List.forall₂_nil_right_iff, List.forall₂_nil_right_iff]
  | cons hxy _ ih =>
    cases ss with
    | nil => exact iff_of_false nofun nofun
    | cons s ss => rw [List.forall₂_cons, List.forall₂_cons, hxy s, ih ss]

/-- Conversely, if each predicate is met by some letter. -/
theorem forall₂_of_same_words {xs : List α} {ys : List β} (hx : ∀ x ∈ xs, ∃ s, P s x)
    (hy : ∀ y ∈ ys, ∃ s, Q s y) (h : ∀ ss, List.Forall₂ P ss xs ↔ List.Forall₂ Q ss ys) :
    List.Forall₂ (fun x y => ∀ s, P s x ↔ Q s y) xs ys := by
  induction xs generalizing ys with
  | nil =>
    cases (h []).1 .nil
    exact .nil
  | cons x xs ih =>
    have hx' := fun z hz => hx z (List.mem_cons_of_mem x hz)
    obtain ⟨s, hs⟩ := hx x List.mem_cons_self
    obtain ⟨ss, hss⟩ := exists_forall₂ hx'
    cases ys with
    | nil => cases (h _).1 (.cons hs hss)
    | cons y ys =>
      have hy' := fun z hz => hy z (List.mem_cons_of_mem y hz)
      obtain ⟨t, ht⟩ := hy y List.mem_cons_self
      obtain ⟨ts, hts⟩ := exists_forall₂ hy'
      -- A letter is tried in front of a word for the rest, a rest behind a first letter.
      refine .cons (fun u => ⟨fun hu => ?_, fun hu => ?_⟩) (ih hx' hy' fun us => ⟨?_, ?_⟩)
      · exact (List.forall₂_cons.1 ((h _).1 (.cons hu hss))).1
      · exact (List.forall₂_cons.1 ((h _).2 (.cons hu hts))).1
      · exact fun hus => (List.forall₂_cons.1 ((h _).1 (.cons hs hus))).2
      · exact fun hus => (List.forall₂_cons.1 ((h _).2 (.cons ht hus))).2

end Words

/-! ## Paths and patterns -/

namespace Pattern

/-- Patterns that accept the same paths. -/
def AcceptsSame (p q : Pattern) : Prop :=
  ∀ path, (p.match? path).isSome = true ↔ (q.match? path).isSome = true

theorem isSome_bindAll_iff {items : List Item} {segments : List String} :
    (bindAll items segments).isSome = true ↔
      List.Forall₂ (fun segment x => Item.accepts x segment = true) segments items := by
  induction items generalizing segments with
  | nil => cases segments <;> simp [bindAll]
  | cons x items ih =>
    cases segments with
    | nil => cases x <;> simp [bindAll]
    | cons segment segments =>
      cases x with
      | literal text => by_cases h : text = segment <;> simp [bindAll, Item.accepts, h, ih]
      | parameter name type =>
        cases hv : type.convert segment <;> simp [bindAll, Item.accepts, hv, ih]

variable {p q : Pattern}

/-- A pattern accepts the paths whose segments meet its items. -/
theorem isSome_match?_iff {path : String} :
    (p.match? path).isSome = true ↔ List.Forall₂ Item.Meets (Segment.split path) p.items := by
  have hpossible : ∀ s ∈ Segment.split path, Segment.Possible s :=
    fun _ => Segment.possible_of_mem_split
  rw [match?, matchSegments?, Option.isSome_map, isSome_bindAll_iff]
  exact ⟨fun h => (List.forall₂_and_left _ _).2 ⟨hpossible, h⟩,
    fun h => ((List.forall₂_and_left _ _).1 h).2⟩

/-- Segments that meet the items of a pattern are those of a path. -/
theorem split_join_of_meets {segments : List String}
    (h : List.Forall₂ Item.Meets segments p.items) :
    Segment.split (Segment.join segments) = segments :=
  Segment.split_join ((List.forall₂_and_left _ _).1 h).1

theorem AcceptsSame.symm (h : p.AcceptsSame q) : q.AcceptsSame p := fun path => (h path).symm

theorem AcceptsSame.meets (h : p.AcceptsSame q) {segments : List String}
    (hp : List.Forall₂ Item.Meets segments p.items) : List.Forall₂ Item.Meets segments q.items := by
  have hsplit := split_join_of_meets hp
  have hmatch := (h (Segment.join segments)).1 (isSome_match?_iff.2 (by rwa [hsplit]))
  rwa [isSome_match?_iff, hsplit] at hmatch

/-- Patterns of standard items accept the same paths exactly when their items differ in
their names at most. -/
theorem acceptsSame_iff (hp : ∀ x ∈ p.items, x.Standard) (hq : ∀ y ∈ q.items, y.Standard) :
    p.AcceptsSame q ↔ List.Forall₂ Item.Agrees p.items q.items := by
  have hagrees : List.Forall₂ (fun x y => ∀ s, Item.Meets s x ↔ Item.Meets s y) p.items q.items ↔
      List.Forall₂ Item.Agrees p.items q.items := by
    rw [List.forall₂_iff_get, List.forall₂_iff_get]
    refine and_congr_right fun _ => forall₃_congr fun i hi hi' => ?_
    exact Item.meets_iff_iff_agrees (hp _ (List.get_mem _ _)) (hq _ (List.get_mem _ _))
  rw [← hagrees]
  constructor
  · intro h
    exact forall₂_of_same_words (fun x hx => (hp x hx).exists_meets)
      (fun y hy => (hq y hy).exists_meets) fun _ => ⟨h.meets, h.symm.meets⟩
  · intro h path
    rw [isSome_match?_iff, isSome_match?_iff]
    exact same_words_of_forall₂ h _

/-- Items are equal when they differ in their names at most, and the names are the same. -/
theorem beq_iff_agrees : (p == q) = true ↔
    List.Forall₂ Item.Agrees p.items q.items ∧ p.names = q.names := by
  rw [beq_iff]
  constructor
  · intro h
    exact ⟨h.imp fun _ _ => Item.agrees_of_beq, Template.names_eq_of_beq h⟩
  · rintro ⟨h, hnames⟩
    rw [names, names] at hnames
    generalize p.items = xs, q.items = ys at h hnames
    induction h with
    | nil => exact .nil
    | cons hxy _ ih =>
      cases hxy with
      | literal => exact .cons (Item.literal_beq_literal.2 rfl) (ih hnames)
      | parameter tag =>
        obtain ⟨rfl, hrest⟩ := List.cons.inj hnames
        exact .cons (Item.parameter_beq_parameter.2 ⟨rfl, tag⟩) (ih hrest)

end Pattern

/-! ## Standard templates -/

theorem Template.standard_of_parse {template : String} {p : Pattern}
    (h : parse .standard template = .ok p) : ∀ x ∈ p.items, x.Standard := by
  intro x hx
  obtain ⟨s, hs, hwrites⟩ := exists_mem_of_forall₂ (parse_eq_ok_iff_spells.1 h).2.written hx
  cases hwrites with
  | literal plain => exact .literal (Segment.possible_of_mem_split hs)
  | untagged enclosable colon named => exact .string
  | @tagged name tag type enclosable colon known named =>
    -- The one type of the standard registry is `int`.
    rw [Registry.standard, Registry.resolve?_register] at known
    split at known
    · obtain rfl := Option.some.inj known
      exact .int
    · cases known

namespace Table

variable {t : Table} {r s : Route} {a : Addition}

/-! ## Main theorem -/

/-- In a table whose routes are all registered with the standard types, a new route
comes with a warning exactly when a route of its method accepts the same paths and its
parameters have the same names, in order. -/
theorem warned_iff_same_paths_and_names (order : Order) (before : List Change) (c : Change)
    (a : Addition) (hadds : c.addition? (built order before).registry = some a)
    (hread : (built order (before ++ [c])).ReadByStandard) :
    (built order before).eventsOf c ≠ [] ↔
      ∃ r ∈ (built order before).routes, r.method = a.method ∧
        r.pattern.AcceptsSame a.pattern ∧ r.pattern.names = a.pattern.names := by
  have hroutes : (built order (before ++ [c])).routes =
      (built order before).routes ++ [a.route (built order before).size] := by
    rw [built, run_append]
    exact routes_apply hadds
  have hstandard : ∀ r ∈ (built order (before ++ [c])).routes, ∀ x ∈ r.pattern.items, x.Standard :=
    fun r hr => Template.standard_of_parse (hread r hr)
  have hnew : ∀ x ∈ a.pattern.items, x.Standard :=
    hstandard (a.route (built order before).size) (by simp [hroutes])
  rw [eventsOf_ne_nil_iff hadds]
  refine exists_congr fun r => and_congr_right fun hr => ?_
  rw [Pattern.acceptsSame_iff (hstandard r (by simp [hroutes, hr])) hnew,
    ← Pattern.beq_iff_agrees]
  exact ⟨fun h => ⟨h.method, h.pattern⟩, fun h => ⟨h.1, h.2⟩⟩

/-- A route with other slashes accepts the same paths under the same names. -/
theorem user_again_warned :
    registerUserAgain.addition? (built .specificity [registerUser]).registry = some userAgain ∧
    (built .specificity ([registerUser] ++ [registerUserAgain])).ReadByStandard ∧
    (built .specificity [registerUser]).eventsOf registerUserAgain ≠ [] := by
  have hadds : registerUserAgain.addition? (built .specificity [registerUser]).registry =
      some userAgain := rfl
  have hread : (built .specificity ([registerUser] ++ [registerUserAgain])).ReadByStandard :=
    readByStandard_built .specificity (by simp [registerUser, registerUserAgain, Change.IsStandard])
  refine ⟨hadds, hread,
    (warned_iff_same_paths_and_names .specificity [registerUser] _ _ hadds hread).2 ?_⟩
  exact ⟨_, List.mem_singleton.2 rfl, rfl, fun path => Iff.rfl, rfl⟩

/-- The route to users with another name for its parameter. -/
def userRenamed : Addition :=
  ⟨.get, ⟨"users/\x7bnumber:int\x7d", [.literal "users", .parameter "number" .int]⟩, "renamed"⟩

def registerUserRenamed : Change := .register .get "users/\x7bnumber:int\x7d" "renamed"

/-- A route that accepts the same paths under another name is never found, but it comes
without a warning. -/
theorem renamed_duplicate_is_silent :
    registerUserRenamed.addition? (built .specificity [registerUser]).registry = some userRenamed ∧
    (built .specificity ([registerUser] ++ [registerUserRenamed])).ReadByStandard ∧
    (∃ r ∈ (built .specificity [registerUser]).routes, r.method = userRenamed.method ∧
      r.pattern.AcceptsSame userRenamed.pattern) ∧
    ¬ (built .specificity ([registerUser] ++ [registerUserRenamed])).Reaches
      (userRenamed.route 1) ∧
    (built .specificity [registerUser]).eventsOf registerUserRenamed = [] := by
  have hread : (built .specificity ([registerUser] ++ [registerUserRenamed])).ReadByStandard :=
    readByStandard_built .specificity
      (by simp [registerUser, registerUserRenamed, Change.IsStandard])
  have hroutes : (built .specificity ([registerUser] ++ [registerUserRenamed])).routes =
      [user.route 0, userRenamed.route 1] := rfl
  have huser : user.route 0 ∈
      (built .specificity ([registerUser] ++ [registerUserRenamed])).routes := by
    rw [hroutes]
    exact List.mem_cons_self
  have hrenamed : userRenamed.route 1 ∈
      (built .specificity ([registerUser] ++ [registerUserRenamed])).routes := by
    rw [hroutes]
    exact List.mem_cons_of_mem _ List.mem_cons_self
  have hsame : user.pattern.AcceptsSame userRenamed.pattern :=
    (Pattern.acceptsSame_iff (Template.standard_of_parse (hread _ huser))
      (Template.standard_of_parse (hread _ hrenamed))).2
      (.cons .literal (.cons (.parameter rfl) .nil))
  refine ⟨rfl, hread, ⟨user.route 0, List.mem_singleton.2 rfl, rfl, hsame⟩, ?_, rfl⟩
  exact (sound_built _ _).not_reaches huser rfl rfl (by decide) fun path => (hsame path).2

end Table

end Signpost
