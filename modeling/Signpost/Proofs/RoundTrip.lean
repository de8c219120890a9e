import Signpost.Proofs.Grammar
/-!
# Canonical templates

The canonical text of a list of items reads back as a pattern equal to theirs exactly
when a template could have spelled each of them and no name repeats (`Canonical`).
Every pattern that was read is of that kind, so writing it and reading it again
changes nothing (`reads_back_iff`). Patterns are compared as always, parameter types
by their tags; without a registered tag `string` the very same items come back
(`parse_render`).
-/

namespace Signpost

/-! ## Equal items -/

namespace Item

variable {x y : Item}

@[simp] theorem literal_beq_literal {s t : String} : (literal s == literal t) = true ↔ s = t :=
  beq_iff_eq (a := s)

@[simp] theorem parameter_beq_parameter {m n : String} {s t : ParamType} :
    (parameter m s == parameter n t) = true ↔ m = n ∧ s.tag = t.tag := by
  show (m == n && s.tag == t.tag) = true ↔ m = n ∧ s.tag = t.tag
  simp

instance : ReflBEq Item where
  rfl {x} := by
    cases x with
    | literal text => exact literal_beq_literal.2 rfl
    | parameter name type => exact parameter_beq_parameter.2 ⟨rfl, rfl⟩

/-- Equal items are one literal twice, or two parameters of one name and one tag. -/
theorem beq_cases (h : (x == y) = true) :
    (∃ text, x = literal text ∧ y = literal text) ∨
      ∃ name s t, x = parameter name s ∧ y = parameter name t ∧ s.tag = t.tag := by
  cases x with
  | literal s =>
    cases y with
    | literal t =>
      obtain rfl := literal_beq_literal.1 h
      exact .inl ⟨s, rfl, rfl⟩
    | parameter n t => cases h
  | parameter m s =>
    cases y with
    | literal t => cases h
    | parameter n t =>
      obtain ⟨rfl, ht⟩ := parameter_beq_parameter.1 h
      exact .inr ⟨m, s, t, rfl, rfl, ht⟩

theorem render_eq_of_beq (h : (x == y) = true) : x.render = y.render := by
  obtain ⟨text, rfl, rfl⟩ | ⟨name, s, t, rfl, rfl, ht⟩ := beq_cases h
  · rfl
  · simp [render, ParamType.isString, ht]

theorem name?_eq_of_beq (h : (x == y) = true) : x.name? = y.name? := by
  obtain ⟨text, rfl, rfl⟩ | ⟨name, s, t, rfl, rfl, -⟩ := beq_cases h <;> rfl

/-- What the canonical text of an item stands for: a parameter of tag `string` loses its
tag, and so gets the type of parameters without one. -/
def reread : Item → Item
  | .literal text => .literal text
  | .parameter name type => .parameter name (if type.tag = "string" then .string else type)

theorem name?_reread (x : Item) : x.reread.name? = x.name? := by
  cases x <;> rfl

end Item

/-- What the canonical text of a pattern stands for. -/
def Pattern.reread (p : Pattern) : Pattern := ⟨p.render, p.items.map Item.reread⟩

/-- Patterns are equal when their items are, one by one. -/
theorem Pattern.beq_iff {p q : Pattern} :
    (p == q) = true ↔ List.Forall₂ (· == ·) p.items q.items := by
  show (p.items == q.items) = true ↔ _
  generalize p.items = xs, q.items = ys
  induction xs generalizing ys with
  | nil => cases ys <;> simp
  | cons x xs ih => cases ys <;> simp [ih]

theorem Pattern.render_eq_of_beq {p q : Pattern} (h : (p == q) = true) : p.render = q.render := by
  have hmap : p.items.map Item.render = q.items.map Item.render := by
    rw [← List.forall₂_eq_eq_eq, List.forall₂_map_left_iff, List.forall₂_map_right_iff]
    exact (beq_iff.1 h).imp fun _ _ => Item.render_eq_of_beq
  exact congrArg Segment.join hmap

/-- In two lists side by side, each element on the right has one on the left. -/
theorem exists_mem_of_forall₂ {α β : Type} {R : α → β → Prop} {xs : List α} {ys : List β}
    (h : List.Forall₂ R xs ys) {y : β} (hy : y ∈ ys) : ∃ x ∈ xs, R x y := by
  induction h with
  | nil => cases hy
  | @cons a b xs ys hab _ ih =>
    rcases List.mem_cons.1 hy with rfl | hy
    · exact ⟨a, List.mem_cons_self, hab⟩
    · obtain ⟨x, hx, hxy⟩ := ih hy
      exact ⟨x, List.mem_cons_of_mem _ hx, hxy⟩

namespace Template

variable {registry : Registry} {s : String} {item : Item} {items : List Item}

/-! ## Items that templates can have -/

/-- Text with none of the given characters. -/
def FreeOf (marks : List Char) (s : String) : Prop := ∀ c ∈ s.toList, c ∉ marks

/-- Items that some segment can write. What is written for a parameter of tag `string`
is its name alone, so that tag need not be known. -/
def Writable (registry : Registry) : Item → Prop
  | .literal text => text ≠ "" ∧ FreeOf ['/', '\x7b', '\x7d', ':'] text
  | .parameter name type =>
    name ≠ "" ∧ FreeOf ['/', '\x7b', '\x7d', ':', '\n'] name ∧
      (type.tag = "string" ∨
        registry.contains type.tag = true ∧ FreeOf ['/', '\x7b', '\x7d', '\n'] type.tag)

/-- Items that a template can have all together. -/
structure Canonical (registry : Registry) (items : List Item) : Prop where
  writable : ∀ item ∈ items, Writable registry item
  nodup : (Item.names items).Nodup

/-! ## Text without marks -/

section FreeOf

variable {marks : List Char} {a b : String}

theorem freeOf_cons {mark : Char} :
    FreeOf (mark :: marks) a ↔ mark ∉ a.toList ∧ FreeOf marks a := by
  simp only [FreeOf, List.mem_cons, not_or, forall_and]
  exact and_congr_left fun _ => ⟨fun h hm => h mark hm rfl, fun h c hc he => h (he ▸ hc)⟩

theorem freeOf_nil : FreeOf [] a := by simp [FreeOf]

theorem plain_iff : Plain a ↔ '\x7b' ∉ a.toList ∧ '\x7d' ∉ a.toList ∧ ':' ∉ a.toList := by
  have h : Plain a ↔ FreeOf ['\x7b', '\x7d', ':'] a := by simp [Plain, FreeOf]
  simp only [h, freeOf_cons, freeOf_nil, and_true]

theorem enclosable_iff :
    Enclosable a ↔ '\x7b' ∉ a.toList ∧ '\x7d' ∉ a.toList ∧ '\n' ∉ a.toList := by
  have h : Enclosable a ↔ FreeOf ['\x7b', '\x7d', '\n'] a := by simp [Enclosable, FreeOf]
  simp only [h, freeOf_cons, freeOf_nil, and_true]

theorem mem_placeholder {c : Char} :
    c ∈ (placeholder a).toList ↔ c = '\x7b' ∨ c ∈ a.toList ∨ c = '\x7d' := by
  simp [toList_placeholder]

theorem enclosable_tagged_iff : Enclosable (a ++ ":" ++ b) ↔ Enclosable a ∧ Enclosable b := by
  simp only [enclosable_iff, toList_tagged, List.mem_append, List.mem_cons]
  simp
  tauto

end FreeOf

/-! ## Writing what was read -/

theorem tag_eq_of_resolve? {tag : String} {type : ParamType}
    (h : registry.resolve? tag = some type) : type.tag = tag := by
  simpa using List.find?_some h

/-- What a segment writes can be written. -/
theorem Writes.writable (h : Writes registry s item) (hne : s ≠ "") (hslash : '/' ∉ s.toList) :
    Writable registry item := by
  cases h with
  | literal plain =>
    rw [plain_iff] at plain
    exact ⟨hne, by simpa [freeOf_cons, freeOf_nil] using ⟨hslash, plain⟩⟩
  | untagged enclosable colon named =>
    rw [enclosable_iff] at enclosable
    simp only [mem_placeholder, not_or] at hslash
    refine ⟨named, ?_, .inl rfl⟩
    simpa [freeOf_cons, freeOf_nil] using
      ⟨hslash.2.1, enclosable.1, enclosable.2.1, colon, enclosable.2.2⟩
  | tagged enclosable colon known named =>
    obtain rfl := tag_eq_of_resolve? known
    rw [enclosable_tagged_iff, enclosable_iff, enclosable_iff] at enclosable
    simp only [mem_placeholder, toList_tagged, List.mem_append, List.mem_cons, not_or] at hslash
    refine ⟨named, ?_, .inr ⟨by simp [Registry.contains, known], ?_⟩⟩
    · simp only [freeOf_cons, freeOf_nil]
      tauto
    · simp only [freeOf_cons, freeOf_nil]
      tauto

theorem render_of_tag_eq {name : String} {type : ParamType} (h : type.tag = "string") :
    (Item.parameter name type).render = placeholder name := by
  simp [Item.render, ParamType.isString, h, placeholder]

theorem render_of_tag_ne {name : String} {type : ParamType} (h : type.tag ≠ "string") :
    (Item.parameter name type).render = placeholder (name ++ ":" ++ type.tag) := by
  simp [Item.render, ParamType.isString, h, placeholder, String.append_assoc]

theorem placeholder_ne_empty (inner : String) : placeholder inner ≠ "" := by
  intro h
  simpa [toList_placeholder] using congrArg String.toList h

/-- The text of what can be written is a segment. -/
theorem Writable.isSegment_render (h : Writable registry item) :
    item.render ≠ "" ∧ '/' ∉ item.render.toList := by
  cases item with
  | literal text =>
    obtain ⟨hne, hfree⟩ := h
    exact ⟨hne, (freeOf_cons.1 hfree).1⟩
  | parameter name type =>
    obtain ⟨-, hname, htag⟩ := h
    have hslash : '/' ∉ name.toList := (freeOf_cons.1 hname).1
    by_cases hs : type.tag = "string"
    · rw [render_of_tag_eq hs]
      exact ⟨placeholder_ne_empty _, by simp [mem_placeholder, hslash]⟩
    · have htag' := (freeOf_cons.1 (htag.resolve_left hs).2).1
      rw [render_of_tag_ne hs]
      exact ⟨placeholder_ne_empty _, by simp [mem_placeholder, hslash, htag']⟩

/-- The text of what can be written writes it again. -/
theorem Writable.exists_writes (h : Writable registry item) :
    ∃ again, Writes registry item.render again ∧ (again == item) = true := by
  cases item with
  | literal text =>
    simp only [Writable, freeOf_cons, freeOf_nil] at h
    exact ⟨_, .literal (plain_iff.2 (by tauto)), Item.literal_beq_literal.2 rfl⟩
  | parameter name type =>
    obtain ⟨hne, hname, htag⟩ := h
    simp only [freeOf_cons, freeOf_nil] at hname htag
    by_cases hs : type.tag = "string"
    · rw [render_of_tag_eq hs]
      exact ⟨_, .untagged (enclosable_iff.2 (by tauto)) (by tauto) hne,
        Item.parameter_beq_parameter.2 ⟨rfl, hs.symm⟩⟩
    · obtain ⟨hknown, htag⟩ := htag.resolve_left hs
      obtain ⟨type', hr⟩ := Option.isSome_iff_exists.1 hknown
      have he : Enclosable (name ++ ":" ++ type.tag) := by
        rw [enclosable_tagged_iff, enclosable_iff, enclosable_iff]
        tauto
      rw [render_of_tag_ne hs]
      exact ⟨_, .tagged he (by tauto) hr hne,
        Item.parameter_beq_parameter.2 ⟨rfl, tag_eq_of_resolve? hr⟩⟩

theorem Writable.of_beq {x y : Item} (h : Writable registry x) (he : (x == y) = true) :
    Writable registry y := by
  obtain ⟨text, rfl, rfl⟩ | ⟨name, s, t, rfl, rfl, ht⟩ := Item.beq_cases he
  · exact h
  · simpa only [Writable, ht] using h

/-! ## Lists of items -/

theorem names_eq_of_beq {xs ys : List Item} (h : List.Forall₂ (· == ·) xs ys) :
    Item.names xs = Item.names ys := by
  induction h with
  | nil => rfl
  | cons hxy _ ih => rw [Item.names_cons, Item.names_cons, Item.name?_eq_of_beq hxy, ih]

theorem Canonical.of_beq {xs ys : List Item} (h : Canonical registry xs)
    (he : List.Forall₂ (· == ·) xs ys) : Canonical registry ys := by
  refine ⟨fun y hy => ?_, names_eq_of_beq he ▸ h.nodup⟩
  obtain ⟨x, hx, hxy⟩ := exists_mem_of_forall₂ he hy
  exact (h.writable x hx).of_beq hxy

/-- The segments of a canonical template are the texts of the items. -/
theorem Canonical.split_render (h : Canonical registry items) :
    Segment.split (Pattern.ofItems items).render = items.map Item.render := by
  refine Segment.split_join fun s hs => ?_
  obtain ⟨item, hi, rfl⟩ := List.mem_map.1 hs
  exact (h.writable item hi).isSegment_render

/-- Every pattern that was read has canonical items. -/
theorem canonical_of_parse {template : String} {p : Pattern}
    (h : parse registry template = .ok p) : Canonical registry p.items := by
  obtain ⟨-, hw, hn⟩ := parse_eq_ok_iff_spells.1 h
  refine ⟨fun item hi => ?_, hn⟩
  obtain ⟨s, hs, hsi⟩ := exists_mem_of_forall₂ hw hi
  exact hsi.writable (Segment.mem_split.1 hs).1 (Segment.slash_not_mem_of_mem_split hs)

theorem exists_forall₂_writes (h : ∀ item ∈ items, Writable registry item) :
    ∃ again, List.Forall₂ (Writes registry) (items.map Item.render) again ∧
      List.Forall₂ (· == ·) again items := by
  induction items with
  | nil => exact ⟨[], .nil, .nil⟩
  | cons item items ih =>
    obtain ⟨first, hw, he⟩ := (h item List.mem_cons_self).exists_writes
    obtain ⟨rest, hws, hes⟩ := ih fun other ho => h other (List.mem_cons_of_mem _ ho)
    exact ⟨first :: rest, .cons hw hws, .cons he hes⟩

/-- Canonical items are read back from their text. -/
theorem Canonical.exists_parse (h : Canonical registry items) :
    ∃ p, parse registry (Pattern.ofItems items).render = .ok p ∧
      (p == Pattern.ofItems items) = true := by
  obtain ⟨again, hw, he⟩ := exists_forall₂_writes h.writable
  refine ⟨⟨_, again⟩, parse_eq_ok_iff_spells.2 ⟨rfl, ?_, ?_⟩, Pattern.beq_iff.2 he⟩
  · rwa [h.split_render]
  · exact names_eq_of_beq he ▸ h.nodup

/-! ## Reading canonical templates -/

/-- The text of what a segment writes, and what it writes again. -/
theorem Writes.reread (h : Writes registry s item) : Writes registry item.render item.reread := by
  cases h with
  | literal plain => exact .literal plain
  | untagged enclosable colon named =>
    rw [render_of_tag_eq rfl]
    exact .untagged enclosable colon named
  | @tagged name tag type enclosable colon known named =>
    obtain rfl := tag_eq_of_resolve? known
    by_cases hs : type.tag = "string"
    · rw [render_of_tag_eq hs, Item.reread, if_pos hs]
      exact .untagged (enclosable_tagged_iff.1 enclosable).1 colon named
    · rw [render_of_tag_ne hs, Item.reread, if_neg hs]
      exact .tagged enclosable colon known named

/-- Without a registered tag `string`, what is written again is the same. -/
theorem Writes.reread_eq (h : Writes registry s item) (hs : registry.resolve? "string" = none) :
    item.reread = item := by
  cases h with
  | literal plain => rfl
  | untagged enclosable colon named => rfl
  | @tagged name tag type enclosable colon known named =>
    obtain rfl := tag_eq_of_resolve? known
    refine congrArg (Item.parameter name) (if_neg fun he => ?_)
    rw [he, hs] at known
    cases known

theorem names_reread (items : List Item) :
    Item.names (items.map Item.reread) = Item.names items := by
  rw [Item.names, Item.names, List.filterMap_map]
  exact congrArg (List.filterMap · items) (funext Item.name?_reread)

/-- The canonical text of a pattern that was read can be read. -/
theorem parse_render_eq {template : String} {p : Pattern}
    (h : parse registry template = .ok p) : parse registry p.render = .ok p.reread := by
  have hsplit : Segment.split p.render = p.items.map Item.render :=
    (canonical_of_parse h).split_render
  obtain ⟨-, hwritten, hnodup⟩ := parse_eq_ok_iff_spells.1 h
  refine parse_eq_ok_iff_spells.2 ⟨rfl, ?_, by rwa [Pattern.reread, names_reread]⟩
  rw [hsplit, Pattern.reread, List.forall₂_map_left_iff, List.forall₂_map_right_iff,
    List.forall₂_same]
  intro item hitem
  obtain ⟨s, -, hwrites⟩ := exists_mem_of_forall₂ hwritten hitem
  exact hwrites.reread

/-- Without a registered tag `string`, the very items of a pattern that was read are
read back from its canonical text. -/
theorem parse_render (hs : registry.resolve? "string" = none) {template : String} {p : Pattern}
    (h : parse registry template = .ok p) : parse registry p.render = .ok ⟨p.render, p.items⟩ := by
  have hitems : p.items.map Item.reread = p.items := by
    refine (List.map_congr_left fun item hitem => ?_).trans (List.map_id _)
    obtain ⟨s, -, hwrites⟩ := exists_mem_of_forall₂ (parse_eq_ok_iff_spells.1 h).2.written hitem
    exact hwrites.reread_eq hs
  rw [parse_render_eq h, Pattern.reread, hitems]

/-! ## Main theorem -/

/-- The canonical text of items reads back as a pattern equal to theirs exactly when
the items are canonical. The items of every pattern that was read are, so its
canonical text reads back as an equal pattern with that same text. -/
theorem reads_back_iff (registry : Registry) :
    (∀ items, (∃ p, parse registry (Pattern.ofItems items).render = .ok p ∧
      (p == Pattern.ofItems items) = true) ↔ Canonical registry items) ∧
    ∀ template p, parse registry template = .ok p →
      Canonical registry p.items ∧
      ∃ q, parse registry p.render = .ok q ∧ (q == p) = true ∧ q.render = p.render := by
  constructor
  · intro items
    constructor
    · rintro ⟨p, hp, he⟩
      exact (canonical_of_parse hp).of_beq (Pattern.beq_iff.1 he)
    · exact Canonical.exists_parse
  · intro template p hp
    have hc := canonical_of_parse hp
    obtain ⟨q, hq, he⟩ := hc.exists_parse
    -- The pattern of the items has the text of `p` and is equal to it.
    exact ⟨hc, q, hq, he, Pattern.render_eq_of_beq he⟩

/-- Slashes too many are lost on the way, and nothing else. -/
theorem users_by_id_reads_back :
    parse .standard "/users//\x7bid:int\x7d/" =
      .ok ⟨"/users//\x7bid:int\x7d/", [.literal "users", .parameter "id" .int]⟩ ∧
    Canonical .standard [.literal "users", .parameter "id" .int] ∧
    ∃ q, parse .standard "users/\x7bid:int\x7d" = .ok q ∧ q.render = "users/\x7bid:int\x7d" := by
  have hp : parse .standard "/users//\x7bid:int\x7d/" =
      .ok ⟨"/users//\x7bid:int\x7d/", [.literal "users", .parameter "id" .int]⟩ := by rfl
  obtain ⟨hc, q, hq, -, hr⟩ := (reads_back_iff .standard).2 _ _ hp
  exact ⟨hp, hc, q, hq, hr⟩

end Template

end Signpost
