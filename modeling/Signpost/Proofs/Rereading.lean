import Signpost.Proofs.Positions
/-!
# Canonical templates read again

The canonical text of a pattern that was read gives a pattern again, with the same items
but for one thing: a parameter of tag `string` loses its tag and so gets the type of
parameters without one. Paths match as before as long as the tag was not registered with
a converter of its own (`reread_matches_iff`).
-/

namespace Signpost

/-- A path of one segment. -/
theorem Segment.Possible.split_eq {s : String} (h : Possible s) : split s = [s] := by
  have hall : ∀ t ∈ [s], t ≠ "" ∧ '/' ∉ t.toList := by
    intro t ht
    rw [List.mem_singleton] at ht
    exact ht ▸ h
  simpa [join] using split_join hall

namespace Item

/-- Whether an item of tag `string` takes a segment as it is. -/
def KeepsText (segment : String) : Item → Prop
  | .literal _ => True
  | .parameter _ type => type.tag = "string" → type.convert segment = some (.text segment)

/-- An item accepts no more than what its text stands for. -/
theorem accepts_reread {x : Item} {segment : String} (h : x.accepts segment = true) :
    x.reread.accepts segment = true := by
  cases x with
  | literal text => exact h
  | parameter name type =>
    simp only [reread, accepts]
    split
    · rfl
    · exact h

end Item

namespace Pattern

variable {items : List Item} {segments : List String}
  {entries : List (String × Value)}

/-! ## Matching again -/

/-- Segments that match again are bound as before exactly when all parameters of tag
`string` take theirs as they are. -/
theorem bindAll_eq_some_iff_keepsText
    (h : bindAll (items.map Item.reread) segments = some entries) :
    bindAll items segments = some entries ↔ List.Forall₂ Item.KeepsText segments items := by
  induction items generalizing segments entries with
  | nil =>
    cases segments with
    | nil => exact iff_of_true h .nil
    | cons segment segments => cases h
  | cons x items ih =>
    cases segments with
    | nil => cases x <;> cases h
    | cons segment segments =>
      rw [List.forall₂_cons]
      cases x with
      | literal text =>
        obtain ⟨rfl, hrest⟩ := bindAll_literal_eq_some_iff.1 h
        rw [bindAll_literal_eq_some_iff, ih hrest]
        simp [Item.KeepsText]
      | parameter name type =>
        obtain ⟨value, rest, hvalue, hrest, rfl⟩ := bindAll_parameter_eq_some_iff.1 h
        rw [bindAll_parameter_eq_some_iff, ← ih hrest]
        by_cases hs : type.tag = "string"
        · rw [if_pos hs] at hvalue
          obtain rfl := Option.some.inj hvalue
          simp [Item.KeepsText, hs]
        · rw [if_neg hs] at hvalue
          simp [Item.KeepsText, hs, hvalue]

/-- What matches a pattern matches it when it is read again. -/
theorem isSome_match?_reread {p : Pattern} {path : String} (h : (p.match? path).isSome = true) :
    (p.reread.match? path).isSome = true := by
  rw [isSome_match?_iff] at h ⊢
  rw [reread, List.forall₂_map_right_iff]
  exact h.imp fun _ _ hmeets => ⟨hmeets.1, Item.accepts_reread hmeets.2⟩

/-- A path is matched as before unless a parameter of tag `string` changed its segment. -/
theorem match?_reread_iff (p : Pattern) (path : String) :
    p.reread.match? path = p.match? path ↔ ((p.reread.match? path).isSome = true →
      List.Forall₂ Item.KeepsText (Segment.split path) p.items) := by
  cases hagain : p.reread.match? path with
  | none =>
    have hnone : p.match? path = none := by
      rw [← Option.not_isSome_iff_eq_none]
      intro hsome
      have hsome' := isSome_match?_reread hsome
      rw [hagain] at hsome'
      cases hsome'
    simp [hnone]
  | some b =>
    have hkeeps := bindAll_eq_some_iff_keepsText (match?_eq_some_iff_bindAll.1 hagain)
    rw [← hkeeps, ← match?_eq_some_iff_bindAll, eq_comm]
    simp

end Pattern

namespace Template

variable {registry : Registry} {template : String} {p : Pattern}

/-! ## Registries that keep the meaning -/

/-- A registry without a tag `string`, or with one that takes every segment as it is. -/
def KeepsTexts (registry : Registry) : Prop :=
  ∀ type, registry.resolve? "string" = some type →
    ∀ segment, Segment.Possible segment → type.convert segment = some (.text segment)

theorem KeepsTexts.keepsText (hkeeps : KeepsTexts registry)
    (h : parse registry template = .ok p) {x : Item} (hx : x ∈ p.items) {segment : String}
    (hpossible : Segment.Possible segment) : x.KeepsText segment := by
  obtain ⟨s, -, hwrites⟩ := exists_mem_of_forall₂ (parse_eq_ok_iff_spells.1 h).2.written hx
  cases hwrites with
  | literal plain => trivial
  | untagged enclosable colon named => exact fun _ => rfl
  | tagged enclosable colon known named =>
    obtain rfl := tag_eq_of_resolve? known
    intro hs
    rw [hs] at known
    exact hkeeps _ known segment hpossible

/-- Where the tag `string` keeps segments as they are, patterns are matched as before when
they are read again. -/
theorem KeepsTexts.match?_reread (hkeeps : KeepsTexts registry)
    (h : parse registry template = .ok p) (path : String) :
    p.reread.match? path = p.match? path := by
  refine (Pattern.match?_reread_iff p path).2 fun hsome => ?_
  have hmeets := Pattern.isSome_match?_iff.1 hsome
  rw [Pattern.reread, List.forall₂_map_right_iff, forall₂_iff_getElem?] at hmeets
  refine forall₂_iff_getElem?.2 ⟨hmeets.1, fun i segment x hs hx => ?_⟩
  exact hkeeps.keepsText h (List.mem_of_getElem? hx) (hmeets.2 i segment x hs hx).1

/-- The pattern of a parameter with the tag `string`. -/
def stringTagged (type : ParamType) : Pattern := ⟨"\x7ba:string\x7d", [.parameter "a" type]⟩

theorem parse_stringTagged {type : ParamType} (known : registry.resolve? "string" = some type) :
    parse registry "\x7ba:string\x7d" = .ok (stringTagged type) := by
  have hsplit : Segment.split "\x7ba:string\x7d" = [placeholder ("a" ++ ":" ++ "string")] := by
    decide
  have henclosable : Enclosable ("a" ++ ":" ++ "string") := all_isInner_iff.1 (by decide)
  refine parse_eq_ok_iff_spells.2 ⟨rfl, ?_, by simp [stringTagged, Item.names, Item.name?]⟩
  rw [hsplit]
  exact .cons (.tagged henclosable (by decide) known (by decide)) .nil

/-- A converter of the tag that changes a segment shows in the pattern of one parameter. -/
theorem convert_eq_of_match?_eq {type : ParamType} (htag : type.tag = "string") {segment : String}
    (hpossible : Segment.Possible segment)
    (h : (stringTagged type).reread.match? segment = (stringTagged type).match? segment) :
    type.convert segment = some (.text segment) := by
  have hsplit := hpossible.split_eq
  have hagain : ((stringTagged type).reread.match? segment).isSome = true := by
    have haccepts : (Item.parameter "a" type).reread.accepts segment = true := by
      rw [Item.reread, if_pos htag]
      rfl
    rw [Pattern.isSome_match?_iff, hsplit]
    exact .cons ⟨hpossible, haccepts⟩ .nil
  have hkeeps := (Pattern.match?_reread_iff _ _).1 h hagain
  rw [hsplit] at hkeeps
  cases hkeeps with
  | cons hkeep _ => exact hkeep htag

/-! ## Main theorem -/

/-- The canonical text of a pattern that was read is read by the same registry. A path then
matches as before, with the same bindings, unless it matches now and a parameter of tag
`string` does not take its segment as it is. So the registries that keep the meaning of all
templates are those in which no converter of that tag changes a segment. -/
theorem reread_matches_iff (registry : Registry) :
    (∀ template p, parse registry template = .ok p → ∃ q, parse registry p.render = .ok q ∧
      ∀ path, q.match? path = p.match? path ↔ ((q.match? path).isSome = true →
        List.Forall₂ Item.KeepsText (Segment.split path) p.items)) ∧
    ((∀ template p, parse registry template = .ok p → ∃ q, parse registry p.render = .ok q ∧
      ∀ path, q.match? path = p.match? path) ↔ KeepsTexts registry) := by
  refine ⟨fun template p hp => ⟨p.reread, parse_render_eq hp, Pattern.match?_reread_iff p⟩, ?_, ?_⟩
  · intro halike type known segment hpossible
    have hp := parse_stringTagged known
    obtain ⟨q, hq, hmatch⟩ := halike _ _ hp
    obtain rfl : (stringTagged type).reread = q :=
      Except.ok.inj ((parse_render_eq hp).symm.trans hq)
    exact convert_eq_of_match?_eq (tag_eq_of_resolve? known) hpossible (hmatch segment)
  · exact fun hkeeps template p hp => ⟨p.reread, parse_render_eq hp, hkeeps.match?_reread hp⟩

/-- A type that makes zero of every segment, under the tag `string`. -/
def zeroing : ParamType := ⟨"string", fun _ => some (.int 0)⟩

/-- The tag `string` registered with the type of parameters without a tag, and with another. -/
theorem tagged_rereads :
    parse (Registry.standard.register zeroing) "\x7ba:string\x7d" = .ok (stringTagged zeroing) ∧
    (∃ q, parse (Registry.standard.register zeroing) "\x7ba\x7d" = .ok q ∧
      q.match? "x" ≠ (stringTagged zeroing).match? "x" ∧
      q.match? "x/y" = (stringTagged zeroing).match? "x/y") ∧
    parse (Registry.standard.register .string) "\x7ba:string\x7d" = .ok (stringTagged .string) ∧
    ∃ q, parse (Registry.standard.register .string) "\x7ba\x7d" = .ok q ∧
      q.match? "x" = (stringTagged .string).match? "x" := by
  have hzero : parse (Registry.standard.register zeroing) "\x7ba:string\x7d" =
      .ok (stringTagged zeroing) := rfl
  have hstring : parse (Registry.standard.register .string) "\x7ba:string\x7d" =
      .ok (stringTagged .string) := rfl
  have hkeeps : KeepsTexts (Registry.standard.register .string) := by
    intro type known segment _
    obtain rfl : ParamType.string = type := Option.some.inj known
    rfl
  obtain ⟨q, hq, halike⟩ := (reread_matches_iff _).1 _ _ hzero
  obtain rfl : (stringTagged zeroing).reread = q :=
    Except.ok.inj ((parse_render_eq hzero).symm.trans hq)
  refine ⟨hzero, ⟨_, hq, ?_, ?_⟩, hstring, ?_⟩
  · decide
  · exact (halike "x/y").2 fun hsome => absurd hsome (by decide)
  · obtain ⟨r, hr, hsame⟩ := (reread_matches_iff _).2.2 hkeeps _ _ hstring
    exact ⟨r, hr, hsame "x"⟩

/-- The canonical text of a parameter with a registered tag `string` is that of a parameter
without a tag, and so it is matched with another value. -/
theorem registered_string_is_forgotten :
    parse (Registry.standard.register zeroing) "\x7ba:string\x7d" = .ok (stringTagged zeroing) ∧
    (stringTagged zeroing).render = "\x7ba\x7d" ∧
    parse (Registry.standard.register zeroing) "\x7ba\x7d" =
      .ok ⟨"\x7ba\x7d", [.parameter "a" .string]⟩ ∧
    (stringTagged zeroing).match? "x" = some ⟨[("a", .int 0)]⟩ ∧
    Pattern.match? ⟨"\x7ba\x7d", [.parameter "a" .string]⟩ "x" = some ⟨[("a", .text "x")]⟩ ∧
    ¬ ∀ template p, parse (Registry.standard.register zeroing) template = .ok p →
      ∃ q, parse (Registry.standard.register zeroing) p.render = .ok q ∧
        ∀ path, q.match? path = p.match? path := by
  refine ⟨rfl, by decide, rfl, by decide, by decide, fun halike => ?_⟩
  obtain ⟨q, hq, hmatch⟩ := halike "\x7ba:string\x7d" (stringTagged zeroing) rfl
  obtain rfl : (stringTagged zeroing).reread = q := Except.ok.inj hq
  exact absurd (hmatch "x") (by decide)

end Template

end Signpost
