import Mathlib.Data.List.Dedup
import Signpost.Proofs.Positions
/-!
# Views of bindings

Bindings are read by name, copied into a map and written as an object. Of a name that is
bound twice the reading has the first value, the map the last, and the object both. No
template repeats a name, so for a pattern that was read the views agree (`views_agree`).
-/

namespace Signpost

/-! ## Values by name -/

section Keyed

variable {α β : Type} [DecidableEq α] {l : List (α × β)} {k : α} {v : β}

theorem isSome_lookup_iff : (l.lookup k).isSome = true ↔ k ∈ l.map Prod.fst := by
  rw [List.lookup_isSome_iff, List.mem_map]
  exact exists_congr fun _ => and_congr_right fun _ => beq_iff_eq.trans eq_comm

theorem lookup_cons_of_ne {k' : α} (h : k ≠ k') : ((k', v) :: l).lookup k = l.lookup k := by
  rw [List.lookup_cons, beq_eq_false_iff_ne.2 h]

/-- If no key repeats, looking one up finds whatever stands under it. -/
theorem lookup_eq_some_iff_mem (hnodup : (l.map Prod.fst).Nodup) :
    l.lookup k = some v ↔ (k, v) ∈ l := by
  induction l with
  | nil => simp
  | cons e l ih =>
    obtain ⟨hfresh, hrest⟩ := List.nodup_cons.1 hnodup
    obtain ⟨k', v'⟩ := e
    by_cases hk : k = k'
    · subst hk
      have hlater : (k, v) ∉ l := fun hmem => hfresh (List.mem_map.2 ⟨_, hmem, rfl⟩)
      simp [hlater, eq_comm]
    · rw [lookup_cons_of_ne hk, ih hrest]
      simp [hk]

/-- If no key repeats, it does not matter from which end it is looked for. -/
theorem lookup_reverse (hnodup : (l.map Prod.fst).Nodup) (k : α) :
    l.reverse.lookup k = l.lookup k := by
  have hreverse : (l.reverse.map Prod.fst).Nodup := by
    rwa [List.map_reverse, List.nodup_reverse]
  ext v
  rw [lookup_eq_some_iff_mem hreverse, lookup_eq_some_iff_mem hnodup, List.mem_reverse]

end Keyed

namespace Bindings

theorem any_name_iff {es : List (String × Value)} {name : String} :
    es.any (·.1 = name) = true ↔ name ∈ es.map Prod.fst := by
  simp

/-- The map has each name once, where it was bound last. -/
theorem names_lastEntries (es : List (String × Value)) :
    (lastEntries es).map Prod.fst = (es.map Prod.fst).dedup := by
  induction es with
  | nil => rfl
  | cons e es ih =>
    rw [lastEntries, List.map_cons]
    by_cases h : e.1 ∈ es.map Prod.fst
    · rw [if_pos (any_name_iff.2 h), List.dedup_cons_of_mem h, ih]
    · rw [if_neg (mt any_name_iff.1 h), List.dedup_cons_of_notMem h, List.map_cons, ih]

/-- The map has the value that a name was given last. -/
theorem lookup_lastEntries (es : List (String × Value)) (name : String) :
    (lastEntries es).lookup name = es.reverse.lookup name := by
  induction es with
  | nil => rfl
  | cons e es ih =>
    obtain ⟨first, value⟩ := e
    have hfirst : first ∈ es.map Prod.fst ↔ ((lastEntries es).lookup first).isSome = true := by
      rw [isSome_lookup_iff, names_lastEntries, List.mem_dedup]
    rw [lastEntries, List.reverse_cons, List.lookup_append, ← ih]
    by_cases hn : name = first
    · subst hn
      by_cases h : name ∈ es.map Prod.fst
      · obtain ⟨v, hv⟩ := Option.isSome_iff_exists.1 (hfirst.1 h)
        rw [if_pos (any_name_iff.2 h), hv, Option.some_or]
      · rw [if_neg (mt any_name_iff.1 h), Option.not_isSome_iff_eq_none.1 (mt hfirst.2 h)]
        simp
    · rw [lookup_cons_of_ne hn, List.lookup_nil, Option.or_none]
      split
      · rfl
      · exact lookup_cons_of_ne hn

end Bindings

/-! ## Bindings of matches -/

section Match

variable {registry : Registry} {template path : String} {p : Pattern} {b : Bindings}

/-- A match binds as many values as the pattern has parameters. -/
theorem size_of_match? (hb : p.match? path = some b) :
    b.size = p.items.countP fun item => !item.isLiteral := by
  have hparameter : (fun item : Item => item.name?.isSome) = fun item => !item.isLiteral := by
    funext item
    cases item <;> rfl
  have hlength := congrArg List.length (Pattern.names_of_match? hb)
  rw [List.length_map, Pattern.names, Item.names, List.length_filterMap_eq_countP,
    hparameter] at hlength
  exact hlength

/-- A pattern that was read is matched with each name bound once. -/
theorem nodup_of_parse (hp : Template.parse registry template = .ok p)
    (hb : p.match? path = some b) : (b.entries.map Prod.fst).Nodup := by
  rw [Pattern.names_of_match? hb]
  exact (Template.canonical_of_parse hp).nodup

/-- How an object shows a value: a text as that text, an integer as that number. -/
inductive Value.Shows : Value → Json → Prop
  | text (s : String) : Value.Shows (.text s) (.text s)
  | int (n : Int32) : Value.Shows (.int n) (.int n.toInt)

/-- Fields that show the bindings one by one, each under its name. -/
def Bindings.Shows (b : Bindings) (fields : List (String × Json)) : Prop :=
  List.Forall₂ (fun e field => e.1 = field.1 ∧ e.2.Shows field.2) b.entries fields

theorem Value.shows_toJson (v : Value) : v.Shows v.toJson := by
  cases v with
  | text s => exact .text s
  | int n => exact .int n

namespace Bindings

theorem exists_toJson (b : Bindings) : ∃ fields, b.toJson = .object fields ∧ b.Shows fields := by
  refine ⟨_, rfl, List.forall₂_map_right_iff.2 (List.forall₂_same.2 fun e _ => ?_)⟩
  exact ⟨rfl, e.2.shows_toJson⟩

theorem Shows.names {b : Bindings} {fields : List (String × Json)} (h : b.Shows fields) :
    fields.map Prod.fst = b.entries.map Prod.fst := by
  have hnames : List.Forall₂ (· = ·) (b.entries.map Prod.fst) (fields.map Prod.fst) :=
    List.forall₂_map_left_iff.2 (List.forall₂_map_right_iff.2 (h.imp fun _ _ he => he.1))
  exact (List.forall₂_eq_eq_eq ▸ hnames).symm

/-- Each field shows a value that is bound to its name. -/
theorem Shows.exists_mem {b : Bindings} {fields : List (String × Json)} (h : b.Shows fields)
    {name : String} {json : Json} (hmem : (name, json) ∈ fields) :
    ∃ v, (name, v) ∈ b.entries ∧ v.Shows json := by
  obtain ⟨⟨_, v⟩, hv, rfl, hshows⟩ := exists_mem_of_forall₂ h hmem
  exact ⟨v, hv, hshows⟩

end Bindings

/-! ## Main theorem -/

/-- When a path matches a pattern that was read, a name has the same value whether its
first or its last binding counts, and it has one exactly if it is a parameter of the
pattern. There are as many bindings as parameters, and as many in the map. The object
shows the bindings one by one: each parameter once, in the order of the template, with the
text or the integer that reading it by name gives. -/
theorem views_agree (hp : Template.parse registry template = .ok p)
    (hb : p.match? path = some b) :
    (∀ name, b.get? name = b.toMap.lookup name ∧
      ((b.get? name).isSome = true ↔ name ∈ p.names)) ∧
    b.size = b.toMap.length ∧ (b.size = p.items.countP fun item => !item.isLiteral) ∧
    ∃ fields, b.toJson = .object fields ∧ b.Shows fields ∧
      fields.map Prod.fst = p.names ∧ (fields.map Prod.fst).Nodup ∧
      ∀ name json, (name, json) ∈ fields → ∃ v, b.get? name = some v ∧ v.Shows json := by
  have hnames := Pattern.names_of_match? hb
  have hnodup := nodup_of_parse hp hb
  obtain ⟨fields, hfields, hshows⟩ := b.exists_toJson
  refine ⟨fun name => ⟨?_, ?_⟩, ?_, size_of_match? hb, fields, hfields, hshows, ?_, ?_, ?_⟩
  · rw [Bindings.toMap, Bindings.lookup_lastEntries, lookup_reverse hnodup]
    rfl
  · rw [Bindings.get?, isSome_lookup_iff, hnames]
  · have hlength := congrArg List.length (Bindings.names_lastEntries b.entries)
    rw [hnodup.dedup, List.length_map, List.length_map] at hlength
    exact hlength.symm
  · rw [hshows.names, hnames]
  · rwa [hshows.names]
  · intro name json hmem
    obtain ⟨v, hv, hjson⟩ := hshows.exists_mem hmem
    exact ⟨v, (lookup_eq_some_iff_mem hnodup).2 hv, hjson⟩

/-- A page of documents in some language. -/
def docsPage : Pattern :=
  ⟨"\x7blang\x7d/docs/\x7bpage:int\x7d",
    [.parameter "lang" .string, .literal "docs", .parameter "page" .int]⟩

/-- What the third page in English binds. -/
def thirdPage : Bindings := ⟨[("lang", .text "en"), ("page", .int 3)]⟩

/-- All the views of one match, the object with its text and its number. -/
theorem docs_page_views :
    Template.parse .standard docsPage.template = .ok docsPage ∧
    docsPage.match? "/en/docs/3" = some thirdPage ∧
    thirdPage.get? "lang" = some (.text "en") ∧ thirdPage.get? "page" = some (.int 3) ∧
    thirdPage.toMap = [("lang", .text "en"), ("page", .int 3)] ∧
    thirdPage.get? "page" = thirdPage.toMap.lookup "page" ∧
    ((thirdPage.get? "docs").isSome = true ↔ "docs" ∈ docsPage.names) ∧
    thirdPage.size = thirdPage.toMap.length ∧ thirdPage.size = 2 ∧
    thirdPage.toJson = .object [("lang", .text "en"), ("page", .int 3)] ∧
    ∃ v, thirdPage.get? "page" = some v ∧ v.Shows (.int 3) := by
  have hp : Template.parse .standard docsPage.template = .ok docsPage := by rfl
  have hb : docsPage.match? "/en/docs/3" = some thirdPage := by decide
  obtain ⟨hviews, hsize, -, fields, hfields, -, -, -, hvalues⟩ := views_agree hp hb
  have hjson : thirdPage.toJson = .object [("lang", .text "en"), ("page", .int 3)] := by rfl
  obtain rfl := Json.object.inj (hfields.symm.trans hjson)
  exact ⟨hp, hb, by decide, by decide, by decide, (hviews "page").1, (hviews "docs").2, hsize,
    by decide, hjson, hvalues "page" (.int 3) (by simp)⟩

/-- A pattern built by hand may repeat a name, and then its views differ. -/
example : ((Pattern.ofItems [.parameter "a" .int, .parameter "a" .string]).match? "7/y").map
    (fun b => (b.get? "a", b.toMap, b.size)) = some (some (.int 7), [("a", .text "y")], 2) := by
  decide

end Match

end Signpost
