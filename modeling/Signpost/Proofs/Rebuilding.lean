import Signpost.Proofs.Numerals
import Signpost.Proofs.Positions
/-!
# Paths rebuilt from bindings

A pattern and the values that a match bound give a path again: each literal stands for
itself, each parameter for the text of its value. A number may have been written in
another way, and slashes may be fewer, but for the built-in types the path that is rebuilt
matches with the same bindings (`match?_rebuilt`).
-/

namespace Signpost

/-- The types that need no registration by the caller. -/
def ParamType.IsBuiltIn (t : ParamType) : Prop := t = .string ∨ t = .int

theorem ParamType.convert_int (segment : String) :
    ParamType.int.convert segment = (Decimal.int32? segment).map .int := rfl

namespace Pattern

/-- The segments that items write with values for their parameters, one a parameter. -/
def writeAll? : List Item → List Value → Option (List String)
  | [], [] => some []
  | .literal text :: items, values => (writeAll? items values).map (text :: ·)
  | .parameter .. :: items, value :: values => (writeAll? items values).map (value.render :: ·)
  | _, _ => none

/-- The path that a pattern has with the values of bindings in place of its parameters. -/
def rebuilt? (p : Pattern) (b : Bindings) : Option String :=
  (writeAll? p.items (b.entries.map Prod.snd)).map Segment.join

variable {p : Pattern} {items : List Item} {segments : List String}
  {entries : List (String × Value)}

/-! ## One value -/

theorem possible_of_int32? {s : String} {n : Int32} (h : Decimal.int32? s = some n) :
    Segment.Possible s := by
  unfold Decimal.int32? at h
  split at h
  · rename_i k hk
    obtain ⟨hne, hslash⟩ := Decimal.ne_nil_and_slash_not_mem_of_integer? hk
    exact ⟨fun hs => hne (by simp [hs]), hslash⟩
  · cases h

/-- The text of a value that a built-in type made of a segment is a segment again, of which
the type makes the same value. -/
theorem convert_render {type : ParamType} (hbuiltin : type.IsBuiltIn) {segment : String}
    {value : Value} (hpossible : Segment.Possible segment)
    (h : type.convert segment = some value) :
    Segment.Possible value.render ∧ type.convert value.render = some value := by
  rcases hbuiltin with rfl | rfl
  · obtain rfl := Option.some.inj h
    exact ⟨hpossible, rfl⟩
  · rw [ParamType.convert_int] at h
    obtain ⟨n, -, rfl⟩ := Option.map_eq_some_iff.1 h
    have hread : Decimal.int32? (Value.int n).render = some n := Decimal.int32?_toString n
    exact ⟨possible_of_int32? hread, by rw [ParamType.convert_int, hread, Option.map_some]⟩

/-! ## All values -/

/-- What was bound to segments is bound to the segments that its values write. -/
theorem exists_writeAll? (hbuiltin : ∀ name type, .parameter name type ∈ items → type.IsBuiltIn)
    (hpossible : ∀ s ∈ segments, Segment.Possible s) (h : bindAll items segments = some entries) :
    ∃ again, writeAll? items (entries.map Prod.snd) = some again ∧
      (∀ s ∈ again, Segment.Possible s) ∧ bindAll items again = some entries := by
  fun_induction bindAll items segments generalizing entries with
  | case1 =>
    obtain rfl := Option.some.inj h
    exact ⟨[], rfl, by simp, rfl⟩
  | case2 items segment segments ih =>
    rw [List.forall_mem_cons] at hpossible
    obtain ⟨again, hwrite, hagain, hbind⟩ :=
      ih (fun name type hm => hbuiltin name type (List.mem_cons_of_mem _ hm)) hpossible.2 h
    refine ⟨segment :: again, by rw [writeAll?, hwrite, Option.map_some], ?_, ?_⟩
    · exact List.forall_mem_cons.2 ⟨hpossible.1, hagain⟩
    · exact bindAll_literal_eq_some_iff.2 ⟨rfl, hbind⟩
  | case3 => cases h
  | case4 => cases h
  | case5 name type items segment segments value hv ih =>
    obtain ⟨rest, hrest, rfl⟩ := Option.map_eq_some_iff.1 h
    rw [List.forall_mem_cons] at hpossible
    obtain ⟨again, hwrite, hagain, hbind⟩ :=
      ih (fun name type hm => hbuiltin name type (List.mem_cons_of_mem _ hm)) hpossible.2 hrest
    obtain ⟨hrendered, hconvert⟩ :=
      convert_render (hbuiltin name type List.mem_cons_self) hpossible.1 hv
    refine ⟨value.render :: again, ?_, List.forall_mem_cons.2 ⟨hrendered, hagain⟩, ?_⟩
    · rw [List.map_cons, writeAll?, hwrite, Option.map_some]
    · exact bindAll_parameter_eq_some_iff.2 ⟨value, rest, hconvert, hbind, rfl⟩
  | case6 => cases h

/-! ## Main theorem -/

/-- Where all parameters have built-in types, the path that is rebuilt from the bindings of
a match is matched with the same bindings. -/
theorem match?_rebuilt {path : String} {b : Bindings}
    (hbuiltin : ∀ name type, .parameter name type ∈ p.items → type.IsBuiltIn)
    (h : p.match? path = some b) :
    ∃ again, p.rebuilt? b = some again ∧ p.match? again = some b := by
  have hpossible : ∀ s ∈ Segment.split path, Segment.Possible s :=
    fun _ => Segment.possible_of_mem_split
  obtain ⟨again, hwrite, hagain, hbind⟩ :=
    exists_writeAll? hbuiltin hpossible (match?_eq_some_iff_bindAll.1 h)
  refine ⟨Segment.join again, by rw [rebuilt?, hwrite, Option.map_some], ?_⟩
  rw [match?_eq_some_iff_bindAll, Segment.split_join hagain, hbind]

/-- Two numbers of one name. -/
def range : Pattern := .ofItems [.parameter "n" .int, .literal "to", .parameter "n" .int]

/-- The least number, a zero with a minus sign and leading zeros. -/
theorem range_rebuilt :
    range.match? "/-02147483648//to/-0/" =
      some ⟨[("n", .int (-2147483648)), ("n", .int 0)]⟩ ∧
    range.rebuilt? ⟨[("n", .int (-2147483648)), ("n", .int 0)]⟩ = some "-2147483648/to/0" ∧
    range.match? "-2147483648/to/0" =
      some ⟨[("n", .int (-2147483648)), ("n", .int 0)]⟩ := by
  have hbuiltin : ∀ name type, .parameter name type ∈ range.items → type.IsBuiltIn := by
    intro name type hm
    simp only [range, ofItems, List.mem_cons, List.not_mem_nil, reduceCtorEq, or_false, false_or,
      Item.parameter.injEq] at hm
    rcases hm with ⟨-, rfl⟩ | ⟨-, rfl⟩ <;> exact .inr rfl
  have h : range.match? "/-02147483648//to/-0/" =
      some ⟨[("n", .int (-2147483648)), ("n", .int 0)]⟩ := by decide
  have hrebuilt : range.rebuilt? ⟨[("n", .int (-2147483648)), ("n", .int 0)]⟩ =
      some "-2147483648/to/0" := by decide
  obtain ⟨again, hagain, hmatch⟩ := match?_rebuilt hbuiltin h
  obtain rfl := Option.some.inj (hrebuilt.symm.trans hagain)
  exact ⟨h, hrebuilt, hmatch⟩

end Pattern

end Signpost
