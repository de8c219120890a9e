import Signpost.Decimal
import Signpost.Value
/-!
# Parameter types

A parameter type has a tag, which templates name, and a converter, which takes a
path segment to a value or refuses it. A registry holds the types that templates
may name; the type of a parameter without a tag is always `string`, whether the
registry has such a tag or not.
-/

namespace Signpost

structure ParamType where
  tag : String
  convert : String → Option Value

namespace ParamType

/-- Takes every segment, as it is. -/
def string : ParamType := ⟨"string", fun segment => some (.text segment)⟩

/-- Takes the decimal integers of 32 bits. -/
def int : ParamType := ⟨"int", fun segment => (Decimal.int32? segment).map .int⟩

/-- A type counts as `string` by its tag, whatever its converter. -/
def isString (t : ParamType) : Bool := t.tag = "string"

/-- Types are compared by their tags. -/
instance : BEq ParamType := ⟨fun a b => a.tag == b.tag⟩

end ParamType

/-- The parameter types that templates may name, each tag once. -/
structure Registry where
  types : List ParamType
  nodup_tags : (types.map ParamType.tag).Nodup

namespace Registry

def empty : Registry := ⟨[], by simp⟩

theorem nodup_register {types : List ParamType} (h : (types.map ParamType.tag).Nodup)
    (type : ParamType) :
    ((type :: types.filter (·.tag ≠ type.tag)).map ParamType.tag).Nodup := by
  rw [List.map_cons, List.nodup_cons]
  refine ⟨?_, h.sublist (List.filter_sublist.map _)⟩
  rw [List.mem_map]
  rintro ⟨t, ht, heq⟩
  exact absurd heq (by simpa using (List.mem_filter.1 ht).2)

/-- Adds a type, in place of the one with its tag if there is one. -/
def register (r : Registry) (type : ParamType) : Registry :=
  ⟨type :: r.types.filter (·.tag ≠ type.tag), nodup_register r.nodup_tags type⟩

def resolve? (r : Registry) (tag : String) : Option ParamType := r.types.find? (·.tag = tag)

/-- The type registered last under a tag is the one that the tag names. -/
theorem resolve?_register (r : Registry) (type : ParamType) (tag : String) :
    (r.register type).resolve? tag = if type.tag = tag then some type else r.resolve? tag := by
  by_cases h : type.tag = tag
  · simp [resolve?, register, h]
  · have hne : (fun t : ParamType => decide (t.tag ≠ type.tag) && decide (t.tag = tag)) =
        fun t => decide (t.tag = tag) := by
      funext t
      by_cases ht : t.tag = tag
      · simp [ht, Ne.symm h]
      · simp [ht]
    simp [resolve?, register, h, List.find?_filter, ← hne]

def contains (r : Registry) (tag : String) : Bool := (r.resolve? tag).isSome

/-- The tags in the order of their code points. -/
def tags (r : Registry) : List String :=
  (r.types.map (·.tag)).mergeSort fun a b => decide (a ≤ b)

/-- The registry of templates that bring no types of their own: `int` alone. -/
def standard : Registry := empty.register .int

end Registry

end Signpost
