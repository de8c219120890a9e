import Signpost.ParamType
import Signpost.Segment
/-!
# Patterns

A pattern is a template that has been read: one item for each segment that a path
must have. Two patterns are equal when their items are, whatever text they were
read from.
-/

namespace Signpost

/-- What a pattern asks of one segment. -/
inductive Item where
  /-- The segment is this text. -/
  | literal (text : String)
  /-- The type converts the segment; the value is bound to the name. -/
  | parameter (name : String) (type : ParamType)

namespace Item

def isLiteral : Item → Bool
  | literal _ => true
  | parameter .. => false

def name? : Item → Option String
  | literal _ => none
  | parameter name _ => some name

/-- The names of parameters, in order. -/
def names (items : List Item) : List String := items.filterMap name?

@[simp] theorem names_nil : names [] = [] := rfl

theorem names_cons (x : Item) (xs : List Item) :
    names (x :: xs) = x.name?.toList ++ names xs := by
  cases h : x.name? <;> simp [names, h]

/-- Literals by their texts, parameters by name and tag. -/
def beq : Item → Item → Bool
  | literal s, literal t => s == t
  | parameter m s, parameter n t => m == n && s == t
  | _, _ => false

instance : BEq Item := ⟨beq⟩

/-- The template text of an item. The tag `string` is left out. -/
def render : Item → String
  | literal text => text
  | parameter name type =>
    if type.isString then "\x7b" ++ name ++ "\x7d" else "\x7b" ++ name ++ ":" ++ type.tag ++ "\x7d"

/-- How much an item leaves open: a literal nothing, a typed parameter some, a
string parameter all. -/
def rank : Item → Nat
  | literal _ => 0
  | parameter _ type => if type.isString then 2 else 1

end Item

/-- A template's items and the text that they stand for. -/
structure Pattern where
  template : String
  items : List Item

namespace Pattern

/-- The canonical text of a pattern. -/
def render (p : Pattern) : String := Segment.join (p.items.map Item.render)

/-- The pattern of given items, which need not be readable from any template. -/
def ofItems (items : List Item) : Pattern := ⟨Segment.join (items.map Item.render), items⟩

instance : BEq Pattern := ⟨fun p q => p.items == q.items⟩

/-- How many segments a path must have. -/
def size (p : Pattern) : Nat := p.items.length

def isEmpty (p : Pattern) : Bool := p.items.isEmpty

def literalCount (p : Pattern) : Nat := p.items.countP Item.isLiteral

def names (p : Pattern) : List String := Item.names p.items

def ranks (p : Pattern) : List Nat := p.items.map Item.rank

end Pattern

end Signpost
