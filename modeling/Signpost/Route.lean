import Signpost.Matching
import Signpost.Method
import Signpost.Order
/-!
# Routes and their order

Among routes of one length, `Route.Before` says which is tried first. In
declaration order it is the one registered first. In order of specificity it is
the one with more literals; of two with as many, the one whose ranks come first,
read from the left; of two with equal ranks, the one registered first.
-/

namespace Signpost

structure Route where
  method : Method
  pattern : Pattern
  handler : String
  /-- How many routes were registered before this one. -/
  index : Nat

/-- What specificity compares. -/
structure Specificity where
  literals : Nat
  ranks : List Nat
deriving DecidableEq

/-- More literals win, then smaller ranks at the first difference. -/
def Specificity.Better (a b : Specificity) : Prop :=
  b.literals < a.literals ∨ a.literals = b.literals ∧ a.ranks < b.ranks

instance (a b : Specificity) : Decidable (a.Better b) := by
  unfold Specificity.Better; infer_instance

def Pattern.specificity (p : Pattern) : Specificity := ⟨p.literalCount, p.ranks⟩

namespace Route

def template (r : Route) : String := r.pattern.template

def specificity (r : Route) : Specificity := r.pattern.specificity

/-- Whether `a` is tried before `b`. -/
def Before (order : Order) (a b : Route) : Prop :=
  match order with
  | .declaration => a.index < b.index
  | .specificity =>
    a.specificity.Better b.specificity ∨ a.specificity = b.specificity ∧ a.index < b.index

instance (order : Order) (a b : Route) : Decidable (Before order a b) := by
  unfold Before; split <;> infer_instance

theorem before_declaration_iff {a b : Route} : Before .declaration a b ↔ a.index < b.index :=
  Iff.rfl

/-- The better of two routes has more literals, or as many and smaller ranks. -/
theorem better_iff {a b : Route} : a.specificity.Better b.specificity ↔
    b.pattern.literalCount < a.pattern.literalCount ∨
      a.pattern.literalCount = b.pattern.literalCount ∧ a.pattern.ranks < b.pattern.ranks :=
  Iff.rfl

theorem specificity_eq_iff {a b : Route} : a.specificity = b.specificity ↔
    a.pattern.literalCount = b.pattern.literalCount ∧ a.pattern.ranks = b.pattern.ranks := by
  simp [specificity, Pattern.specificity]

/-- More literals come first; of routes with as many, smaller ranks; of routes with these
too, the one registered first. -/
theorem before_specificity_iff {a b : Route} : Before .specificity a b ↔
    b.pattern.literalCount < a.pattern.literalCount ∨
      a.pattern.literalCount = b.pattern.literalCount ∧
        (a.pattern.ranks < b.pattern.ranks ∨
          a.pattern.ranks = b.pattern.ranks ∧ a.index < b.index) := by
  rw [Before, better_iff, specificity_eq_iff, or_assoc, and_assoc, ← and_or_left]

end Route

end Signpost
