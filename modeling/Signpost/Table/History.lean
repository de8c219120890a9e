import Signpost.Table
/-!
# Histories of tables

How a table comes about: changes applied to an empty table one after another. A
registration whose template cannot be read changes nothing.
-/

namespace Signpost

inductive Change where
  | register (method : Method) (template handler : String)
  | insert (method : Method) (pattern : Pattern) (handler : String)
  | withRegistry (registry : Registry)
  | withSlowMatchMicros (micros : Nat)

/-- A route that has no index yet. -/
structure Addition where
  method : Method
  pattern : Pattern
  handler : String

def Addition.route (a : Addition) (index : Nat) : Route := ⟨a.method, a.pattern, a.handler, index⟩

def Addition.insertion (a : Addition) : Change := .insert a.method a.pattern a.handler

namespace Change

/-- The types that templates may name after a change. -/
def registryAfter (registry : Registry) : Change → Registry
  | register .. => registry
  | insert .. => registry
  | withRegistry registry => registry
  | withSlowMatchMicros _ => registry

/-- The route that a change adds, if it adds one. -/
def addition? (registry : Registry) : Change → Option Addition
  | register method template handler =>
    match Template.parse registry template with
    | .ok pattern => some ⟨method, pattern, handler⟩
    | .error _ => none
  | insert method pattern handler => some ⟨method, pattern, handler⟩
  | withRegistry _ => none
  | withSlowMatchMicros _ => none

/-- Whether a change is a registration whose template cannot be read. -/
def isRefused (registry : Registry) : Change → Bool
  | register _ template _ =>
    match Template.parse registry template with
    | .ok _ => false
    | .error _ => true
  | insert .. => false
  | withRegistry _ => false
  | withSlowMatchMicros _ => false

end Change

/-- The routes that a history adds, in order. -/
def additions : Registry → List Change → List Addition
  | _, [] => []
  | registry, c :: cs => (c.addition? registry).toList ++ additions (c.registryAfter registry) cs

theorem additions_insertions (registry : Registry) (l : List Addition) :
    additions registry (l.map Addition.insertion) = l := by
  induction l with
  | nil => rfl
  | cons a l ih =>
    rw [List.map_cons, additions]
    exact congrArg (a :: ·) ih

/-- A history without its refused registrations. -/
def accepted : Registry → List Change → List Change
  | _, [] => []
  | registry, c :: cs =>
    if c.isRefused registry then accepted (c.registryAfter registry) cs
    else c :: accepted (c.registryAfter registry) cs

namespace Table

/-- The table after one change. -/
def apply (t : Table) : Change → Table
  | .register method template handler =>
    match t.register method template handler with
    | .ok added => added.value
    | .error _ => t
  | .insert method pattern handler => (t.insert method pattern handler).value
  | .withRegistry registry => t.withRegistry registry
  | .withSlowMatchMicros micros => t.withSlowMatchMicros micros

/-- The table after a list of changes. -/
def run (t : Table) (changes : List Change) : Table := changes.foldl apply t

/-- The table that a history makes. -/
def built (order : Order) (changes : List Change) : Table := (empty order).run changes

@[simp] theorem run_nil (t : Table) : t.run [] = t := rfl

@[simp] theorem run_cons (t : Table) (c : Change) (cs : List Change) :
    t.run (c :: cs) = (t.apply c).run cs := rfl

/-- A history can be cut anywhere. -/
theorem run_append (t : Table) (cs ds : List Change) : t.run (cs ++ ds) = (t.run cs).run ds :=
  List.foldl_append

/-- What every change keeps, a history keeps. -/
theorem run_induction {P : Table → Prop} {t : Table} (start : P t)
    (step : ∀ t c, P t → P (t.apply c)) (cs : List Change) : P (t.run cs) := by
  induction cs generalizing t with
  | nil => exact start
  | cons c cs ih => exact ih (step t c start)

/-- What a change does: it adds one route, or it leaves the routes alone. -/
theorem apply_cases (t : Table) (c : Change) :
    (∃ a, c.addition? t.registry = some a ∧
      t.apply c = (t.insert a.method a.pattern a.handler).value) ∨
    (c.addition? t.registry = none ∧ ∃ registry micros,
      t.apply c = { t with registry := registry, slowMatchMicros := micros }) := by
  cases c with
  | register method template handler =>
    simp only [apply, register, Change.addition?]
    cases Template.parse t.registry template with
    | ok pattern => exact .inl ⟨_, rfl, rfl⟩
    | error e => exact .inr ⟨rfl, t.registry, t.slowMatchMicros, rfl⟩
  | insert method pattern handler => exact .inl ⟨_, rfl, rfl⟩
  | withRegistry registry => exact .inr ⟨rfl, registry, t.slowMatchMicros, rfl⟩
  | withSlowMatchMicros micros => exact .inr ⟨rfl, t.registry, micros, rfl⟩

theorem registry_apply (t : Table) (c : Change) :
    (t.apply c).registry = c.registryAfter t.registry := by
  cases c with
  | register method template handler =>
    simp only [apply, register]
    cases Template.parse t.registry template <;> rfl
  | insert | withRegistry | withSlowMatchMicros => rfl

theorem apply_of_isRefused {t : Table} {c : Change} (h : c.isRefused t.registry = true) :
    t.apply c = t := by
  cases c with
  | register method template handler =>
    simp only [Change.isRefused] at h
    simp only [apply, register]
    cases hp : Template.parse t.registry template with
    | ok pattern => simp [hp] at h
    | error e => rfl
  | insert | withRegistry | withSlowMatchMicros => simp [Change.isRefused] at h

end Table

end Signpost
