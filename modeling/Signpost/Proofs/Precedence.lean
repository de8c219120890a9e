import Mathlib.Data.List.Lex
import Signpost.Route
/-!
# Routes in line

`Route.Before` puts the routes of a table in line: none is before itself, what is
before is before for good, and of two routes with different indices one is before
the other. So a list that keeps the order is the only one with its routes.
-/

namespace Signpost

/-- Of two lists of one length, the smaller is smaller where they first differ. -/
theorem lt_iff_getElem? {l l' : List Nat} (h : l.length = l'.length) :
    l < l' ↔ ∃ i x y : Nat, l[i]? = some x ∧ l'[i]? = some y ∧ x < y ∧
      ∀ j < i, l[j]? = l'[j]? := by
  rw [List.lt_iff_exists]
  constructor
  · rintro (⟨-, hlt⟩ | ⟨i, hi, hi', hsame, hlt⟩)
    · omega
    · refine ⟨i, l[i], l'[i], List.getElem?_eq_getElem hi, List.getElem?_eq_getElem hi', hlt, ?_⟩
      intro j hj
      rw [List.getElem?_eq_getElem (by omega), List.getElem?_eq_getElem (by omega), hsame j hj]
  · rintro ⟨i, x, y, hx, hy, hlt, hsame⟩
    obtain ⟨hi, rfl⟩ := List.getElem?_eq_some_iff.1 hx
    obtain ⟨hi', rfl⟩ := List.getElem?_eq_some_iff.1 hy
    refine .inr ⟨i, hi, hi', fun j hj => ?_, hlt⟩
    have he := hsame j hj
    rwa [List.getElem?_eq_getElem (by omega), List.getElem?_eq_getElem (by omega),
      Option.some.injEq] at he

namespace Specificity

theorem Better.trans {a b c : Specificity} (hab : a.Better b) (hbc : b.Better c) : a.Better c := by
  rcases hab with h₁ | ⟨e₁, h₁⟩ <;> rcases hbc with h₂ | ⟨e₂, h₂⟩
  · exact .inl (Nat.lt_trans h₂ h₁)
  · exact .inl (e₂ ▸ h₁)
  · exact .inl (e₁ ▸ h₂)
  · exact .inr ⟨e₁.trans e₂, lt_trans h₁ h₂⟩

theorem not_better_self (a : Specificity) : ¬ a.Better a := by
  rintro (h | ⟨-, h⟩)
  · exact Nat.lt_irrefl _ h
  · exact lt_irrefl _ h

theorem better_or_eq_or_better (a b : Specificity) : a.Better b ∨ a = b ∨ b.Better a := by
  rcases lt_trichotomy a.literals b.literals with hl | hl | hl
  · exact .inr (.inr (.inl hl))
  · rcases lt_trichotomy a.ranks b.ranks with hr | hr | hr
    · exact .inl (.inr ⟨hl, hr⟩)
    · obtain ⟨la, ra⟩ := a
      obtain ⟨lb, rb⟩ := b
      exact .inr (.inl (congrArg₂ mk hl hr))
    · exact .inr (.inr (.inr ⟨hl.symm, hr⟩))
  · exact .inl (.inl hl)

end Specificity

namespace Route

variable {order : Order} {a b c : Route}

theorem Before.trans (hab : Before order a b) (hbc : Before order b c) : Before order a c := by
  cases order with
  | declaration => exact Nat.lt_trans hab hbc
  | specificity =>
    rcases hab with h₁ | ⟨e₁, h₁⟩ <;> rcases hbc with h₂ | ⟨e₂, h₂⟩
    · exact .inl (h₁.trans h₂)
    · exact .inl (e₂ ▸ h₁)
    · exact .inl (e₁ ▸ h₂)
    · exact .inr ⟨e₁.trans e₂, Nat.lt_trans h₁ h₂⟩

theorem not_before_self (order : Order) (a : Route) : ¬ Before order a a := by
  cases order with
  | declaration => exact Nat.lt_irrefl _
  | specificity =>
    rintro (h | ⟨-, h⟩)
    · exact a.specificity.not_better_self h
    · exact Nat.lt_irrefl _ h

theorem Before.not_before (h : Before order a b) : ¬ Before order b a :=
  fun h' => not_before_self order a (h.trans h')

theorem before_or_before (order : Order) (h : a.index ≠ b.index) :
    Before order a b ∨ Before order b a := by
  cases order with
  | declaration => exact Nat.lt_or_gt_of_ne h
  | specificity =>
    rcases a.specificity.better_or_eq_or_better b.specificity with hb | he | hb
    · exact .inl (.inl hb)
    · rcases Nat.lt_or_gt_of_ne h with hi | hi
      · exact .inl (.inr ⟨he, hi⟩)
      · exact .inr (.inr ⟨he.symm, hi⟩)
    · exact .inr (.inl hb)

end Route

end Signpost
