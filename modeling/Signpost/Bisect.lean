/-!
# Bisection

Where a list is cut in two by a property that the elements at its front have and
the others lack. The place is found by halving, so on a list that is not cut in two
the answer means nothing.
-/

namespace Signpost

variable {α : Type}

/-- Looks from `lo` on, before `hi`, for the first position that lacks `p`. -/
def bisectWithin (p : α → Bool) (l : List α) (lo hi : Nat) : Nat :=
  if lo < hi then
    match l[(lo + hi) / 2]? with
    | none => lo
    | some x =>
      if p x then bisectWithin p l ((lo + hi) / 2 + 1) hi
      else bisectWithin p l lo ((lo + hi) / 2)
  else lo
termination_by hi - lo

/-- How many elements at the front of a list have `p`. -/
def bisect (p : α → Bool) (l : List α) : Nat := bisectWithin p l 0 l.length

theorem bisectWithin_le {p : α → Bool} {l : List α} {lo hi : Nat} (h : lo ≤ hi) :
    bisectWithin p l lo hi ≤ hi := by
  fun_induction bisectWithin p l lo hi with
  | case1 => exact h
  | case2 lo hi hlt x hx hp ih => exact ih (by omega)
  | case3 lo hi hlt x hx hp ih =>
    have := ih (by omega)
    omega
  | case4 => exact h

theorem bisect_le_length (p : α → Bool) (l : List α) : bisect p l ≤ l.length :=
  bisectWithin_le (Nat.zero_le _)

/-- The cut stays between the two bounds while they close in on it. -/
theorem bisectWithin_eq {p : α → Bool} {l : List α} {lo hi cut : Nat}
    (h : ∀ i x, l[i]? = some x → (p x = true ↔ i < cut)) (hhi : hi ≤ l.length)
    (hlo : lo ≤ cut) (hcut : cut ≤ hi) : bisectWithin p l lo hi = cut := by
  fun_induction bisectWithin p l lo hi with
  | case1 lo hi hlt hnone =>
    rw [List.getElem?_eq_none_iff] at hnone
    omega
  | case2 lo hi hlt x hx hp ih =>
    have := (h _ x hx).1 hp
    exact ih hhi (by omega) hcut
  | case3 lo hi hlt x hx hp ih =>
    have := mt (h _ x hx).2 hp
    exact ih (by omega) hlo (by omega)
  | case4 lo hi hlt => omega

theorem bisect_append {p : α → Bool} {front back : List α} (hf : ∀ x ∈ front, p x = true)
    (hb : ∀ x ∈ back, p x = false) : bisect p (front ++ back) = front.length := by
  refine bisectWithin_eq (fun i x hx => ?_) (Nat.le_refl _) (Nat.zero_le _) (by simp)
  rcases Nat.lt_or_ge i front.length with hi | hi
  · rw [List.getElem?_append_left hi] at hx
    simp [hf x (List.mem_of_getElem? hx), hi]
  · rw [List.getElem?_append_right hi] at hx
    simp [hb x (List.mem_of_getElem? hx), hi]

end Signpost
