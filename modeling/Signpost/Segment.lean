/-!
# Path segments

Templates and request paths are read the same way: they are cut at each `/`, and
empty pieces are dropped, so `/a//b/` and `a/b` have the same segments.
-/

namespace Signpost.Segment

/-- The segments of a path, in order. -/
def split (path : String) : List String :=
  ((path.toList.splitOn '/').filter (· ≠ [])).map String.ofList

/-- The path that has the given segments, with one `/` between two of them. -/
def join (segments : List String) : String := "/".intercalate segments

/-- The segments of a path are the non-empty pieces between its slashes. -/
theorem mem_split {path s : String} :
    s ∈ split path ↔ s ≠ "" ∧ s.toList ∈ path.toList.splitOn '/' := by
  simp only [split, List.mem_map, List.mem_filter, decide_eq_true_eq]
  constructor
  · rintro ⟨piece, ⟨hm, hne⟩, rfl⟩
    exact ⟨fun h => hne (by simpa using congrArg String.toList h), by simpa using hm⟩
  · rintro ⟨hne, hm⟩
    exact ⟨s.toList, ⟨hm, fun h => hne (String.toList_inj.1 h)⟩, String.ofList_toList⟩

/-- A slash between two texts separates their segments. -/
theorem split_append_slash (a b : String) : split (a ++ "/" ++ b) = split a ++ split b := by
  have h : (a ++ "/" ++ b).toList = a.toList ++ '/' :: b.toList := by simp
  simp [split, h, List.splitOn, List.splitOnP_append_cons]

/-- What a list is cut at is in none of the pieces. -/
theorem eq_false_of_mem_splitOnP {α : Type} {p : α → Bool} {l piece : List α}
    (h : piece ∈ l.splitOnP p) : ∀ x ∈ piece, p x = false := by
  induction l generalizing piece with
  | nil =>
    obtain rfl : piece = [] := by simpa using h
    simp
  | cons x xs ih =>
    -- The first element is cut away or goes to the front of the first piece.
    obtain ⟨first, rest, hs⟩ := List.exists_cons_of_ne_nil (List.splitOnP_ne_nil p xs)
    rw [hs] at ih
    rw [List.splitOnP_cons_eq_if_modifyHead, hs] at h
    split at h
    · rcases List.mem_cons.1 h with rfl | h
      · simp
      · exact ih h
    · rename_i hx
      rcases List.mem_cons.1 h with rfl | h
      · simpa [hx] using ih List.mem_cons_self
      · exact ih (List.mem_cons_of_mem _ h)

/-- No segment has a slash in it. -/
theorem slash_not_mem_of_mem_split {path s : String} (h : s ∈ split path) : '/' ∉ s.toList := by
  intro hc
  simpa using eq_false_of_mem_splitOnP (mem_split.1 h).2 '/' hc

/-- Segments that have been joined are cut apart again at the same places. -/
theorem split_join {segments : List String} (h : ∀ s ∈ segments, s ≠ "" ∧ '/' ∉ s.toList) :
    split (join segments) = segments := by
  by_cases hne : segments = []
  · subst hne
    rfl
  · have hpieces : (join segments).toList.splitOn '/' = segments.map String.toList := by
      rw [join, String.toList_intercalate]
      refine List.splitOn_intercalate '/' ?_ (by simpa using hne)
      simpa using fun s hs => (h s hs).2
    have hkept : (segments.map String.toList).filter (· ≠ []) = segments.map String.toList := by
      rw [List.filter_eq_self]
      simpa using fun s hs => (h s hs).1
    rw [split, hpieces, hkept, List.map_map]
    simp [Function.comp_def]

end Signpost.Segment
