import Mathlib.Logic.Relation
import Signpost.Proofs.Acceptance
/-!
# Slashes separate segments and do nothing else

A slash between two texts puts the segments of the second behind those of the first, and
segments that have been joined are found again. So texts have the same segments exactly
when they come to the same by dropping slashes at their ends and beside other slashes
(`split_eq_iff_sameButSlashes`), and exactly when all patterns match them alike
(`split_eq_iff_match?_eq`). Such texts mean the same everywhere, as templates and as paths
(`slashes_only_separate`).
-/

namespace Signpost

namespace Segment

/-- A text loses a slash that separates nothing: its first character or its last, or one of
two in a row. -/
inductive DropsSlash : String → String → Prop
  | first (a : String) : DropsSlash ("/" ++ a) a
  | last (a : String) : DropsSlash (a ++ "/") a
  | double (a b : String) : DropsSlash (a ++ "/" ++ "/" ++ b) (a ++ "/" ++ b)

/-- Texts that come to the same when they drop slashes. -/
def SameButSlashes : String → String → Prop :=
  Relation.Join (Relation.ReflTransGen DropsSlash)

variable {a b : String}

/-! ## Dropping slashes keeps the segments -/

theorem split_first_slash_append (a : String) : split ("/" ++ a) = split a := by
  have h : "" ++ "/" ++ a = "/" ++ a := by simp
  rw [← h, split_append_slash]
  rfl

theorem split_append_last_slash (a : String) : split (a ++ "/") = split a := by
  have h : a ++ "/" ++ "" = a ++ "/" := by simp
  rw [← h, split_append_slash]
  exact List.append_nil _

theorem DropsSlash.split_eq (h : DropsSlash a b) : split a = split b := by
  cases h with
  | first => exact split_first_slash_append b
  | last => exact split_append_last_slash b
  | double a b => rw [split_append_slash, split_append_last_slash, split_append_slash]

theorem split_eq_of_reflTransGen (h : Relation.ReflTransGen DropsSlash a b) :
    split a = split b := by
  induction h with
  | refl => rfl
  | tail _ hdrops ih => exact ih.trans hdrops.split_eq

/-! ## Dropping slashes leads to the joined segments -/

theorem join_cons {s : String} {rest : List String} (h : rest ≠ []) :
    join (s :: rest) = s ++ "/" ++ join rest :=
  String.intercalate_cons_of_ne_nil h

/-- Behind a slash, slashes are dropped as they are alone. -/
theorem DropsSlash.behind (s : String) (h : DropsSlash a b) :
    DropsSlash (s ++ "/" ++ a) (s ++ "/" ++ b) := by
  cases h with
  | first =>
    have he : s ++ "/" ++ ("/" ++ b) = s ++ "/" ++ "/" ++ b := String.append_assoc.symm
    exact he ▸ .double s b
  | last =>
    have he : s ++ "/" ++ (b ++ "/") = s ++ "/" ++ b ++ "/" := String.append_assoc.symm
    exact he ▸ .last (s ++ "/" ++ b)
  | double a b => simpa only [String.append_assoc] using DropsSlash.double (s ++ "/" ++ a) b

/-- Empty pieces leave nothing but slashes, and these are dropped one by one. -/
theorem reflTransGen_join_filter (pieces : List String) :
    Relation.ReflTransGen DropsSlash (join pieces) (join (pieces.filter (· ≠ ""))) := by
  induction pieces with
  | nil => exact .refl
  | cons s rest ih =>
    by_cases hrest : rest = []
    · subst hrest
      by_cases hs : s = "" <;> simp [hs, join, Relation.ReflTransGen.refl]
    · have hbehind := ih.lift (s ++ "/" ++ ·) fun _ _ => DropsSlash.behind s
      rw [join_cons hrest]
      by_cases hs : s = ""
      · -- The slash behind an empty piece comes first.
        subst hs
        rw [List.filter_cons_of_neg (by simp)]
        exact hbehind.tail (by simpa using DropsSlash.first _)
      · rw [List.filter_cons_of_pos (by simpa using hs)]
        by_cases hkept : rest.filter (· ≠ "") = []
        · -- The slash before nothing but empty pieces comes last.
          rw [hkept] at hbehind ⊢
          exact hbehind.tail (by simpa [join] using DropsSlash.last s)
        · rw [join_cons hkept]
          exact hbehind

/-- Every text comes to its segments, joined. -/
theorem reflTransGen_join_split (path : String) :
    Relation.ReflTransGen DropsSlash path (join (split path)) := by
  have hpath : join ((path.toList.splitOn '/').map String.ofList) = path := by
    rw [← String.toList_inj, join, String.toList_intercalate, List.map_map]
    simp [Function.comp_def, List.intercalate_splitOn]
  have hsplit : split path =
      ((path.toList.splitOn '/').map String.ofList).filter (· ≠ "") := by
    rw [split, List.filter_map]
    simp [Function.comp_def]
  have h := reflTransGen_join_filter ((path.toList.splitOn '/').map String.ofList)
  rwa [hpath, ← hsplit] at h

theorem split_eq_iff_sameButSlashes : split a = split b ↔ SameButSlashes a b := by
  constructor
  · intro h
    exact ⟨join (split a), reflTransGen_join_split a, h ▸ reflTransGen_join_split b⟩
  · rintro ⟨c, ha, hb⟩
    exact (split_eq_of_reflTransGen ha).trans (split_eq_of_reflTransGen hb).symm

/-! ## Segments are what patterns see -/

/-- A pattern of literals is matched by the texts that have just these segments. -/
theorem isSome_match?_ofItems_literal_iff :
    ((Pattern.ofItems ((split a).map .literal)).match? b).isSome = true ↔ split a = split b := by
  rw [Pattern.isSome_match?_iff, Pattern.ofItems, List.forall₂_map_right_iff]
  constructor
  · intro h
    rw [eq_comm, ← List.forall₂_eq_eq_eq]
    exact h.imp fun _ _ hmeets => (Item.meets_literal.1 hmeets).2.symm
  · intro h
    rw [← h, List.forall₂_same]
    exact fun s hs => Item.meets_literal.2 ⟨possible_of_mem_split hs, rfl⟩

theorem split_eq_iff_match?_eq :
    split a = split b ↔ ∀ p : Pattern, p.match? a = p.match? b := by
  constructor
  · intro h p
    rw [Pattern.match?, Pattern.match?, h]
  · intro h
    rw [← isSome_match?_ofItems_literal_iff, ← h, isSome_match?_ofItems_literal_iff]

end Segment

/-! ## Segments are what templates and tables see -/

namespace Template

/-- Templates that are read as equal patterns, down to the types, or have the same fault. -/
inductive ReadAlike (registry : Registry) (a b : String) : Prop
  | pattern {p q : Pattern} (left : parse registry a = .ok p) (right : parse registry b = .ok q)
      (equal : (p == q) = true) (items : p.items = q.items)
  | fault {d e : SyntaxError} (left : parse registry a = .error d)
      (right : parse registry b = .error e) (fault : d.fault = e.fault)

theorem readAlike_of_split_eq {a b : String} (h : Segment.split a = Segment.split b)
    (registry : Registry) : ReadAlike registry a b := by
  cases hread : readSegments registry [] (Segment.split a) with
  | ok items =>
    have ha : parse registry a = .ok ⟨a, items⟩ := parse_eq_ok_iff.2 ⟨rfl, hread⟩
    have hb : parse registry b = .ok ⟨b, items⟩ := parse_eq_ok_iff.2 ⟨rfl, h ▸ hread⟩
    exact .pattern ha hb (Pattern.beq_iff.2 (List.forall₂_same.2 fun _ _ => beq_self_eq_true _)) rfl
  | error fault =>
    have ha : parse registry a = .error ⟨a, fault⟩ := parse_eq_error_iff.2 ⟨rfl, hread⟩
    have hb : parse registry b = .error ⟨b, fault⟩ := parse_eq_error_iff.2 ⟨rfl, h ▸ hread⟩
    exact .fault ha hb rfl

end Template

namespace Table

/-- A table finds the same for two paths. -/
structure FindsAlike (t : Table) (a b : String) : Prop where
  route : ∀ method, t.route? method a = t.route? method b
  routeAny : t.routeAny? a = t.routeAny? b

theorem find?_eq_of_split_eq {a b : String} (h : Segment.split a = Segment.split b) (t : Table)
    (method : Option Method) : t.find? method a = t.find? method b := by
  rw [find?, find?, h]

/-- The one route of a table, if it has literals only, is found for the texts that have
just these segments. -/
theorem isSome_route?_literal_iff {order : Order} {method : Method} {handler a b : String} :
    ((built order [.insert method (.ofItems ((Segment.split a).map .literal)) handler]).route?
      method b).isSome = true ↔ Segment.split a = Segment.split b := by
  rw [route?, (sound_built _ _).find?_isSome_iff (all_some_iff method),
    ← Segment.isSome_match?_ofItems_literal_iff]
  simp [built, apply, empty]

theorem split_eq_iff_findsAlike {a b : String} :
    Segment.split a = Segment.split b ↔ ∀ order changes, (built order changes).FindsAlike a b := by
  constructor
  · intro h order changes
    exact ⟨fun method => find?_eq_of_split_eq h _ (some method), find?_eq_of_split_eq h _ none⟩
  · intro h
    have hroute := (h .declaration
      [.insert .get (.ofItems ((Segment.split a).map .literal)) ""]).route .get
    rw [← isSome_route?_literal_iff, ← hroute, isSome_route?_literal_iff]

end Table

namespace Segment

/-! ## Main theorem -/

/-- The segments of two texts with a slash between them are those of the first and then
those of the second; no segment is empty or has a slash in it; and segments that have been
joined are cut apart again. Texts have the same segments exactly when they differ in slashes
that separate nothing, and just then all patterns match them alike and all tables find the
same for them. As templates they are then read alike. -/
theorem slashes_only_separate :
    (∀ a b, split (a ++ "/" ++ b) = split a ++ split b) ∧
    (∀ path, ∀ s ∈ split path, s ≠ "" ∧ '/' ∉ s.toList) ∧
    (∀ segments, (∀ s ∈ segments, s ≠ "" ∧ '/' ∉ s.toList) → split (join segments) = segments) ∧
    ∀ a b, (split a = split b ↔ SameButSlashes a b) ∧
      (split a = split b ↔ ∀ p : Pattern, p.match? a = p.match? b) ∧
      (split a = split b ↔ ∀ order changes, (Table.built order changes).FindsAlike a b) ∧
      (split a = split b → ∀ registry, Template.ReadAlike registry a b) := by
  refine ⟨split_append_slash, fun path s hs => ?_, fun _ => split_join, fun a b => ?_⟩
  · exact possible_of_mem_split hs
  · exact ⟨split_eq_iff_sameButSlashes, split_eq_iff_match?_eq, Table.split_eq_iff_findsAlike,
      Template.readAlike_of_split_eq⟩

/-- Slashes around a path and twice in it change nothing, neither for a path with a route
nor for a template that repeats a name. -/
theorem user_found_between_more_slashes :
    (∀ s ∈ ["users", "7"], s ≠ "" ∧ '/' ∉ s.toList) ∧
    split (join ["users", "7"]) = ["users", "7"] ∧
    split "//users//7/" = split "users/7" ∧
    SameButSlashes "//users//7/" "users/7" ∧
    ((Table.built .specificity [Table.registerUser]).route? .get "users/7").isSome = true ∧
    (Table.built .specificity [Table.registerUser]).FindsAlike "//users//7/" "users/7" ∧
    split "/\x7ba\x7d//\x7ba\x7d" = split "\x7ba\x7d/\x7ba\x7d" ∧
    Template.ReadAlike .standard "/\x7ba\x7d//\x7ba\x7d" "\x7ba\x7d/\x7ba\x7d" := by
  have hparts : ∀ s ∈ ["users", "7"], s ≠ "" ∧ '/' ∉ s.toList := by decide
  have hpath : split "//users//7/" = split "users/7" := by decide
  have htemplate : split "/\x7ba\x7d//\x7ba\x7d" = split "\x7ba\x7d/\x7ba\x7d" := by decide
  obtain ⟨-, -, hjoin, halike⟩ := slashes_only_separate
  obtain ⟨hslashes, -, hfinds, -⟩ := halike "//users//7/" "users/7"
  obtain ⟨-, -, -, hread⟩ := halike "/\x7ba\x7d//\x7ba\x7d" "\x7ba\x7d/\x7ba\x7d"
  exact ⟨hparts, hjoin _ hparts, hpath, hslashes.1 hpath, by decide,
    hfinds.1 hpath .specificity [Table.registerUser], htemplate, hread htemplate .standard⟩

end Segment

end Signpost
