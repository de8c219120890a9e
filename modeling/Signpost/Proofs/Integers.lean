import Signpost.Proofs.Lookup
import Signpost.Proofs.Rebuilding
/-!
# The type `int`

The type `int` takes the decimal integers of 32 bits, however many zeros lead them, and
gives back their values. A segment that is none of them is no error: a pattern with an `int`
there does not match the path, and a lookup goes on as if the table did not have the route
(`int_exact`).
-/

namespace Signpost

/-- A segment that writes an integer of 32 bits in decimal. -/
structure IsInt (segment : String) (v : Int) : Prop where
  signed : Decimal.IsSigned segment.toList v
  lower : -2147483648 ≤ v
  upper : v ≤ 2147483647

theorem isInt_toInt_iff {segment : String} {n : Int32} :
    IsInt segment n.toInt ↔ Decimal.int32? segment = some n := by
  rw [Decimal.int32?_eq_some_iff]
  exact ⟨IsInt.signed, fun h => ⟨h, n.minValue_le_toInt, n.toInt_le⟩⟩

namespace ParamType

variable {segment : String} {v : Int}

/-- A segment that writes an integer in range is taken to that integer. -/
theorem isInt_iff :
    IsInt segment v ↔ ∃ n : Int32, n.toInt = v ∧ int.convert segment = some (.int n) := by
  simp only [convert_int, Option.map_eq_some_iff, Value.int.injEq, exists_eq_right,
    ← isInt_toInt_iff]
  constructor
  · intro h
    have hv : (Int32.ofInt v).toInt = v :=
      Int32.toInt_ofInt_of_le h.lower (Int.lt_add_one_of_le h.upper)
    exact ⟨Int32.ofInt v, hv, by rwa [hv]⟩
  · rintro ⟨n, rfl, h⟩
    exact h

theorem isSome_convert_int_iff :
    (int.convert segment).isSome = true ↔ ∃ v, IsInt segment v := by
  rw [convert_int, Option.isSome_map, Option.isSome_iff_exists]
  constructor
  · rintro ⟨n, hn⟩
    exact ⟨n.toInt, isInt_toInt_iff.2 hn⟩
  · rintro ⟨v, hv⟩
    obtain ⟨n, rfl, -⟩ := isInt_iff.1 hv
    exact ⟨n, isInt_toInt_iff.1 hv⟩

end ParamType

namespace Pattern

/-- At some position the pattern has an `int`, and the path has none. -/
def StumblesOver (p : Pattern) (path : String) : Prop :=
  ∃ (i : Nat) (name segment : String), p.items[i]? = some (.parameter name .int) ∧
    (Segment.split path)[i]? = some segment ∧ ∀ v, ¬ IsInt segment v

theorem not_stumblesOver_of_match? {p : Pattern} {path : String}
    (h : (p.match? path).isSome = true) : ¬ p.StumblesOver path := by
  rintro ⟨i, name, segment, hitem, hsegment, hno⟩
  obtain ⟨b, hb⟩ := Option.isSome_iff_exists.1 h
  have hfits := (match?_eq_some_iff.1 hb).1
  obtain ⟨v, hv⟩ :=
    ParamType.isSome_convert_int_iff.1 (hfits.parameter i name .int segment hitem hsegment)
  exact hno v hv

theorem StumblesOver.match?_eq_none {p : Pattern} {path : String} (h : p.StumblesOver path) :
    p.match? path = none := by
  rw [← Option.not_isSome_iff_eq_none]
  exact fun hmatch => not_stumblesOver_of_match? hmatch h

end Pattern

/-- In a template of the standard types, the tag `int` stands for the type `int`. -/
theorem Template.eq_int_of_parse {template name : String} {p : Pattern} {type : ParamType}
    (h : parse .standard template = .ok p) (hmem : .parameter name type ∈ p.items)
    (htag : type.tag = "int") : type = .int := by
  cases standard_of_parse h _ hmem with
  | string => exact absurd htag (by decide)
  | int => rfl

namespace Table

variable {t : Table} {wanted : Route → Prop} {path : String} {hit : Hit}

/-- The walk through a bucket goes on from a route that stumbles to the next. -/
theorem firstHit?_cons_of_stumblesOver {r : Route} (h : r.pattern.StumblesOver path)
    (method : Option Method) (rs : List Route) :
    firstHit? method (Segment.split path) (r :: rs) = firstHit? method (Segment.split path) rs := by
  have hnone : r.pattern.matchSegments? (Segment.split path) = none := h.match?_eq_none
  rw [firstHit?, hnone]
  split <;> rfl

/-- No hit is among the routes that stumble. -/
theorem isHit_iff_not_stumblesOver {routes : List Route} : IsHit routes wanted path hit ↔
    IsHit routes (fun r => wanted r ∧ ¬ r.pattern.StumblesOver path) path hit := by
  constructor
  · intro h
    exact ⟨h.mem, ⟨h.wanted, Pattern.not_stumblesOver_of_match? (by simp [h.matched])⟩, h.matched⟩
  · intro h
    exact ⟨h.mem, h.wanted.1, h.matched⟩

theorem isFirstHit_iff_not_stumblesOver {order : Order} {routes : List Route} :
    IsFirstHit order routes wanted path hit ↔
      IsFirstHit order routes (fun r => wanted r ∧ ¬ r.pattern.StumblesOver path) path hit := by
  unfold IsFirstHit
  simp only [← isHit_iff_not_stumblesOver]

/-! ## Main theorem -/

/-- The type `int` takes exactly the segments that write an integer of 32 bits, each to that
integer. A template of the standard types never matches a path with another segment where it
has an `int`. The walk through a bucket goes on from such a route to the next, so after any
history a lookup answers as it would among the routes that do not stumble. -/
theorem int_exact (segment path : String) :
    (∀ v, IsInt segment v ↔
      ∃ n : Int32, n.toInt = v ∧ ParamType.int.convert segment = some (.int n)) ∧
    ((ParamType.int.convert segment).isSome = true ↔ ∃ v, IsInt segment v) ∧
    (∀ template p, Template.parse .standard template = .ok p → ∀ (i : Nat) name type,
      p.items[i]? = some (.parameter name type) → type.tag = "int" →
      (Segment.split path)[i]? = some segment → (∀ v, ¬ IsInt segment v) →
        p.match? path = none) ∧
    (∀ (r : Route) rs method, r.pattern.StumblesOver path →
      firstHit? method (Segment.split path) (r :: rs) =
        firstHit? method (Segment.split path) rs) ∧
    ∀ order changes method,
      (((built order changes).find? method path).isSome = true ↔
        ∃ r ∈ (built order changes).routes, (Asks method r ∧ ¬ r.pattern.StumblesOver path) ∧
          (r.pattern.match? path).isSome = true) ∧
      ∀ hit, (built order changes).find? method path = some hit ↔
        IsFirstHit order (built order changes).routes
          (fun r => Asks method r ∧ ¬ r.pattern.StumblesOver path) path hit := by
  refine ⟨fun v => ParamType.isInt_iff, ParamType.isSome_convert_int_iff, ?_,
    fun r rs method h => firstHit?_cons_of_stumblesOver h method rs, ?_⟩
  · intro template p hp i name type hitem htag hsegment hno
    obtain rfl := Template.eq_int_of_parse hp (List.mem_of_getElem? hitem) htag
    exact Pattern.StumblesOver.match?_eq_none ⟨i, name, segment, hitem, hsegment, hno⟩
  · intro order changes method
    have hsound := sound_built order changes
    refine ⟨?_, fun hit => ?_⟩
    · rw [hsound.find?_isSome_iff (asks_iff method)]
      refine exists_congr fun r => and_congr_right fun _ => ?_
      constructor
      · rintro ⟨hasks, hmatch⟩
        exact ⟨⟨hasks, Pattern.not_stumblesOver_of_match? hmatch⟩, hmatch⟩
      · rintro ⟨⟨hasks, -⟩, hmatch⟩
        exact ⟨hasks, hmatch⟩
    · rw [hsound.find?_eq_some_iff (asks_iff method), isFirstHit_iff_not_stumblesOver,
        order_built]

def userByName : Addition :=
  ⟨.get, ⟨"users/\x7bname\x7d", [.literal "users", .parameter "name" .string]⟩, "by name"⟩

def userByNumber : Addition :=
  ⟨.get, ⟨"users/\x7bid:int\x7d", [.literal "users", .parameter "id" .int]⟩, "by number"⟩

/-- The least integer of 32 bits is one, and the number after the greatest is none: a route by
number does not match it, and a lookup goes on to the route by name. -/
theorem too_great_goes_on_to_name :
    IsInt "-2147483648" (-2147483648) ∧ (∀ v, ¬ IsInt "002147483648" v) ∧
    userByNumber.pattern.match? "users/002147483648" = none ∧
    firstHit? none (Segment.split "users/002147483648")
      [userByNumber.route 0, userByName.route 1] =
        firstHit? none (Segment.split "users/002147483648") [userByName.route 1] ∧
    ∃ hit, (built .specificity [userByNumber.insertion, userByName.insertion]).find? none
      "users/002147483648" = some hit ∧ hit.route = userByName.route 1 := by
  obtain ⟨hleast, -⟩ := int_exact "-2147483648" "users"
  obtain ⟨-, hsome, hmatch, hstep, hlookup⟩ := int_exact "002147483648" "users/002147483648"
  have hno : ∀ v, ¬ IsInt "002147483648" v := by
    intro v hv
    exact absurd (hsome.2 ⟨v, hv⟩) (by decide)
  have hparse : Template.parse .standard "users/\x7bid:int\x7d" = .ok userByNumber.pattern := rfl
  have hnone := hmatch _ _ hparse 1 "id" .int rfl rfl rfl hno
  have hstumbles : userByNumber.pattern.StumblesOver "users/002147483648" :=
    ⟨1, "id", "002147483648", rfl, rfl, hno⟩
  have hmatched : (userByName.pattern.match? "users/002147483648").isSome = true := by decide
  obtain ⟨hfinds, hfound⟩ :=
    hlookup .specificity [userByNumber.insertion, userByName.insertion] none
  have hroutes : (built .specificity [userByNumber.insertion, userByName.insertion]).routes =
      [userByNumber.route 0, userByName.route 1] := rfl
  have hpasses := Pattern.not_stumblesOver_of_match? hmatched
  obtain ⟨hit, hhit⟩ := Option.isSome_iff_exists.1
    (hfinds.2 ⟨userByName.route 1, by simp [hroutes], ⟨rfl, hpasses⟩, hmatched⟩)
  refine ⟨(hleast _).2 ⟨-2147483648, by decide, by decide⟩, hno, hnone,
    hstep (userByNumber.route 0) _ _ hstumbles, hit, hhit, ?_⟩
  have hmem := ((hfound hit).1 hhit).1.mem
  rw [hroutes, List.mem_cons, List.mem_singleton] at hmem
  refine hmem.resolve_left fun hnumber => ?_
  have hmatches := ((hfound hit).1 hhit).1.matched
  rw [hnumber] at hmatches
  cases hnone.symm.trans hmatches

end Table

end Signpost
