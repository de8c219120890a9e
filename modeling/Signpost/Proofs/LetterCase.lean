import Mathlib.Data.Bool.AllAny
import Mathlib.Data.List.Basic
import Signpost.Order
/-!
# Letter case and ASCII

Within ASCII the case mappings of Unicode are those of the alphabet. Into ASCII, a capital
comes from ten letters outside (`strayLetters`), and a small letter from the Kelvin sign
alone, which gives a `k`. So a text without these letters has capitals in ASCII only if it is
in ASCII itself, and nothing but its name in some case lowers to the name of an order
(`lower_eq_iff`).
-/

namespace Signpost.Text

/-! ## Tables -/

section Table

variable {expansions : List (Nat × List Nat)} {letters : CaseRun} {rest : List CaseRun}
  {strays : List Nat} {n : Nat}

/-- A table in which the letters of ASCII are a run of their own, and no code point outside
ASCII but a stray has its image in ASCII. -/
structure KeepsApart (expansions : List (Nat × List Nat)) (letters : CaseRun)
    (rest : List CaseRun) (strays : List Nat) : Prop where
  letters : letters.last < 128
  expansion : ∀ e ∈ expansions, 128 ≤ e.1 ∧ (e.1 ∈ strays ∨ ∃ m ∈ e.2, 128 ≤ m)
  run : ∀ r ∈ rest, 128 ≤ r.first ∧
    (r.first = r.last ∧ r.first ∈ strays ∨ 128 ≤ (r.first : Int) + r.shift)

theorem CaseRun.map?_eq_some_iff {r : CaseRun} {m : Nat} : r.map? n = some m ↔
    r.first ≤ n ∧ n ≤ r.last ∧ (n - r.first) % r.step = 0 ∧ (n + r.shift).toNat = m := by
  simp [map?, and_assoc]

theorem KeepsApart.mapCase_eq (h : KeepsApart expansions letters rest strays) (hn : n < 128) :
    mapCase expansions (letters :: rest) n = [(letters.map? n).getD n] := by
  have hlookup : expansions.lookup n = none := by
    rw [List.lookup_eq_none_iff]
    intro e he
    have hge := (h.expansion e he).1
    rw [bne_iff_ne]
    omega
  have hrest : rest.findSome? (·.map? n) = none := by
    rw [List.findSome?_eq_none_iff]
    intro r hr
    rw [Option.eq_none_iff_forall_ne_some]
    intro m hm
    have hge := (h.run r hr).1
    have hle := (CaseRun.map?_eq_some_iff.1 hm).1
    omega
  simp only [mapCase, hlookup, List.findSome?_cons, hrest]
  cases letters.map? n <;> rfl

theorem KeepsApart.exists_mem_mapCase (h : KeepsApart expansions letters rest strays)
    (hn : 128 ≤ n) (hstray : n ∉ strays) :
    ∃ m ∈ mapCase expansions (letters :: rest) n, 128 ≤ m := by
  unfold mapCase
  cases hlookup : expansions.lookup n with
  | some ms =>
    obtain ⟨front, back, hsplit, -⟩ := List.lookup_eq_some_iff.1 hlookup
    exact (h.expansion (n, ms) (by simp [hsplit])).2.resolve_left hstray
  | none =>
    cases hrun : (letters :: rest).findSome? (·.map? n) with
    | none => exact ⟨n, by simp, hn⟩
    | some m =>
      refine ⟨m, by simp, ?_⟩
      obtain ⟨r, hr, hm⟩ := List.exists_of_findSome?_eq_some hrun
      obtain ⟨hfirst, hlast, -, rfl⟩ := CaseRun.map?_eq_some_iff.1 hm
      rcases List.mem_cons.1 hr with rfl | hr
      · have hin := h.letters
        omega
      · rcases (h.run r hr).2 with ⟨hone, hmem⟩ | hout
        · obtain rfl : r.first = n := by omega
          exact absurd hmem hstray
        · omega

end Table

/-- The letters outside ASCII whose capitals are in ASCII. -/
def strayLetters : List Char := ['ß', 'ı', 'ſ', 'ﬀ', 'ﬁ', 'ﬂ', 'ﬃ', 'ﬄ', 'ﬅ', 'ﬆ']

theorem keepsApart_upper : KeepsApart upperExpansions ⟨0x61, 0x7A, 1, -32⟩ upperRuns.tail
    (strayLetters.map Char.toNat) where
  letters := by decide
  expansion := by decide +kernel
  run := by decide +kernel

/-- The Kelvin sign. -/
def kelvin : Char := '\u212A'

theorem keepsApart_lower :
    KeepsApart lowerExpansions ⟨0x41, 0x5A, 1, 32⟩ lowerRuns.tail [kelvin.toNat] where
  letters := by decide
  expansion := by decide +kernel
  run := by decide +kernel

/-! ## Characters -/

/-- The characters of ASCII, less the null character, which code points that are no
characters come to. -/
def IsAscii (c : Char) : Prop := 0 < c.toNat ∧ c.toNat < 128

instance (c : Char) : Decidable (IsAscii c) := inferInstanceAs (Decidable (_ ∧ _))

/-- What holds of the first 128 characters, one by one. -/
theorem forall_of_lt_128 {P : Char → Prop} (h : ∀ n < 128, P (Char.ofNat n)) {c : Char}
    (hc : c.toNat < 128) : P c := by
  have hP := h c.toNat hc
  rwa [Char.ofNat_toNat] at hP

theorem not_isAscii_ofNat {m : Nat} (h : 128 ≤ m) : ¬ IsAscii (Char.ofNat m) := by
  intro hascii
  by_cases hvalid : m.isValidChar
  · have hchar : Char.ofNat m = Char.ofNatAux m hvalid := dif_pos hvalid
    have hcode : (Char.ofNatAux m hvalid).toNat = m := UInt32.toNat_ofNatLT
    rw [hchar, IsAscii, hcode] at hascii
    omega
  · have hnull : Char.ofNat m = '\x00' := dif_neg hvalid
    rw [hnull] at hascii
    exact absurd hascii.1 (by decide)

/-- Only letters of ASCII change with their case, `z` and `Z` the last of them. -/
theorem toUpper_eq_self {c : Char} (h : 128 ≤ c.toNat) : c.toUpper = c :=
  dif_neg fun hletter => absurd (Nat.le_trans h (UInt32.le_iff_toNat_le.1 hletter.2)) (by decide)

theorem toLower_eq_self {c : Char} (h : 128 ≤ c.toNat) : c.toLower = c :=
  dif_neg fun hletter => absurd (Nat.le_trans h (UInt32.le_iff_toNat_le.1 hletter.2)) (by decide)

theorem not_mem_map_toNat {c : Char} {l : List Char} (h : c ∉ l) : c.toNat ∉ l.map Char.toNat := by
  intro hmem
  obtain ⟨d, hd, heq⟩ := List.mem_map.1 hmem
  exact h (Char.toNat_inj.1 heq ▸ hd)

theorem upperChar_of_lt {c : Char} (h : c.toNat < 128) : upperChar c = [c.toUpper] := by
  have hletter := forall_of_lt_128 (P := fun c =>
    Char.ofNat ((CaseRun.map? ⟨0x61, 0x7A, 1, -32⟩ c.toNat).getD c.toNat) = c.toUpper)
    (by decide +kernel) h
  have hcode := keepsApart_upper.mapCase_eq h
  rw [upperChar, ← hletter]
  exact congrArg (List.map Char.ofNat) hcode

theorem lowerChar_of_lt {c : Char} (h : c.toNat < 128) : lowerChar c = [c.toLower] := by
  have hletter := forall_of_lt_128 (P := fun c =>
    Char.ofNat ((CaseRun.map? ⟨0x41, 0x5A, 1, 32⟩ c.toNat).getD c.toNat) = c.toLower)
    (by decide +kernel) h
  have hcode := keepsApart_lower.mapCase_eq h
  rw [lowerChar, ← hletter]
  exact congrArg (List.map Char.ofNat) hcode

theorem exists_mem_upperChar {c : Char} (h : 128 ≤ c.toNat) (hstray : c ∉ strayLetters) :
    ∃ x ∈ upperChar c, ¬ IsAscii x := by
  obtain ⟨m, hm, hge⟩ := keepsApart_upper.exists_mem_mapCase h (not_mem_map_toNat hstray)
  exact ⟨Char.ofNat m, List.mem_map_of_mem hm, not_isAscii_ofNat hge⟩

theorem exists_mem_lowerChar {c : Char} (h : 128 ≤ c.toNat) (hkelvin : c ≠ kelvin) :
    ∃ x ∈ lowerChar c, ¬ IsAscii x := by
  obtain ⟨m, hm, hge⟩ := keepsApart_lower.exists_mem_mapCase (n := c.toNat) h (by
    rw [List.mem_singleton, Char.toNat_inj]
    exact hkelvin)
  exact ⟨Char.ofNat m, List.mem_map_of_mem hm, not_isAscii_ofNat hge⟩

theorem upperChar_ne_nil (c : Char) : upperChar c ≠ [] := by
  rcases Nat.lt_or_ge c.toNat 128 with hc | hc
  · simp [upperChar_of_lt hc]
  · by_cases hstray : c ∈ strayLetters
    · have hall : ∀ d ∈ strayLetters, upperChar d ≠ [] :=
        List.all_iff_forall_prop.1 (by decide +kernel)
      exact hall c hstray
    · obtain ⟨x, hx, -⟩ := exists_mem_upperChar hc hstray
      exact List.ne_nil_of_mem hx

/-! ## Texts -/

theorem toList_upper (s : String) : (upper s).toList = s.toList.flatMap upperChar :=
  String.toList_ofList

theorem upper_ne_empty_iff {s : String} : upper s ≠ "" ↔ s ≠ "" := by
  have hnil : s.toList.flatMap upperChar = [] ↔ s.toList = [] := by
    rw [List.flatMap_eq_nil_iff]
    exact ⟨fun h => List.eq_nil_iff_forall_not_mem.2 fun c hc => upperChar_ne_nil c (h c hc),
      fun h => by simp [h]⟩
  rw [← toList_upper, String.toList_eq_nil_iff, String.toList_eq_nil_iff] at hnil
  exact not_congr hnil

/-- A text with its stray letters written out, in capitals. -/
def spelled (s : String) : String :=
  String.ofList (s.toList.flatMap fun c => if c ∈ strayLetters then upperChar c else [c])

theorem upperChars_upperChar {c : Char} (h : c ∈ strayLetters) :
    upperChars (upperChar c) = upperChar c := by
  have hall : ∀ d ∈ strayLetters, upperChars (upperChar d) = upperChar d :=
    List.all_iff_forall_prop.1 (by decide +kernel)
  exact hall c h

/-- Stray letters have the capitals of what they are spelled with. -/
theorem upper_spelled (s : String) : upper (spelled s) = upper s := by
  have hchar : ∀ c, (if c ∈ strayLetters then upperChar c else [c]).flatMap upperChar =
      upperChar c := by
    intro c
    split
    · rename_i hstray
      exact upperChars_upperChar hstray
    · exact List.flatMap_singleton upperChar c
  rw [← String.toList_inj, toList_upper, toList_upper, spelled, String.toList_ofList,
    List.flatMap_assoc]
  exact List.flatMap_congr fun c _ => hchar c

theorem spelled_eq {s : String} (h : ∀ c ∈ s.toList, c ∉ strayLetters) : spelled s = s := by
  have hchars : s.toList.flatMap (fun c => if c ∈ strayLetters then upperChar c else [c]) =
      s.toList.flatMap fun c => [c] :=
    List.flatMap_congr fun c hc => if_neg (h c hc)
  rw [spelled, hchars, List.flatMap_singleton', String.ofList_toList]

/-- Texts that differ at most in the case of ASCII letters, which is all that `Char.toLower`
changes. -/
def SameButCase (s t : String) : Prop :=
  s.toList.map Char.toLower = t.toList.map Char.toLower

instance (s t : String) : Decidable (SameButCase s t) := inferInstanceAs (Decidable (_ = _))

theorem toLower_toUpper (c : Char) : c.toUpper.toLower = c.toLower := by
  rcases Nat.lt_or_ge c.toNat 128 with hc | hc
  · exact forall_of_lt_128 (P := fun c => c.toUpper.toLower = c.toLower) (by decide +kernel) hc
  · rw [toUpper_eq_self hc]

theorem toUpper_toLower (c : Char) : c.toLower.toUpper = c.toUpper := by
  rcases Nat.lt_or_ge c.toNat 128 with hc | hc
  · exact forall_of_lt_128 (P := fun c => c.toLower.toUpper = c.toUpper) (by decide +kernel) hc
  · rw [toLower_eq_self hc]

theorem map_toUpper_eq_iff {s t : String} :
    s.toList.map Char.toUpper = t.toList.map Char.toUpper ↔ SameButCase s t := by
  have hlower : Char.toLower ∘ Char.toUpper = Char.toLower := funext toLower_toUpper
  have hupper : Char.toUpper ∘ Char.toLower = Char.toUpper := funext toUpper_toLower
  constructor
  · intro h
    have hmap := congrArg (List.map Char.toLower) h
    rwa [List.map_map, List.map_map, hlower] at hmap
  · intro h
    have hmap := congrArg (List.map Char.toUpper) h
    rwa [List.map_map, List.map_map, hupper] at hmap

theorem toList_upper_of_lt {s : String} (h : ∀ c ∈ s.toList, c.toNat < 128) :
    (upper s).toList = s.toList.map Char.toUpper := by
  rw [toList_upper, List.map_eq_flatMap]
  exact List.flatMap_congr fun c hc => upperChar_of_lt (h c hc)

/-- A character lowers by itself to the front of what a text lowers to. What comes of one
outside ASCII is there again, or is a `k`. -/
theorem lowerFrom_cons (before : List Char) (c : Char) (cs : List Char) :
    ∃ front, lowerFrom before (c :: cs) = front ++ lowerFrom (c :: before) cs ∧
      (c.toNat < 128 → front = [c.toLower]) ∧
      (128 ≤ c.toNat → ∃ x ∈ front, ¬ IsAscii x ∨ x = 'k') := by
  refine ⟨_, rfl, fun hc => ?_, fun hc => ?_⟩
  · have hsigma : c ≠ 'Σ' := by
      rintro rfl
      revert hc
      decide
    rw [if_neg hsigma, lowerChar_of_lt hc]
  · split
    · refine ⟨_, List.mem_singleton_self _, .inl ?_⟩
      split <;> decide
    · by_cases hkelvin : c = kelvin
      · subst hkelvin
        exact ⟨'k', by decide, .inr rfl⟩
      · obtain ⟨x, hx, hout⟩ := exists_mem_lowerChar hc hkelvin
        exact ⟨x, hx, .inl hout⟩

theorem lt_of_isAscii_toLower {c : Char} (h : IsAscii c.toLower) : c.toNat < 128 := by
  by_contra hge
  rw [toLower_eq_self (Nat.not_lt.1 hge)] at h
  exact hge h.2

/-- A text of ASCII without `k` comes by lowering from ASCII only, however long the text is
that it comes from. -/
theorem lowerFrom_eq_iff {before cs ts : List Char} (ht : ∀ c ∈ ts, IsAscii c ∧ c ≠ 'k') :
    lowerFrom before cs = ts ↔ cs.map Char.toLower = ts := by
  induction cs generalizing before ts with
  | nil => rfl
  | cons c cs ih =>
    obtain ⟨front, hfront, hin, hout⟩ := lowerFrom_cons before c cs
    rw [hfront, List.map_cons]
    rcases Nat.lt_or_ge c.toNat 128 with hc | hc
    · rw [hin hc, List.singleton_append]
      cases ts with
      | nil => simp
      | cons x ts =>
        rw [List.forall_mem_cons] at ht
        rw [List.cons.injEq, List.cons.injEq, ih ht.2]
    · refine iff_of_false (fun h => ?_) (fun h => ?_)
      · obtain ⟨x, hx, hno⟩ := hout hc
        obtain ⟨hascii, hk⟩ := ht x (h ▸ List.mem_append_left _ hx)
        exact hno.elim (fun hx => hx hascii) hk
      · have hascii := (ht c.toLower (h ▸ List.mem_cons_self)).1
        have hlt := lt_of_isAscii_toLower hascii
        omega

theorem lower_eq_iff {s t : String} (ht : ∀ c ∈ t.toList, IsAscii c ∧ c ≠ 'k') :
    lower s = t ↔ s.toList.map Char.toLower = t.toList := by
  rw [← String.toList_inj, lower, String.toList_ofList, lowerFrom_eq_iff ht]

end Signpost.Text
