import Signpost.Command
import Signpost.Proofs.LetterCase
/-!
# Texts that pass for a method

Manifests and `match` check a method after they have put it in capitals. So texts pass that
are no method names: a letter outside ASCII stands for the capitals that it has in ASCII
(`long_s_passes`). Texts of token characters and such letters pass, and no others; two of
them mean one method exactly when they are equal but for the case of ASCII letters once the
stray letters are written out (`passing_exact`).
-/

namespace Signpost

/-! ## Capitals of token characters -/

theorem isToken_iff {s : String} :
    isToken s = true ↔ s ≠ "" ∧ ∀ c ∈ s.toList, isTokenChar c = true := by
  simp [isToken]

theorem isAscii_of_isTokenChar {c : Char} (h : isTokenChar c = true) : Text.IsAscii c := by
  simp only [isTokenChar, Bool.or_eq_true, List.contains_eq_mem, decide_eq_true_eq] at h
  rcases h with h | h
  · unfold Char.isAlphanum Char.isAlpha Char.isUpper Char.isLower Char.isDigit at h
    simp only [Bool.or_eq_true, Bool.and_eq_true, decide_eq_true_eq,
      UInt32.le_iff_toNat_le] at h
    have h0 : '0'.val.toNat = 48 := rfl
    have hA : 'A'.val.toNat = 65 := rfl
    have ha : 'a'.val.toNat = 97 := rfl
    have h9 : '9'.val.toNat = 57 := rfl
    have hZ : 'Z'.val.toNat = 90 := rfl
    have hz : 'z'.val.toNat = 122 := rfl
    have hc : c.toNat = c.val.toNat := rfl
    constructor <;> omega
  · have hmarks : ∀ d ∈ "!#$%&'*+-.^_`|~".toList, Text.IsAscii d :=
      List.all_iff_forall_prop.1 (by decide)
    exact hmarks c h

theorem isTokenChar_toUpper {c : Char} (h : c.toNat < 128) :
    isTokenChar c.toUpper = isTokenChar c :=
  Text.forall_of_lt_128 (P := fun c => isTokenChar c.toUpper = isTokenChar c)
    (by decide +kernel) h

theorem not_mem_strayLetters {c : Char} (h : c.toNat < 128) : c ∉ Text.strayLetters := by
  have hall : ∀ d ∈ Text.strayLetters, 128 ≤ d.toNat := List.all_iff_forall_prop.1 (by decide)
  intro hmem
  have hge := hall c hmem
  omega

theorem isTokenChar_of_mem_upperChar {c x : Char} (hc : c ∈ Text.strayLetters)
    (hx : x ∈ Text.upperChar c) : isTokenChar x = true := by
  have hall : ∀ d ∈ Text.strayLetters, (Text.upperChar d).all isTokenChar = true :=
    List.all_iff_forall_prop.1 (by decide +kernel)
  exact List.all_eq_true.1 (hall c hc) x hx

/-- A character has capitals that are token characters when it is one itself, or a stray. -/
theorem forall_isTokenChar_upperChar_iff {c : Char} :
    (∀ x ∈ Text.upperChar c, isTokenChar x = true) ↔
      isTokenChar c = true ∨ c ∈ Text.strayLetters := by
  rcases Nat.lt_or_ge c.toNat 128 with hc | hc
  · simp [Text.upperChar_of_lt hc, isTokenChar_toUpper hc, not_mem_strayLetters hc]
  · have hno : isTokenChar c ≠ true := fun h => Nat.not_le.2 (isAscii_of_isTokenChar h).2 hc
    by_cases hstray : c ∈ Text.strayLetters
    · exact iff_of_true (fun x hx => isTokenChar_of_mem_upperChar hstray hx) (.inr hstray)
    · refine iff_of_false (fun h => ?_) (by simp [hno, hstray])
      obtain ⟨x, hx, hout⟩ := Text.exists_mem_upperChar hc hstray
      exact hout (isAscii_of_isTokenChar (h x hx))

namespace Method

/-- Texts that pass for a method: they have token characters and stray letters only. -/
structure Passes (s : String) : Prop where
  ne_empty : s ≠ ""
  char : ∀ c ∈ s.toList, isTokenChar c = true ∨ c ∈ Text.strayLetters

theorem isToken_upper_iff {s : String} : isToken (Text.upper s) = true ↔ Passes s := by
  have hchars : (∀ x ∈ s.toList.flatMap Text.upperChar, isTokenChar x = true) ↔
      ∀ c ∈ s.toList, isTokenChar c = true ∨ c ∈ Text.strayLetters := by
    simp only [List.mem_flatMap, forall_exists_index, and_imp, ← forall_isTokenChar_upperChar_iff]
    exact ⟨fun h c hc x hx => h x c hc hx, fun h x c hc hx => h c hc x hx⟩
  rw [isToken_iff, Text.upper_ne_empty_iff, Text.toList_upper, hchars]
  exact ⟨fun h => ⟨h.1, h.2⟩, fun h => ⟨h.ne_empty, h.char⟩⟩

theorem ofAnyCase?_eq_none_iff_not_passes {s : String} : ofAnyCase? s = none ↔ ¬ Passes s := by
  rw [ofAnyCase?_eq_none_iff, ← isToken_upper_iff, Bool.not_eq_true]

/-- A text that passes names a method, unless it has stray letters. -/
theorem Passes.isToken_iff {s : String} (h : Passes s) :
    isToken s = true ↔ ∀ c ∈ s.toList, c ∉ Text.strayLetters := by
  rw [Signpost.isToken_iff, and_iff_right h.ne_empty]
  constructor
  · intro htoken c hc
    exact not_mem_strayLetters (isAscii_of_isTokenChar (htoken c hc)).2
  · intro hno c hc
    exact (h.char c hc).resolve_right (hno c hc)

theorem passes_of_isToken {s : String} (h : isToken s = true) : Passes s where
  ne_empty := (isToken_iff.1 h).1
  char c hc := .inl ((isToken_iff.1 h).2 c hc)

/-! ## The method that is meant -/

/-- Spelled out, a text that passes is one of ASCII. -/
theorem Passes.lt_of_mem_spelled {s : String} (h : Passes s) :
    ∀ c ∈ (Text.spelled s).toList, c.toNat < 128 := by
  intro x hx
  rw [Text.spelled, String.toList_ofList, List.mem_flatMap] at hx
  obtain ⟨c, hc, hx⟩ := hx
  split at hx
  · rename_i hstray
    exact (isAscii_of_isTokenChar (isTokenChar_of_mem_upperChar hstray hx)).2
  · rename_i hstray
    obtain rfl := List.mem_singleton.1 hx
    exact (isAscii_of_isTokenChar ((h.char x hc).resolve_right hstray)).2

theorem Passes.toList_upper {s : String} (h : Passes s) :
    (Text.upper s).toList = (Text.spelled s).toList.map Char.toUpper := by
  rw [← Text.upper_spelled, Text.toList_upper_of_lt h.lt_of_mem_spelled]

theorem ofAnyCase?_eq_iff_upper_eq {s other : String} (h : Passes s) :
    ofAnyCase? s = ofAnyCase? other ↔ Text.upper s = Text.upper other := by
  constructor
  · intro heq
    have hsome : ofAnyCase? s = some ⟨Text.upper s, isToken_upper_iff.2 h⟩ :=
      ofAnyCase?_eq_some_iff.2 rfl
    rw [heq] at hsome
    exact ofAnyCase?_eq_some_iff.1 hsome
  · intro heq
    rw [ofAnyCase?, heq, ofAnyCase?]

theorem Passes.ofAnyCase?_eq_iff {s other : String} (h : Passes s) (h' : Passes other) :
    ofAnyCase? s = ofAnyCase? other ↔
      Text.SameButCase (Text.spelled s) (Text.spelled other) := by
  rw [ofAnyCase?_eq_iff_upper_eq h, ← String.toList_inj, h.toList_upper, h'.toList_upper,
    Text.map_toUpper_eq_iff]

theorem spelled_of_isToken {s : String} (h : isToken s = true) : Text.spelled s = s :=
  Text.spelled_eq ((passes_of_isToken h).isToken_iff.1 h)

/-! ## The two checks -/

/-- A manifest takes a declaration's method for invalid exactly if it does not pass. -/
theorem addTo_eq_invalidMethod_iff {d : Declaration} {position : Nat} {t : Table} :
    d.addTo position t = .error (.invalidMethod position d) ↔ ¬ Passes d.method := by
  rw [← ofAnyCase?_eq_none_iff_not_passes]
  unfold Declaration.addTo
  cases hmethod : ofAnyCase? d.method with
  | none => simp
  | some method =>
    cases hroute : t.register method d.path d.handler with
    | error cause => simp [hroute]
    | ok added => simp [hroute]

theorem outcome_eq_invalidMethod_iff {request : Command.Request} {file : String} {t : Table} :
    (Command.Task.resolve request).outcome file t = .error (.invalidMethod request.method) ↔
      ¬ Passes request.method := by
  rw [← ofAnyCase?_eq_none_iff_not_passes]
  unfold Command.Task.outcome
  cases hmethod : ofAnyCase? request.method with
  | none => simp [hmethod]
  | some method => simp [hmethod]

/-! ## Main theorem -/

/-- Manifests and `match` let the same texts pass: those of token characters and stray
letters. So a text without stray letters passes exactly if it is a method name, and one with
them may pass but is none. Texts that pass mean the same method exactly if they are equal
but for case once they are spelled out; for method names, that is if they are equal but for
case themselves. -/
theorem passing_exact (s other : String) :
    (∀ path handler position t,
      Declaration.addTo ⟨s, path, handler⟩ position t ≠
        .error (.invalidMethod position ⟨s, path, handler⟩) ↔ Passes s) ∧
    (∀ path file t,
      (Command.Task.resolve ⟨s, path⟩).outcome file t ≠ .error (.invalidMethod s) ↔ Passes s) ∧
    ((Passes s ↔ isToken s = true) ↔ ¬ (Passes s ∧ ∃ c ∈ s.toList, c ∈ Text.strayLetters)) ∧
    (Passes s → Passes other → (ofAnyCase? s = ofAnyCase? other ↔
      Text.SameButCase (Text.spelled s) (Text.spelled other))) ∧
    (isToken s = true → isToken other = true →
      (ofAnyCase? s = ofAnyCase? other ↔ Text.SameButCase s other)) := by
  refine ⟨fun path handler position t => ?_, fun path file t => ?_, ?_,
    Passes.ofAnyCase?_eq_iff, fun hs hother => ?_⟩
  · rw [ne_eq, addTo_eq_invalidMethod_iff, not_not]
  · have hcheck : (Command.Task.resolve ⟨s, path⟩).outcome file t = .error (.invalidMethod s) ↔
        ¬ Passes s := outcome_eq_invalidMethod_iff
    rw [ne_eq, hcheck, not_not]
  · constructor
    · rintro hiff ⟨hpasses, c, hc, hstray⟩
      exact hpasses.isToken_iff.1 (hiff.1 hpasses) c hc hstray
    · intro hno
      refine ⟨fun hpasses => hpasses.isToken_iff.2 fun c hc hstray => ?_, passes_of_isToken⟩
      exact hno ⟨hpasses, c, hc, hstray⟩
  · rw [(passes_of_isToken hs).ofAnyCase?_eq_iff (passes_of_isToken hother),
      spelled_of_isToken hs, spelled_of_isToken hother]

/-- A search in any case is one method; an `ſ` passes for the `s` in it. -/
theorem m_search_in_any_case :
    ofAnyCase? "m-search" = ofAnyCase? "M-Search" ∧
    ofAnyCase? "m-ſearch" = ofAnyCase? "M-Search" := by
  have hlong : Passes "m-ſearch" := isToken_upper_iff.1 (by decide +kernel)
  have hname : Passes "M-Search" := passes_of_isToken (by decide)
  obtain ⟨-, -, -, -, hnames⟩ := passing_exact "m-search" "M-Search"
  obtain ⟨-, -, -, htexts, -⟩ := passing_exact "m-ſearch" "M-Search"
  exact ⟨(hnames (by decide) (by decide)).2 (by decide), (htexts hlong hname).2 (by decide +kernel)⟩

/-- The text `poſt` is no method name, and differs from `post` in more than case. It passes
in a manifest all the same, and means the same method. -/
theorem long_s_passes :
    isToken "poſt" = false ∧ ¬ Text.SameButCase "poſt" "post" ∧
    Declaration.addTo ⟨"poſt", "users", "create_user"⟩ 1 (.empty .specificity) ≠
      .error (.invalidMethod 1 ⟨"poſt", "users", "create_user"⟩) ∧
    ofAnyCase? "poſt" = ofAnyCase? "post" := by
  have hpasses : Passes "poſt" := isToken_upper_iff.1 (by decide +kernel)
  have hpost : Passes "post" := passes_of_isToken (by decide)
  refine ⟨by decide, by decide, ?_, (hpasses.ofAnyCase?_eq_iff hpost).2 (by decide +kernel)⟩
  rw [ne_eq, addTo_eq_invalidMethod_iff, not_not]
  exact hpasses

end Method

end Signpost
