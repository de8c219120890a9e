import Signpost.Decimal
/-!
# Numbers in decimal

Digits stand for a number by their places. A number has many decimal texts, for a plus sign
and leading zeros may be there or not: these texts, as long as they may be, and no others
are read as a number, if it is in range (`int32?_eq_some_iff`, `nat64?_eq_some_iff`). The
text that a number is written with is one of them (`int32?_toString`).
-/

namespace Signpost.Decimal

variable {cs : List Char} {n : Nat}

/-! ## Signs -/

/-- Digits need no sign. -/
theorem integer?_of_natural? (h : natural? cs = some n) : integer? cs = some (n : Int) := by
  obtain ⟨-, hdigits, -⟩ := natural?_eq_some_iff.1 h
  unfold integer?
  split
  · have hplus := hdigits '+' List.mem_cons_self
    cases hplus
  · have hminus := hdigits '-' List.mem_cons_self
    cases hminus
  · rw [h]
    rfl

/-- An integer is written by digits, after one sign or none. -/
theorem integer?_eq_some_iff {k : Int} : integer? cs = some k ↔
    ∃ sign digits n, cs = sign ++ digits ∧ natural? digits = some n ∧
      (sign = [] ∧ k = n ∨ sign = ['+'] ∧ k = n ∨ sign = ['-'] ∧ k = -n) := by
  constructor
  · intro h
    unfold integer? at h
    split at h
    · rename_i digits
      obtain ⟨n, hn, rfl⟩ := Option.map_eq_some_iff.1 h
      exact ⟨['+'], digits, n, rfl, hn, .inr (.inl ⟨rfl, rfl⟩)⟩
    · rename_i digits
      obtain ⟨n, hn, rfl⟩ := Option.map_eq_some_iff.1 h
      exact ⟨['-'], digits, n, rfl, hn, .inr (.inr ⟨rfl, rfl⟩)⟩
    · obtain ⟨n, hn, rfl⟩ := Option.map_eq_some_iff.1 h
      exact ⟨[], cs, n, rfl, hn, .inl ⟨rfl, rfl⟩⟩
  · rintro ⟨sign, digits, n, rfl, hn, ⟨rfl, rfl⟩ | ⟨rfl, rfl⟩ | ⟨rfl, rfl⟩⟩
    · exact integer?_of_natural? hn
    · simp [integer?, hn]
    · simp [integer?, hn]

/-- What writes an integer is a text without slashes, and not empty. -/
theorem ne_nil_and_slash_not_mem_of_integer? {k : Int} (h : integer? cs = some k) :
    cs ≠ [] ∧ '/' ∉ cs := by
  obtain ⟨sign, digits, n, rfl, hn, hsign⟩ := integer?_eq_some_iff.1 h
  obtain ⟨hne, hdigits, -⟩ := natural?_eq_some_iff.1 hn
  have hslash : '/' ∉ digits := by
    intro hmem
    have hdigit := hdigits '/' hmem
    cases hdigit
  refine ⟨by simp [hne], ?_⟩
  rcases hsign with ⟨rfl, -⟩ | ⟨rfl, -⟩ | ⟨rfl, -⟩ <;> simpa using hslash

/-! ## Numerals -/

/-- The number that digits stand for: each counts by the number of digits behind it. -/
def placeValue : List Char → Nat
  | [] => 0
  | c :: cs => (c.toNat - '0'.toNat) * Nat.pow 10 cs.length + placeValue cs

/-- One or more ASCII digits, and the number that they stand for. -/
structure IsNumeral (cs : List Char) (n : Nat) : Prop where
  ne_nil : cs ≠ []
  digit : ∀ c ∈ cs, c.isDigit = true
  value : placeValue cs = n

/-- A numeral with a plus sign in front of it or none. -/
inductive IsUnsigned : List Char → Nat → Prop
  | plain {cs : List Char} {n : Nat} (numeral : IsNumeral cs n) : IsUnsigned cs n
  | plus {cs : List Char} {n : Nat} (numeral : IsNumeral cs n) : IsUnsigned ('+' :: cs) n

/-- A numeral with one sign in front of it or none. -/
inductive IsSigned : List Char → Int → Prop
  | plain {cs : List Char} {n : Nat} (numeral : IsNumeral cs n) : IsSigned cs n
  | plus {cs : List Char} {n : Nat} (numeral : IsNumeral cs n) : IsSigned ('+' :: cs) n
  | minus {cs : List Char} {n : Nat} (numeral : IsNumeral cs n) : IsSigned ('-' :: cs) (-n)

/-- Digits read after the number `n` move it up by their places. -/
theorem ofDigitChars_eq (cs : List Char) (n : Nat) :
    Nat.ofDigitChars 10 cs n = n * Nat.pow 10 cs.length + placeValue cs := by
  induction cs generalizing n with
  | nil => simp [placeValue]
  | cons c cs ih =>
    have hpow : Nat.pow 10 (cs.length + 1) = 10 * Nat.pow 10 cs.length := Nat.mul_comm _ _
    rw [Nat.ofDigitChars_cons, ih, placeValue, List.length_cons, hpow, Nat.add_mul, Nat.add_assoc,
      Nat.mul_comm 10 n, Nat.mul_assoc]

theorem natural?_eq_some_iff_isNumeral : natural? cs = some n ↔ IsNumeral cs n := by
  rw [natural?_eq_some_iff, ofDigitChars_eq, Nat.zero_mul, Nat.zero_add]
  exact ⟨fun ⟨hne, hdigits, hvalue⟩ => ⟨hne, hdigits, hvalue⟩,
    fun h => ⟨h.ne_nil, h.digit, h.value⟩⟩

theorem integer?_eq_some_iff_isSigned {k : Int} : integer? cs = some k ↔ IsSigned cs k := by
  simp only [integer?_eq_some_iff, natural?_eq_some_iff_isNumeral]
  constructor
  · rintro ⟨sign, digits, n, rfl, hn, ⟨rfl, rfl⟩ | ⟨rfl, rfl⟩ | ⟨rfl, rfl⟩⟩
    · exact .plain hn
    · exact .plus hn
    · exact .minus hn
  · intro h
    cases h with
    | plain hn => exact ⟨[], _, _, rfl, hn, .inl ⟨rfl, rfl⟩⟩
    | plus hn => exact ⟨['+'], _, _, rfl, hn, .inr (.inl ⟨rfl, rfl⟩)⟩
    | minus hn => exact ⟨['-'], _, _, rfl, hn, .inr (.inr ⟨rfl, rfl⟩)⟩

theorem unsigned?_eq_some_iff : unsigned? cs = some n ↔ IsUnsigned cs n := by
  constructor
  · intro h
    unfold unsigned? at h
    split at h
    · exact .plus (natural?_eq_some_iff_isNumeral.1 h)
    · exact .plain (natural?_eq_some_iff_isNumeral.1 h)
  · intro h
    cases h with
    | plus hn => exact natural?_eq_some_iff_isNumeral.2 hn
    | plain hn =>
      unfold unsigned?
      split
      · have hplus := hn.digit '+' List.mem_cons_self
        cases hplus
      · exact natural?_eq_some_iff_isNumeral.2 hn

/-- A text is read as a number of 32 bits exactly if it writes that number. -/
theorem int32?_eq_some_iff {s : String} {n : Int32} :
    int32? s = some n ↔ IsSigned s.toList n.toInt := by
  rw [← integer?_eq_some_iff_isSigned]
  unfold int32?
  cases hk : integer? s.toList with
  | none => simp
  | some k =>
    constructor
    · intro h
      obtain ⟨⟨hmin, hmax⟩, hn⟩ := Option.ite_none_right_eq_some.1 h
      obtain rfl := Option.some.inj hn
      rw [Int32.toInt_ofInt_of_le hmin (Int.lt_add_one_of_le hmax)]
    · intro h
      obtain rfl := Option.some.inj h
      exact (if_pos ⟨n.minValue_le_toInt, n.toInt_le⟩).trans (by rw [Int32.ofInt_toInt])

theorem nat64?_eq_some_iff {s : String} :
    nat64? s = some n ↔ IsUnsigned s.toList n ∧ n < Nat.pow 2 64 := by
  rw [nat64?, Option.filter_eq_some_iff, unsigned?_eq_some_iff, decide_eq_true_eq]

/-! ## Numbers written and read -/

theorem natural?_toDigits (n : Nat) : natural? (Nat.toDigits 10 n) = some n := by
  refine natural?_eq_some_iff.2 ⟨Nat.toDigits_ne_nil, fun c hc => ?_, Nat.ofDigitChars_ten_toDigits⟩
  exact Nat.isDigit_of_mem_toDigits (by decide) (by decide) hc

theorem integer?_toString (k : Int) : integer? (toString k).toList = some k := by
  rw [integer?_eq_some_iff]
  cases k with
  | ofNat m =>
    have htext : (toString (Int.ofNat m)).toList = Nat.toDigits 10 m := Nat.toList_repr
    exact ⟨[], _, m, htext, natural?_toDigits m, .inl ⟨rfl, rfl⟩⟩
  | negSucc m =>
    have htext : (toString (Int.negSucc m)).toList = ['-'] ++ Nat.toDigits 10 (m + 1) := by
      rw [← Nat.toList_repr]
      exact String.toList_append
    exact ⟨['-'], _, m + 1, htext, natural?_toDigits (m + 1), .inr (.inr ⟨rfl, rfl⟩)⟩

/-- A number of 32 bits is read from the text that it is written with. -/
theorem int32?_toString (n : Int32) : int32? (toString n.toInt) = some n := by
  simp only [int32?, integer?_toString]
  rw [if_pos ⟨n.minValue_le_toInt, n.toInt_le⟩, Int32.ofInt_toInt]

end Signpost.Decimal
