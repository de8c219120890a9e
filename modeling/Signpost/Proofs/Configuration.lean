import Mathlib.Data.List.DropRight
import Signpost.Settings
import Signpost.Proofs.LetterCase
import Signpost.Proofs.Numerals
/-!
# Settings from variables

Each setting has its own variable and depends on no other. The order is named in any case of
ASCII letters, the threshold for slow lookups is an unsigned number of 64 bits, both with
blank space of any script around them. Whatever else a variable says leaves the standard in
place (`ofVariables_exact`).
-/

namespace Signpost

namespace Text

/-! ## Blank space -/

/-- A text and what is left of it without the blank space at both ends. -/
structure Trims (s core : String) : Prop where
  blank : ∃ front back : List Char, s.toList = front ++ (core.toList ++ back) ∧
    (∀ c ∈ front, isBlank c = true) ∧ ∀ c ∈ back, isBlank c = true
  first : ∀ c, core.toList.head? = some c → isBlank c = false
  last : ∀ c, core.toList.getLast? = some c → isBlank c = false

theorem dropWhile_isBlank_eq {cs : List Char} (h : ∀ c, cs.head? = some c → isBlank c = false) :
    cs.dropWhile isBlank = cs := by
  cases cs with
  | nil => rfl
  | cons c cs => exact List.dropWhile_cons_of_neg (by simp [h c rfl])

theorem not_isBlank_of_head?_dropWhile {cs : List Char} {c : Char}
    (h : (cs.dropWhile isBlank).head? = some c) : isBlank c = false := by
  have hnot := List.head?_dropWhile_not isBlank cs
  rwa [h] at hnot

theorem trims_trim (s : String) : Trims s (trim s) := by
  have hcore : (trim s).toList = (s.toList.dropWhile isBlank).rdropWhile isBlank :=
    String.toList_ofList
  refine ⟨⟨s.toList.takeWhile isBlank, (s.toList.dropWhile isBlank).rtakeWhile isBlank, ?_,
    fun c hc => List.mem_takeWhile_imp hc, fun c hc => List.mem_rtakeWhile_imp hc⟩, ?_, ?_⟩
  · rw [hcore, List.rdropWhile_append_rtakeWhile, List.takeWhile_append_dropWhile]
  · -- What is left begins as the text does behind the blank space at its front.
    intro c hc
    obtain ⟨rest, hrest⟩ := List.rdropWhile_prefix isBlank (s.toList.dropWhile isBlank)
    have hhead : (s.toList.dropWhile isBlank).head? = some c := by
      rw [← hrest, ← hcore, List.head?_append, hc, Option.some_or]
    exact not_isBlank_of_head?_dropWhile hhead
  · intro c hc
    rw [hcore, List.rdropWhile, List.getLast?_reverse] at hc
    exact not_isBlank_of_head?_dropWhile hc

theorem trim_eq_iff {s core : String} : trim s = core ↔ Trims s core := by
  constructor
  · rintro rfl
    exact trims_trim s
  · rintro ⟨⟨front, back, hs, hfront, hback⟩, hfirst, hlast⟩
    rw [← String.toList_inj, trim, String.toList_ofList, trimChars, hs,
      List.dropWhile_append_of_pos hfront]
    cases hcore : core.toList with
    | nil => simp [List.dropWhile_eq_nil_iff.2 hback]
    | cons c cs =>
      have hreverse : ∀ x, (c :: cs).reverse.head? = some x → isBlank x = false := by
        rw [List.head?_reverse, ← hcore]
        exact hlast
      rw [List.cons_append, List.dropWhile_cons_of_neg (by simp [hfirst c (by simp [hcore])]),
        ← List.cons_append, List.reverse_append,
        List.dropWhile_append_of_pos fun x hx => hback x (List.mem_reverse.1 hx),
        dropWhile_isBlank_eq hreverse, List.reverse_reverse]

end Text

namespace Order

theorem ofName?_eq_some_iff {name : String} {o : Order} :
    ofName? name = some o ↔ name = o.name := by
  constructor
  · intro h
    unfold ofName? at h
    split at h
    · rename_i hname
      obtain rfl := Option.some.inj h
      exact hname
    · split at h
      · rename_i hname
        obtain rfl := Option.some.inj h
        exact hname
      · cases h
  · rintro rfl
    cases o <;> rfl

/-- No letter outside ASCII lowers to one in the name of an order. -/
theorem name_chars (o : Order) : ∀ c ∈ o.name.toList, Text.IsAscii c ∧ c ≠ 'k' := by
  cases o with
  | declaration => exact List.all_iff_forall_prop.1 (by decide)
  | specificity => exact List.all_iff_forall_prop.1 (by decide)

theorem lower_eq_name_iff {text : String} {o : Order} :
    Text.lower text = o.name ↔ Text.SameButCase text o.name := by
  have hname : o.name.toList.map Char.toLower = o.name.toList := by cases o <;> decide
  rw [Text.lower_eq_iff o.name_chars, Text.SameButCase, hname]

/-- A text is read as the order that it names, up to case and the blank space around it. -/
theorem parse_eq_ok_iff {text : String} {o : Order} :
    parse text = .ok o ↔ ∃ core, Text.Trims text core ∧ Text.SameButCase core o.name := by
  simp only [← Text.trim_eq_iff, exists_eq_left', ← lower_eq_name_iff, ← ofName?_eq_some_iff]
  unfold parse
  cases ofName? (Text.lower (Text.trim text)) with
  | none => simp
  | some order => simp

end Order

namespace Settings

/-! ## One variable -/

/-- What a variable gives for a setting: what its text means, or the standard if there is no
variable or its text means nothing. -/
inductive Gives {α : Type} (lookup : String → Option String) (key : String)
    (Means : String → α → Prop) (standard : α) : α → Prop
  | meant {text : String} {value : α} (found : lookup key = some text)
      (means : Means text value) : Gives lookup key Means standard value
  | standard (silent : ∀ text, lookup key = some text → ∀ value, ¬ Means text value) :
      Gives lookup key Means standard standard

theorem getD_bind_eq_iff {α : Type} {lookup : String → Option String} {key : String}
    {Means : String → α → Prop} {read : String → Option α}
    (hread : ∀ text value, read text = some value ↔ Means text value) {standard value : α} :
    ((lookup key).bind read).getD standard = value ↔ Gives lookup key Means standard value := by
  have hsome : ∀ value, (lookup key).bind read = some value ↔
      ∃ text, lookup key = some text ∧ Means text value := by
    intro value
    simp only [Option.bind_eq_some_iff, hread]
  have hnone : (lookup key).bind read = none ↔
      ∀ text, lookup key = some text → ∀ value, ¬ Means text value := by
    simp only [Option.eq_none_iff_forall_ne_some, ne_eq, hsome, not_exists, not_and]
    exact ⟨fun h text hfound value => h value text hfound,
      fun h value text hfound => h text hfound value⟩
  constructor
  · rintro rfl
    cases hvalue : (lookup key).bind read with
    | some value =>
      obtain ⟨text, hfound, hmeans⟩ := (hsome value).1 hvalue
      exact .meant hfound hmeans
    | none => exact .standard (hnone.1 hvalue)
  · intro h
    cases h with
    | meant hfound hmeans => rw [(hsome value).2 ⟨_, hfound, hmeans⟩, Option.getD_some]
    | standard hsilent => rw [hnone.2 hsilent, Option.getD_none]

/-- A text that means an order: its name in any case of ASCII letters, and blank space. -/
def MeansOrder (text : String) (o : Order) : Prop :=
  ∃ core, Text.Trims text core ∧ Text.SameButCase core o.name

/-- A text that means a time in microseconds: an unsigned number of 64 bits, and blank space. -/
def MeansMicros (text : String) (n : Nat) : Prop :=
  ∃ core, Text.Trims text core ∧ Decimal.IsUnsigned core.toList n ∧ n < Nat.pow 2 64

theorem nat64?_trim_eq_some_iff {text : String} {n : Nat} :
    Decimal.nat64? (Text.trim text) = some n ↔ MeansMicros text n := by
  unfold MeansMicros
  simp only [← Text.trim_eq_iff, exists_eq_left', Decimal.nat64?_eq_some_iff]

variable {lookup : String → Option String}

theorem order_ofVariables_eq_iff {o : Order} : (ofVariables lookup).order = o ↔
    Gives lookup "CTRLROUTE_ROUTE_ORDER" MeansOrder .specificity o := by
  refine getD_bind_eq_iff fun text o => ?_
  rw [MeansOrder, ← Order.parse_eq_ok_iff]
  cases Order.parse text <;> simp [Except.toOption]

theorem slowMatchMicros_ofVariables_eq_iff {n : Nat} : (ofVariables lookup).slowMatchMicros = n ↔
    Gives lookup "CTRLROUTE_SLOW_MATCH_US" MeansMicros 1000 n :=
  getD_bind_eq_iff fun _ _ => nat64?_trim_eq_some_iff

/-! ## Main theorem -/

/-- The order of the settings in variables is what the one variable means, and the threshold
for slow lookups what the other means, each in place of its standard. Either depends on its
own variable alone. A table with the settings has no routes, and their order. -/
theorem ofVariables_exact (lookup : String → Option String) :
    (∀ o, (ofVariables lookup).order = o ↔
      Gives lookup "CTRLROUTE_ROUTE_ORDER" MeansOrder .specificity o) ∧
    (∀ n, (ofVariables lookup).slowMatchMicros = n ↔
      Gives lookup "CTRLROUTE_SLOW_MATCH_US" MeansMicros 1000 n) ∧
    (∀ other : String → Option String,
      (other "CTRLROUTE_ROUTE_ORDER" = lookup "CTRLROUTE_ROUTE_ORDER" →
        (ofVariables other).order = (ofVariables lookup).order) ∧
      (other "CTRLROUTE_SLOW_MATCH_US" = lookup "CTRLROUTE_SLOW_MATCH_US" →
        (ofVariables other).slowMatchMicros = (ofVariables lookup).slowMatchMicros)) ∧
    (ofVariables lookup).emptyTable.order = (ofVariables lookup).order ∧
    (ofVariables lookup).emptyTable.routes = [] ∧ (ofVariables lookup).emptyTable.ordered = [] := by
  refine ⟨fun o => order_ofVariables_eq_iff, fun n => slowMatchMicros_ofVariables_eq_iff,
    fun other => ⟨fun h => ?_, fun h => ?_⟩, rfl, rfl, rfl⟩
  · unfold ofVariables orderVariable
    rw [h]
  · unfold ofVariables slowMatchVariable
    rw [h]

/-- Variables with an order, and with a time for slow lookups. -/
def lookupOf (order micros : String) (key : String) : Option String :=
  if key = orderVariable then some order
  else if key = slowMatchVariable then some micros
  else none

/-- The greatest number of 64 bits is taken, and the next one leaves the standard in place. The
order is the same with both. -/
theorem next_number_leaves_standard :
    (ofVariables (lookupOf "\u3000DeclaraTION " "+0018446744073709551615")).order =
      .declaration ∧
    (ofVariables (lookupOf "\u3000DeclaraTION " "+0018446744073709551615")).slowMatchMicros =
      18446744073709551615 ∧
    (ofVariables (lookupOf "\u3000DeclaraTION " "18446744073709551616")).order = .declaration ∧
    (ofVariables (lookupOf "\u3000DeclaraTION " "18446744073709551616")).slowMatchMicros =
      1000 := by
  obtain ⟨horder, hmicros, hown, -⟩ :=
    ofVariables_exact (lookupOf "\u3000DeclaraTION " "+0018446744073709551615")
  obtain ⟨-, hmicros', -⟩ :=
    ofVariables_exact (lookupOf "\u3000DeclaraTION " "18446744073709551616")
  have hnamed : MeansOrder "\u3000DeclaraTION " .declaration :=
    ⟨_, Text.trims_trim _, by decide⟩
  have hgreatest : MeansMicros "+0018446744073709551615" 18446744073709551615 :=
    nat64?_trim_eq_some_iff.1 (by decide)
  have hnext : ∀ n, ¬ MeansMicros "18446744073709551616" n := by
    intro n hn
    have hnone : Decimal.nat64? (Text.trim "18446744073709551616") = none := by decide
    rw [nat64?_trim_eq_some_iff.2 hn] at hnone
    cases hnone
  have hdeclaration := (horder .declaration).2 (.meant rfl hnamed)
  refine ⟨hdeclaration, (hmicros _).2 (.meant rfl hgreatest), ?_, (hmicros' _).2 (.standard ?_)⟩
  · rw [(hown (lookupOf "\u3000DeclaraTION " "18446744073709551616")).1 rfl, hdeclaration]
  · intro text hfound n hmeans
    obtain rfl := Option.some.inj hfound
    exact hnext n hmeans

end Settings

end Signpost
