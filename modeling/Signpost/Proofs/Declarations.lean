import Signpost.Proofs.ManifestTable
import Signpost.Proofs.Positions
/-!
# Which manifests have a table

A declaration is valid when its method, in capitals, is a method name and its path is a
template of the standard types. A manifest has a table exactly when all its declarations
are valid, and each of them is then one route, in order. Otherwise the error is about the
first that is not, and nothing that comes after it matters (`build_exact`).
-/

namespace Signpost

namespace Declaration

/-- What a declaration must be for its route to be added. -/
structure Valid (d : Declaration) : Prop where
  method : isToken (Text.upper d.method) = true
  path : ∃ p, Template.parse .standard d.path = .ok p

/-- How a declaration is refused at a position: for its method, whatever its path is, and
else for its path. -/
inductive Refused (d : Declaration) (position : Nat) : BuildError → Prop
  | method (invalid : isToken (Text.upper d.method) = false) :
      Refused d position (.invalidMethod position d)
  | path {cause : Template.SyntaxError} (method : isToken (Text.upper d.method) = true)
      (unreadable : Template.parse .standard d.path = .error cause) :
      Refused d position (.invalidTemplate position d cause)

/-- A route that says what a declaration says. -/
structure Makes (d : Declaration) (r : Route) : Prop where
  method : r.method.name = Text.upper d.method
  template : r.template = d.path
  pattern : Template.parse .standard d.path = .ok r.pattern
  handler : r.handler = d.handler

variable {d : Declaration} {position : Nat} {e : BuildError} {t : Table}

theorem Refused.not_valid (h : d.Refused position e) : ¬ d.Valid := by
  intro hvalid
  cases h with
  | method invalid =>
    rw [hvalid.method] at invalid
    cases invalid
  | path _ unreadable =>
    obtain ⟨p, hp⟩ := hvalid.path
    rw [hp] at unreadable
    cases unreadable

/-- A declaration is refused in one way. -/
theorem Refused.unique {e' : BuildError} (h : d.Refused position e) (h' : d.Refused position e') :
    e = e' := by
  cases h with
  | method invalid =>
    cases h' with
    | method => rfl
    | path method _ => simp [invalid] at method
  | path method unreadable =>
    cases h' with
    | method invalid => simp [method] at invalid
    | path _ unreadable' =>
      rw [unreadable] at unreadable'
      rw [Except.error.inj unreadable']

theorem valid_or_refused (d : Declaration) (position : Nat) :
    d.Valid ∨ ∃ e, d.Refused position e := by
  cases hmethod : isToken (Text.upper d.method) with
  | false => exact .inr ⟨_, .method hmethod⟩
  | true =>
    cases hpath : Template.parse .standard d.path with
    | error cause => exact .inr ⟨_, .path hmethod hpath⟩
    | ok p => exact .inl ⟨hmethod, p, hpath⟩

/-! ## One declaration -/

theorem Refused.addTo (h : d.Refused position e) (hregistry : t.registry = .standard) :
    d.addTo position t = .error e := by
  unfold Declaration.addTo
  cases h with
  | method invalid => rw [Method.ofAnyCase?_eq_none_iff.2 invalid]
  | path method unreadable =>
    cases hm : Method.ofAnyCase? d.method with
    | none =>
      rw [Method.ofAnyCase?_eq_none_iff.1 hm] at method
      cases method
    | some m => simp only [Table.register, hregistry, unreadable]

/-- A valid declaration is added to a table of the standard types, which it leaves so. -/
theorem Valid.exists_addTo (h : d.Valid) (position : Nat) (hregistry : t.registry = .standard) :
    ∃ added, d.addTo position t = .ok added ∧ added.value.registry = .standard := by
  obtain ⟨p, hp⟩ := h.path
  have hm : Method.ofAnyCase? d.method = some ⟨Text.upper d.method, h.method⟩ :=
    Method.ofAnyCase?_eq_some_iff.2 rfl
  refine ⟨t.insert ⟨Text.upper d.method, h.method⟩ p d.handler, ?_, hregistry⟩
  unfold Declaration.addTo
  simp only [hm, Table.register, hregistry, hp]

/-- A valid declaration adds a route that says what it says. -/
theorem Asks.exists_addition {c : Change} (h : d.Asks c) (hvalid : d.Valid) :
    c.registryAfter .standard = .standard ∧ ∃ a, c.addition? .standard = some a ∧
      ∀ index, d.Makes (a.route index) := by
  obtain ⟨method, hm, rfl⟩ := h
  obtain ⟨p, hp⟩ := hvalid.path
  refine ⟨rfl, ⟨method, p, d.handler⟩, by simp only [Change.addition?, hp], fun index => ?_⟩
  exact ⟨Method.ofAnyCase?_eq_some_iff.1 hm, (Template.parse_eq_ok_iff.1 hp).1, hp, rfl⟩

end Declaration

/-- What is made of each element, at whatever position, is made of the list. -/
theorem forall₂_mapIdx {α β γ : Type} {R : α → γ → Prop} {f : Nat → β → γ} {xs : List α}
    {ys : List β} (h : List.Forall₂ (fun x y => ∀ i, R x (f i y)) xs ys) :
    List.Forall₂ R xs (ys.mapIdx f) := by
  rw [forall₂_iff_getElem?] at h ⊢
  refine ⟨by rw [h.1, List.length_mapIdx], fun i x z hx hz => ?_⟩
  rw [List.getElem?_mapIdx] at hz
  obtain ⟨y, hy, rfl⟩ := Option.map_eq_some_iff.1 hz
  exact h.2 i x y hx hy i

/-- The first declaration of a list that is not valid, and how many come before it. -/
structure IsFirstInvalid (ds : List Declaration) (i : Nat) (d : Declaration) : Prop where
  getElem? : ds[i]? = some d
  invalid : ¬ d.Valid
  before : ∀ j < i, ∀ d', ds[j]? = some d' → d'.Valid

section First

variable {ds : List Declaration} {d d' : Declaration} {i : Nat}

theorem isFirstInvalid_cons_iff_of_valid (h : d.Valid) :
    IsFirstInvalid (d :: ds) i d' ↔ ∃ j, i = j + 1 ∧ IsFirstInvalid ds j d' := by
  constructor
  · intro hfirst
    cases i with
    | zero =>
      obtain rfl : d = d' := by simpa using hfirst.getElem?
      exact absurd h hfirst.invalid
    | succ j =>
      refine ⟨j, rfl, by simpa using hfirst.getElem?, hfirst.invalid, ?_⟩
      intro k hk d'' hd''
      exact hfirst.before (k + 1) (by omega) d'' (by simpa using hd'')
  · rintro ⟨j, rfl, hfirst⟩
    refine ⟨by simpa using hfirst.getElem?, hfirst.invalid, ?_⟩
    intro k hk d'' hd''
    cases k with
    | zero =>
      obtain rfl : d = d'' := by simpa using hd''
      exact h
    | succ k => exact hfirst.before k (by omega) d'' (by simpa using hd'')

theorem isFirstInvalid_cons_iff_of_not_valid (h : ¬ d.Valid) :
    IsFirstInvalid (d :: ds) i d' ↔ i = 0 ∧ d' = d := by
  constructor
  · intro hfirst
    cases i with
    | zero => exact ⟨rfl, by simpa using hfirst.getElem?.symm⟩
    | succ j => exact absurd (hfirst.before 0 (by omega) d rfl) h
  · rintro ⟨rfl, rfl⟩
    exact ⟨rfl, h, fun j hj => absurd hj (Nat.not_lt_zero j)⟩

theorem not_isFirstInvalid_nil : ¬ IsFirstInvalid [] i d := by
  intro h
  simpa using h.getElem?

/-- What comes later does not make a declaration the first invalid one. -/
theorem IsFirstInvalid.take (h : IsFirstInvalid ds i d) : IsFirstInvalid (ds.take (i + 1)) i d where
  getElem? := by rw [List.getElem?_take_of_lt (Nat.lt_succ_self i), h.getElem?]
  invalid := h.invalid
  before j hj d' hd' := by
    rw [List.getElem?_take_of_lt (by omega)] at hd'
    exact h.before j hj d' hd'

theorem exists_isFirstInvalid_iff :
    (∃ i d, IsFirstInvalid ds i d) ↔ ¬ ∀ d ∈ ds, d.Valid := by
  induction ds with
  | nil => simp [not_isFirstInvalid_nil]
  | cons d ds ih =>
    by_cases h : d.Valid
    · rw [List.forall_mem_cons, and_iff_right h, ← ih]
      simp only [isFirstInvalid_cons_iff_of_valid h]
      exact ⟨fun ⟨_, d', j, _, hfirst⟩ => ⟨j, d', hfirst⟩,
        fun ⟨j, d', hfirst⟩ => ⟨j + 1, d', j, rfl, hfirst⟩⟩
    · simp [isFirstInvalid_cons_iff_of_not_valid h, h]

end First

namespace Manifest

variable {position : Nat} {ds : List Declaration} {t : Table} {e : BuildError}

/-! ## Declarations in order -/

section Cons

variable {d : Declaration}

theorem addAll_cons_of_error (h : d.addTo position t = .error e) (ds : List Declaration) :
    addAll position (d :: ds) t = ⟨.error e, []⟩ := by
  unfold addAll
  simp only [h]

theorem addAll_cons_of_ok {added : Logged Table} (h : d.addTo position t = .ok added)
    (ds : List Declaration) : addAll position (d :: ds) t =
      ⟨(addAll (position + 1) ds added.value).value,
        added.events ++ (addAll (position + 1) ds added.value).events⟩ := by
  conv_lhs => unfold addAll
  simp only [h]

end Cons

/-- Adding fails for the first invalid declaration, at its own position. -/
theorem addAll_eq_error_iff (hregistry : t.registry = .standard) :
    (addAll position ds t).value = .error e ↔
      ∃ i d, IsFirstInvalid ds i d ∧ d.Refused (position + i) e := by
  induction ds generalizing position t with
  | nil =>
    constructor
    · intro h
      cases h
    · rintro ⟨i, d, hfirst, -⟩
      exact absurd hfirst not_isFirstInvalid_nil
  | cons d ds ih =>
    rcases d.valid_or_refused position with hvalid | ⟨e', he'⟩
    · obtain ⟨added, hadd, hstill⟩ := hvalid.exists_addTo position hregistry
      simp only [addAll_cons_of_ok hadd, ih hstill, isFirstInvalid_cons_iff_of_valid hvalid]
      constructor
      · rintro ⟨i, d', hfirst, hrefused⟩
        exact ⟨i + 1, d', ⟨i, rfl, hfirst⟩, by rwa [Nat.add_left_comm, Nat.add_comm]⟩
      · rintro ⟨-, d', ⟨i, rfl, hfirst⟩, hrefused⟩
        exact ⟨i, d', hfirst, by rwa [Nat.add_assoc, Nat.add_comm 1]⟩
    · simp only [addAll_cons_of_error (he'.addTo hregistry),
        isFirstInvalid_cons_iff_of_not_valid he'.not_valid]
      constructor
      · intro h
        obtain rfl := Except.error.inj h
        exact ⟨0, d, ⟨rfl, rfl⟩, he'⟩
      · rintro ⟨_, _, ⟨rfl, rfl⟩, hrefused⟩
        rw [he'.unique hrefused]

/-- What follows a refused declaration is not looked at. -/
theorem addAll_append_of_error {front : List Declaration}
    (h : (addAll position front t).value = .error e) (back : List Declaration) :
    addAll position (front ++ back) t = addAll position front t := by
  induction front generalizing position t with
  | nil => cases h
  | cons d front ih =>
    rw [List.cons_append]
    cases hadd : d.addTo position t with
    | error e' => rw [addAll_cons_of_error hadd, addAll_cons_of_error hadd]
    | ok added =>
      rw [addAll_cons_of_ok hadd] at h
      rw [addAll_cons_of_ok hadd, addAll_cons_of_ok hadd, ih h]

/-- The routes of valid declarations, in order. -/
theorem forall₂_makes_of_asks {changes : List Change}
    (h : List.Forall₂ Declaration.Asks ds changes) (hvalid : ∀ d ∈ ds, d.Valid) :
    List.Forall₂ (fun d a => ∀ index, d.Makes (a.route index)) ds
      (additions .standard changes) := by
  induction h with
  | nil => exact .nil
  | cons hasks _ ih =>
    rw [List.forall_mem_cons] at hvalid
    obtain ⟨hstill, a, ha, hmakes⟩ := hasks.exists_addition hvalid.1
    rw [additions, ha, hstill]
    exact .cons hmakes (ih hvalid.2)

/-! ## The whole manifest -/

variable {m : Manifest} {settings : Settings}

theorem build_eq_error_iff : (m.build settings).value = .error e ↔
    ∃ i d, IsFirstInvalid m.declarations i d ∧ d.Refused (i + 1) e := by
  have hall : (addAll 1 m.declarations (settings.tableOf (m.orderWith settings))).value =
      .error e ↔ ∃ i d, IsFirstInvalid m.declarations i d ∧ d.Refused (1 + i) e :=
    addAll_eq_error_iff rfl
  simp only [Nat.add_comm 1] at hall
  rw [← hall]
  unfold build
  cases hadd : (addAll 1 m.declarations (settings.tableOf (m.orderWith settings))).value with
  | error e' => simp [hadd]
  | ok t => simp [hadd]

theorem exists_build_iff :
    (∃ t, (m.build settings).value = .ok t) ↔ ∀ d ∈ m.declarations, d.Valid := by
  rw [← not_iff_not, ← exists_isFirstInvalid_iff]
  constructor
  · intro hno
    cases hb : (m.build settings).value with
    | error e =>
      obtain ⟨i, d, hfirst, -⟩ := build_eq_error_iff.1 hb
      exact ⟨i, d, hfirst⟩
    | ok t => exact absurd ⟨t, hb⟩ hno
  · rintro ⟨i, d, hfirst⟩ ⟨t, ht⟩
    obtain ⟨e, he⟩ := (d.valid_or_refused (i + 1)).resolve_left hfirst.invalid
    have hb : (m.build settings).value = .error e := build_eq_error_iff.2 ⟨i, d, hfirst, he⟩
    rw [ht] at hb
    cases hb

theorem forall₂_makes_of_build {t : Table} (h : (m.build settings).value = .ok t) :
    List.Forall₂ Declaration.Makes m.declarations t.routes := by
  obtain ⟨changes, hasks, rfl, -⟩ := exists_history h
  have hmade := forall₂_makes_of_asks hasks (exists_build_iff.1 ⟨_, h⟩)
  rw [Table.routes_built]
  exact forall₂_mapIdx hmade

theorem order_of_build {t : Table} (h : (m.build settings).value = .ok t) :
    t.order = m.orderWith settings := by
  obtain ⟨changes, -, rfl, -⟩ := exists_history h
  exact Table.order_built _ _

/-- Declarations behind an invalid one do not change what building comes to. -/
theorem build_take_append {i : Nat} {d : Declaration} (h : IsFirstInvalid m.declarations i d)
    (rest : List Declaration) :
    build ⟨m.order, m.declarations.take (i + 1) ++ rest⟩ settings = m.build settings := by
  obtain ⟨e, he⟩ := (d.valid_or_refused (1 + i)).resolve_left h.invalid
  have hfront : (addAll 1 (m.declarations.take (i + 1))
      (settings.tableOf (m.orderWith settings))).value = .error e :=
    (addAll_eq_error_iff rfl).2 ⟨i, d, h.take, he⟩
  have hrest := addAll_append_of_error hfront rest
  have hback := addAll_append_of_error hfront (m.declarations.drop (i + 1))
  rw [List.take_append_drop] at hback
  have horder : orderWith ⟨m.order, m.declarations.take (i + 1) ++ rest⟩ settings =
      m.orderWith settings := rfl
  unfold build
  simp only [horder, hrest, hback]

/-! ## Main theorem -/

/-- A manifest has a table exactly when all its declarations are valid. The table has the
order of the manifest, or else that of the settings, and one route a declaration. Otherwise
the error is about the first invalid declaration, at its position counted from one: about its
method, whatever its path is, or else about its path. No declaration behind it matters. -/
theorem build_exact (m : Manifest) (settings : Settings) :
    ((∃ t, (m.build settings).value = .ok t) ↔ ∀ d ∈ m.declarations, d.Valid) ∧
    (∀ t, (m.build settings).value = .ok t →
      t.order = m.order.getD settings.order ∧ t.routes.length = m.declarations.length ∧
      ∀ (i : Nat) (d : Declaration) (r : Route),
        m.declarations[i]? = some d → t.routes[i]? = some r → d.Makes r) ∧
    (∀ e, (m.build settings).value = .error e ↔
      ∃ i d, IsFirstInvalid m.declarations i d ∧ d.Refused (i + 1) e) ∧
    (∀ i d rest, IsFirstInvalid m.declarations i d →
      build ⟨m.order, m.declarations.take (i + 1) ++ rest⟩ settings = m.build settings) ∧
    (∀ k d, (BuildError.invalidMethod k d).message =
      "route #" ++ toString k ++ " (" ++ d.path ++ "): invalid method '" ++ d.method ++
        "': " ++ "invalid HTTP method") ∧
    ∀ k d cause, (BuildError.invalidTemplate k d cause).message =
      "route #" ++ toString k ++ " (" ++ d.path ++ " -> " ++ d.handler ++ "): " ++
        cause.message := by
  refine ⟨exists_build_iff, fun t ht => ⟨order_of_build ht, ?_⟩, fun e => build_eq_error_iff,
    fun i d rest h => build_take_append h rest, fun k d => rfl, fun k d cause => rfl⟩
  obtain ⟨hlength, hmakes⟩ := forall₂_iff_getElem?.1 (forall₂_makes_of_build ht)
  exact ⟨hlength.symm, hmakes⟩

def userDeclaration : Declaration := ⟨"get", "users/\x7bid:int\x7d", "by number"⟩

/-- It has neither a method nor a template. -/
def brokenDeclaration : Declaration := ⟨"ge t", "\x7b", "broken"⟩

def brokenManifest : Manifest :=
  ⟨some .declaration, [userDeclaration, brokenDeclaration, ⟨"post", "\x7b", "broken too"⟩]⟩

/-- One route is made of the first declaration alone. With the two others, building fails
for the method of the second, and it would if they stood there alone. -/
theorem broken_manifest_fails :
    (∃ t, (build ⟨none, [userDeclaration]⟩ .standard).value = .ok t ∧
      t.order = .specificity ∧ t.routes.length = 1) ∧
    (brokenManifest.build .standard).value = .error (.invalidMethod 2 brokenDeclaration) ∧
    build ⟨some .declaration, [userDeclaration, brokenDeclaration]⟩ .standard =
      brokenManifest.build .standard := by
  have hvalid : userDeclaration.Valid := ⟨by decide, _, rfl⟩
  have hinvalid : isToken (Text.upper brokenDeclaration.method) = false := by decide
  have hrefused : brokenDeclaration.Refused 2 (.invalidMethod 2 brokenDeclaration) :=
    .method hinvalid
  have hfirst : IsFirstInvalid brokenManifest.declarations 1 brokenDeclaration :=
    ⟨rfl, hrefused.not_valid, fun j hj d hd => by
      obtain rfl : j = 0 := by omega
      obtain rfl := Option.some.inj hd
      exact hvalid⟩
  obtain ⟨hbuilds, htable, -⟩ := build_exact ⟨none, [userDeclaration]⟩ .standard
  obtain ⟨t, ht⟩ := hbuilds.2 (by simpa using hvalid)
  obtain ⟨-, -, hfails, hrest, -⟩ := build_exact brokenManifest .standard
  obtain ⟨horder, hlength, -⟩ := htable t ht
  refine ⟨⟨t, ht, horder, hlength⟩, (hfails _).2 ⟨1, _, hfirst, hrefused⟩, ?_⟩
  exact hrest 1 _ [] hfirst

end Manifest

end Signpost
