import Mathlib.Data.List.Forall2
import Signpost.Manifest
import Signpost.Proofs.Buckets
/-!
# Tables of manifests

A manifest that builds has registered its declarations one after another, each under
the method that it means, and nothing else (`Manifest.exists_history`). So what holds
of all histories holds of its table.
-/

namespace Signpost

/-- The registration that a declaration asks for. -/
def Declaration.Asks (d : Declaration) (c : Change) : Prop :=
  ∃ method, Method.ofAnyCase? d.method = some method ∧ c = .register method d.path d.handler

/-- A declaration that is added has been registered, as one route more. -/
theorem Declaration.exists_asks {d : Declaration} {position : Nat} {t : Table}
    {added : Logged Table} (h : d.addTo position t = .ok added) :
    ∃ c, d.Asks c ∧ added.value = t.apply c ∧ added.value.size = t.size + 1 := by
  unfold addTo at h
  cases hm : Method.ofAnyCase? d.method with
  | none => simp [hm] at h
  | some method =>
    refine ⟨_, ⟨method, hm, rfl⟩, ?_⟩
    simp only [hm] at h
    cases hp : Template.parse t.registry d.path with
    | error e => simp [Table.register, hp] at h
    | ok pattern =>
      simp only [Table.register, hp] at h
      obtain rfl := Except.ok.inj h
      simp [Table.apply, Table.register, hp, Table.size]

namespace Manifest

/-- What is added is added declaration by declaration. -/
theorem exists_asks_of_addAll {position : Nat} {ds : List Declaration} {t t' : Table}
    (h : (addAll position ds t).value = .ok t') :
    ∃ changes, List.Forall₂ Declaration.Asks ds changes ∧ t' = t.run changes ∧
      t'.size = t.size + ds.length := by
  induction ds generalizing position t with
  | nil =>
    obtain rfl := Except.ok.inj h
    exact ⟨[], .nil, rfl, rfl⟩
  | cons d ds ih =>
    unfold addAll at h
    cases hd : d.addTo position t with
    | error e => simp [hd] at h
    | ok added =>
      simp only [hd] at h
      obtain ⟨c, hc, hvalue, hsize⟩ := Declaration.exists_asks hd
      obtain ⟨changes, hall, hrun, hsize'⟩ := ih h
      refine ⟨c :: changes, .cons hc hall, ?_, ?_⟩
      · rw [hrun, hvalue, Table.run_cons]
      · rw [hsize', hsize, List.length_cons]
        omega

/-- The history of a manifest's table. -/
theorem exists_history {m : Manifest} {settings : Settings} {t : Table}
    (h : (m.build settings).value = .ok t) :
    ∃ changes, List.Forall₂ Declaration.Asks m.declarations changes ∧
      t = Table.built (m.orderWith settings)
        (.withSlowMatchMicros settings.slowMatchMicros :: changes) ∧
      t.size = m.declarations.length := by
  unfold build at h
  cases hadd : (addAll 1 m.declarations (settings.tableOf (m.orderWith settings))).value with
  | error e => simp [hadd] at h
  | ok t' =>
    simp only [hadd] at h
    obtain rfl := Except.ok.inj h
    obtain ⟨changes, hall, hrun, hsize⟩ := exists_asks_of_addAll hadd
    refine ⟨changes, hall, hrun, ?_⟩
    rw [hsize]
    exact Nat.zero_add _

theorem sound_of_build {m : Manifest} {settings : Settings} {t : Table}
    (h : (m.build settings).value = .ok t) : t.Sound := by
  obtain ⟨changes, -, rfl, -⟩ := exists_history h
  exact Table.sound_built _ _

end Manifest

end Signpost
