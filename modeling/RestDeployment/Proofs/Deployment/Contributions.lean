import RestDeployment.Proofs.Deployment.Success

/-!
# What the units of a manifest inherit

The classes that are reported for a unit of a manifest are those of its own scan and those
that the scans of its dependencies found, if it has a parent (`OfInherited`).
-/

namespace RestDeployment.Deployment

variable {config : Config} {m : Manifest} {u : UnitManifest} {found : Metadata} {n : String}

/-- Something holds of another unit that a unit inherits from. -/
def OfInherited (m : Manifest) (u : UnitManifest) (P : UnitManifest → Prop) : Prop :=
  ∃ v ∈ m.units, u.parent.isSome = true ∧ v.id ∈ u.dependencies ∧ v.id ≠ u.id ∧ P v

theorem exists_contributes_iff (hids : (m.units.map (·.id)).Nodup) (hu : u ∈ m.units)
    (P : BuildUnit → Prop) :
    (∃ b, Contributes .full (m.build config) (u.build config) b ∧ P b) ↔
      P (u.build config) ∨ OfInherited m u fun v => P (v.build config) := by
  constructor
  · rintro ⟨b, rfl | ⟨⟨-, hparent⟩, hb, hd⟩, hP⟩
    · exact .inl hP
    · obtain ⟨v, hv, rfl⟩ := List.mem_map.mp hb
      by_cases hvu : v.id = u.id
      · -- with distinct ids it is the unit itself
        rw [List.inj_on_of_nodup_map hids hv hu hvu] at hP
        exact .inl hP
      · exact .inr ⟨v, hv, hparent, hd, hvu, hP⟩
  · rintro (hP | ⟨v, hv, hparent, hd, -, hP⟩)
    · exact ⟨_, .inl rfl, hP⟩
    · exact ⟨_, .inr ⟨⟨rfl, hparent⟩, List.mem_map_of_mem hv, hd⟩, hP⟩

theorem mem_keys_classesOfUnit (hids : (m.units.map (·.id)).Nodup) (hu : u ∈ m.units)
    (hscan : Scannable config (m.build config))
    (hfound : (surveyOf config m u).metadata = .ok found) :
    n ∈ (classesOfUnit config m u).applications.keys ↔ n ∈ found.applications.keys ∨
      OfInherited m u fun v => n ∈ (surveyOf config m v).found.applications.keys := by
  have hbuilt : ((m.build config).map (·.id)).Nodup := by rwa [ids_build]
  rw [mem_classesOf Metadata.unites_applications (fun _ => rfl) hbuilt hscan
      (List.mem_map_of_mem hu),
    exists_contributes_iff hids hu fun b =>
      n ∈ (survey config (indexesOf (m.build config)) b).found.applications.keys,
    Survey.found_of_ok hfound]

theorem isSome_pathOf_classesOfUnit (hids : (m.units.map (·.id)).Nodup) (hu : u ∈ m.units)
    (hscan : Scannable config (m.build config))
    (hfound : (surveyOf config m u).metadata = .ok found) :
    ((classesOfUnit config m u).pathOf n).isSome = true ↔ ∃ q, found.pathOf n = some q ∨
      OfInherited m u fun v => (surveyOf config m v).found.pathOf n = some q := by
  have hbuilt : ((m.build config).map (·.id)).Nodup := by rwa [ids_build]
  rw [LeastPath.isSome_iff (leastPath_classesOf hbuilt hscan (List.mem_map_of_mem hu))]
  refine exists_congr fun q => ?_
  rw [exists_contributes_iff hids hu fun b =>
      (survey config (indexesOf (m.build config)) b).found.pathOf n = some q,
    Survey.found_of_ok hfound]

theorem mem_registeredNames_classesOfUnit (hids : (m.units.map (·.id)).Nodup) (hu : u ∈ m.units)
    (hscan : Scannable config (m.build config))
    (hfound : (surveyOf config m u).metadata = .ok found) (web : WebDescriptor) :
    n ∈ Registration.registeredNames (classesOfUnit config m u) web ↔
      (n ∈ found.applications.keys ∨
        OfInherited m u fun v => n ∈ (surveyOf config m v).found.applications.keys) ∧
      (((classesOfUnit config m u).pathOf n).isSome = true ∨ web.isMapped n = true) := by
  have hkeyed : (classesOfUnit config m u).Keyed := (wellSorted_classesOf hfound).keyed
  rw [Registration.mem_registeredNames hkeyed, mem_keys_classesOfUnit hids hu hscan hfound]

end RestDeployment.Deployment
