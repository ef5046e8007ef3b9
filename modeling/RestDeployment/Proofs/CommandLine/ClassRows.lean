import Mathlib.Data.List.Nodup
import RestDeployment.CommandLine.Summary
import RestDeployment.Proofs.Deployment.Success
import RestDeployment.Proofs.Metadata.Exclusivity

/-!
# The rows of classified classes

The list of classified classes has a block of rows for every unit that it was asked for, in the
order in which the units were submitted.  A block goes through the applications, the resources and
the providers of a unit one after the other, and each row names a class with its role.

## Why no class is listed twice

The three parts of a block are put one behind the other without a look at what is listed already.
Within a part the names are distinct, since an application bears the name it is stored under.
Between the parts they are distinct because the metadata of every report are `WellSorted`: a class
has one place.  So a block has one row for each name (`nodup_classNames`), and the units of a
deployment that ends well have different ids.
-/

namespace RestDeployment.CommandLine.Summary

open Deployment (UnitReport Report Extent Schedules reportedState resultOf runAlong runFresh)

variable {config : Config} {extent : Extent} {manifest : Manifest} {r : Report} {x : UnitReport}
  {m : Metadata} {n role : String} {only : Option String}

/-! ### Roles -/

/-- The role of a class: the place that metadata have for it, in words. -/
inductive Plays (m : Metadata) (n : String) : String → Prop
  | applicationAt {a path} (h : m.applications.get? n = some a) (hpath : a.path = some path) :
      Plays m n ("application (" ++ path ++ ")")
  | application {a} (h : m.applications.get? n = some a) (hpath : a.path = none) :
      Plays m n "application"
  | component (h : n ∈ m.resources) (hjndi : n ∈ m.jndiResources) : Plays m n "resource (jndi)"
  | resource (h : n ∈ m.resources) (hjndi : n ∉ m.jndiResources) : Plays m n "resource"
  | provider (h : n ∈ m.providers) : Plays m n "provider"

theorem plays_applicationRole {a : Application} (h : m.applications.get? n = some a) :
    Plays m n (applicationRole a) := by
  unfold applicationRole
  cases hpath : a.path with
  | none => exact .application h hpath
  | some path => exact .applicationAt h hpath

theorem plays_resourceRole (h : n ∈ m.resources) : Plays m n (resourceRole m n) := by
  unfold resourceRole
  split
  · next hjndi => exact .component h hjndi
  · next hjndi => exact .resource h hjndi

theorem plays_iff : Plays m n role ↔
    (∃ a, m.applications.get? n = some a ∧ applicationRole a = role) ∨
      (n ∈ m.resources ∧ resourceRole m n = role) ∨ n ∈ m.providers ∧ "provider" = role := by
  constructor
  · intro h
    cases h with
    | applicationAt h hpath => exact .inl ⟨_, h, by rw [applicationRole, hpath]⟩
    | application h hpath => exact .inl ⟨_, h, by rw [applicationRole, hpath]⟩
    | component h hjndi => exact .inr (.inl ⟨h, if_pos hjndi⟩)
    | resource h hjndi => exact .inr (.inl ⟨h, if_neg hjndi⟩)
    | provider h => exact .inr (.inr ⟨h, rfl⟩)
  · rintro (⟨a, h, rfl⟩ | ⟨h, rfl⟩ | ⟨h, rfl⟩)
    · exact plays_applicationRole h
    · exact plays_resourceRole h
    · exact .provider h

/-! ### The rows of a unit -/

/-- Rows show the classes of a unit: all that have a place and no others, each once and with its
role. -/
structure Shows (x : UnitReport) (rows : List ClassRow) : Prop where
  unit : ∀ row ∈ rows, row.unit = x.id
  classes : ∀ n, n ∈ rows.map (·.className) ↔ n ∈ x.metadata.names
  once : (rows.map (·.className)).Nodup
  role : ∀ n role, ⟨x.id, n, role⟩ ∈ rows ↔ Plays x.metadata n role

theorem map_className_classRows (h : x.metadata.Keyed) :
    (classRows x).map (·.className) = x.metadata.applications.keys.toList ++
      x.metadata.resources.toList ++ x.metadata.providers.toList := by
  have hnames : x.metadata.applications.values.map (·.name) =
      x.metadata.applications.keys.toList := NameMap.map_key_values h
  simp only [classRows, List.map_append, List.map_map, Function.comp_def, hnames, List.map_id']

theorem nodup_classNames (h : x.metadata.WellSorted) :
    ((classRows x).map (·.className)).Nodup := by
  rw [map_className_classRows h.keyed, List.nodup_append', List.nodup_append']
  refine ⟨⟨NameSet.nodup_toList _, NameSet.nodup_toList _, ?_⟩, NameSet.nodup_toList _, ?_⟩
  · exact fun n happlication hresource => h.resource_not_application n hresource happlication
  · intro n hbefore hprovider
    rcases List.mem_append.mp hbefore with happlication | hresource
    · exact h.provider_not_application n hprovider happlication
    · exact h.provider_not_resource n hprovider hresource

theorem mem_classRows (h : x.metadata.Keyed) :
    ⟨x.id, n, role⟩ ∈ classRows x ↔ Plays x.metadata n role := by
  have happlication : (∃ a ∈ x.metadata.applications.values,
        a.name = n ∧ applicationRole a = role) ↔
      ∃ a, x.metadata.applications.get? n = some a ∧ applicationRole a = role := by
    simp only [NameMap.mem_values h]
    constructor
    · rintro ⟨a, ha, rfl, hrole⟩
      exact ⟨a, ha, hrole⟩
    · rintro ⟨a, ha, hrole⟩
      obtain rfl := h n a ha
      exact ⟨a, ha, rfl, hrole⟩
  rw [plays_iff, ← happlication]
  simp only [classRows, List.mem_append, List.mem_map, ClassRow.mk.injEq, true_and,
    NameSet.mem_toList, or_assoc]
  grind

theorem shows_classRows (h : x.metadata.WellSorted) : Shows x (classRows x) where
  unit row hrow := by
    simp only [classRows, List.mem_append, List.mem_map] at hrow
    rcases hrow with (⟨_, -, rfl⟩ | ⟨_, -, rfl⟩) | ⟨_, -, rfl⟩ <;> rfl
  classes n := by
    rw [map_className_classRows h.keyed]
    simp only [Metadata.names, List.mem_append, NameSet.mem_toList, NameSet.mem_union]
  once := nodup_classNames h
  role n role := mem_classRows h.keyed

/-! ### The rows of all units -/

/-- The units that rows are asked for: all of them, or those of one id. -/
def asked (units : List UnitManifest) : Option String → List UnitManifest
  | none => units
  | some id => units.filter fun u => u.id == id

theorem asked_sublist (units : List UnitManifest) (only : Option String) :
    (asked units only).Sublist units := by
  cases only with
  | none => exact List.Sublist.refl _
  | some id => exact List.filter_sublist

/-- The report on a unit of a manifest where all goes well. -/
def reportOn (config : Config) (extent : Extent) (manifest : Manifest) (u : UnitManifest) :
    UnitReport :=
  .ofState (reportedState config extent (manifest.build config) (u.build config))

theorem rows_eq_flatMap
    (h : resultOf config extent { name := manifest.deployment } (manifest.build config) = .ok r) :
    rows r only = (asked manifest.units only).flatMap fun u =>
      classRows (reportOn config extent manifest u) := by
  obtain ⟨-, -, rfl⟩ := Deployment.eq_reports_of_resultOf h
  have hid : ∀ u, (reportOn config extent manifest u).id = u.id :=
    fun u => Deployment.reportedState_unit_id
  have hasked : asked manifest.units only = manifest.units.filter fun u =>
      only.all fun id => (reportOn config extent manifest u).id == id := by
    simp only [hid]
    cases only with
    | none => exact (List.filter_true _).symm
    | some id => rfl
  rw [hasked, rows, Manifest.build, List.map_map, List.filter_map, List.flatMap_map]
  rfl

/-- Where blocks of different units bear different ids, no class is listed twice for a unit. -/
theorem nodup_flatMap_of_shows {units : List UnitManifest} {block : UnitManifest → List ClassRow}
    (hids : (units.map (·.id)).Nodup)
    (hblock : ∀ u ∈ units, ∃ x : UnitReport, x.id = u.id ∧ Shows x (block u)) :
    ((units.flatMap block).map fun row => (row.unit, row.className)).Nodup := by
  have hunit : ∀ u ∈ units, ∀ row ∈ block u, row.unit = u.id := by
    intro u hu row hrow
    obtain ⟨x, hid, hshows⟩ := hblock u hu
    exact (hshows.unit row hrow).trans hid
  rw [List.map_flatMap, List.nodup_flatMap]
  constructor
  · intro u hu
    obtain ⟨x, -, hshows⟩ := hblock u hu
    refine List.Nodup.of_map Prod.snd ?_
    rw [List.map_map]
    exact hshows.once
  · rw [List.Nodup, List.pairwise_map] at hids
    refine hids.imp_of_mem fun {u v} hu hv hne => ?_
    intro key hkey hkey'
    obtain ⟨row, hrow, rfl⟩ := List.mem_map.mp hkey
    obtain ⟨row', hrow', heq⟩ := List.mem_map.mp hkey'
    have hsame : row'.unit = row.unit := congrArg Prod.fst heq
    rw [hunit u hu row hrow, hunit v hv row' hrow'] at hsame
    exact hne hsame.symm

/-- **The list of classified classes.**  When a deployment ends well, the rows go through the
units that were asked for, in the order of submission.  The rows of a unit are those of the classes
that have a place in the report on it, each once and with the role that this place gives it.  No
class has two rows for one unit, whatever the classes are. -/
theorem rows_show_classes (config : Config) (extent : Extent) (manifest : Manifest)
    (only : Option String) {schedules : Schedules}
    (hschedules : schedules.Complete (manifest.build config).length) {r : Report}
    (hr : (runAlong config extent schedules { name := manifest.deployment }
      (manifest.build config)).result = .ok r) :
    (∃ block : UnitManifest → List ClassRow,
      rows r only = (asked manifest.units only).flatMap block ∧
        ∀ u ∈ manifest.units, ∃ x, r.unit? u.id = some x ∧ x.id = u.id ∧ Shows x (block u)) ∧
    ((rows r only).map fun row => (row.unit, row.className)).Nodup := by
  rw [Deployment.runAlong_result hschedules] at hr
  obtain ⟨hids, hscan, -⟩ := Deployment.eq_reports_of_resultOf hr
  have hblock : ∀ u ∈ manifest.units, ∃ x, r.unit? u.id = some x ∧ x.id = u.id ∧
      Shows x (classRows (reportOn config extent manifest u)) := by
    intro u hu
    have hbuilt : u.build config ∈ manifest.build config := List.mem_map_of_mem hu
    obtain ⟨m, hm⟩ := hscan _ hbuilt
    refine ⟨_, Deployment.unit?_of_resultOf hr hbuilt, Deployment.reportedState_unit_id, ?_⟩
    exact shows_classRows ((Deployment.wellSorted_classesOf hm).congr
      (Deployment.sameClasses_reportedState config extent _ _))
  refine ⟨⟨_, rows_eq_flatMap hr, hblock⟩, ?_⟩
  rw [rows_eq_flatMap hr]
  rw [Deployment.ids_build] at hids
  refine nodup_flatMap_of_shows (hids.sublist ((asked_sublist _ only).map _)) fun u hu => ?_
  obtain ⟨x, -, hid, hshows⟩ := hblock u ((asked_sublist _ only).subset hu)
  exact ⟨x, hid, hshows⟩

/-- A library with a class in every role and one that is annotated for all of them, and another
unit where one of the classes plays another role. -/
def everyRole : Manifest where
  deployment := "shop"
  units :=
    [ { id := "lib"
        classes :=
          [ { Deployment.plainClass "Admin" [] (some applicationClass) with
              annotations := [⟨ applicationPathAnnotation, some "/admin"⟩] },
            Deployment.plainClass "Shop" [ pathAnnotation, providerAnnotation] applicationClass,
            Deployment.plainClass "Cart" [ pathAnnotation, "javax.ejb.Stateless"] none,
            Deployment.plainClass "Items" [ pathAnnotation] none,
            Deployment.plainClass "Writer" [ providerAnnotation] none ] },
      { id := "ext", classes := [Deployment.plainClass "Items" [ providerAnnotation] none] } ]

/-- The class with all annotations is listed as an application only. -/
theorem rows_show_classes_everyRole :
    ∃ r, (runFresh {} .scanOnly "shop" (everyRole.build {})).result = .ok r ∧
      rows r none =
        [⟨"lib", "Admin", "application (/admin)"⟩, ⟨"lib", "Shop", "application"⟩,
          ⟨"lib", "Cart", "resource (jndi)"⟩, ⟨"lib", "Items", "resource"⟩,
          ⟨"lib", "Writer", "provider"⟩, ⟨"ext", "Items", "provider"⟩] ∧
      rows r (some "ext") = [⟨"ext", "Items", "provider"⟩] ∧
      ((rows r none).map fun row => (row.unit, row.className)).Nodup ∧
      ∃ (block : UnitManifest → List ClassRow) (x : UnitReport),
        rows r (some "ext") = block everyRole.units[1] ∧ r.unit? "ext" = some x ∧
          Shows x (block everyRole.units[1]) := by
  have hrows : ((runFresh {} .scanOnly "shop" (everyRole.build {})).result.toOption.map fun r =>
      (rows r none, rows r (some "ext"))) = some
        ([⟨"lib", "Admin", "application (/admin)"⟩, ⟨"lib", "Shop", "application"⟩,
          ⟨"lib", "Cart", "resource (jndi)"⟩, ⟨"lib", "Items", "resource"⟩,
          ⟨"lib", "Writer", "provider"⟩, ⟨"ext", "Items", "provider"⟩],
        [⟨"ext", "Items", "provider"⟩]) := by decide +kernel
  cases hr : (runFresh {} .scanOnly "shop" (everyRole.build {})).result with
  | error failure =>
      rw [hr] at hrows
      cases hrows
  | ok r =>
      rw [hr] at hrows
      obtain ⟨hall, hext⟩ := Prod.mk.inj (Option.some.inj hrows)
      have hcomplete := Deployment.complete_inOrder (everyRole.build {})
      obtain ⟨-, hnodup⟩ := rows_show_classes {} .scanOnly everyRole none hcomplete hr
      obtain ⟨⟨block, hblock, hshows⟩, -⟩ :=
        rows_show_classes {} .scanOnly everyRole (some "ext") hcomplete hr
      obtain ⟨x, hx, -, hshown⟩ := hshows everyRole.units[1] (List.getElem_mem _)
      refine ⟨r, rfl, hall, hext, hnodup, block, x, hblock.trans ?_, hx, hshown⟩
      exact List.append_nil _

end RestDeployment.CommandLine.Summary
