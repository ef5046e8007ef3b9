import Mathlib.Data.List.Basic
import RestDeployment.Metadata.Merge
import RestDeployment.Proofs.Metadata.Precedence

/-!
# What a merge makes of metadata

`Metadata.mergeAll` joins the metadata of dependencies one after the other and
restores precedence once at the end.  `IsUnion` says what comes out of that without
an order: which classes there are, and which path each application has.

## Strategy

* One `absorb` joins two sets of classes: it `Unites` the names of each kind.  Application
  paths are followed by `pathOf`, for which `absorb` is `Application.joinPath` (`pathOf_absorb`).
* The fold over all dependencies is treated by induction on the list of absorbed
  metadata, once for all kinds of names (`Unites.mem_foldl_absorb`) and once for paths.
  `leastPath_foldl_absorb` finds the least path among all that are declared.
* `isUnion_mergeAll` restores precedence.  The dependencies that count are those in
  the list other than the unit itself (`mem_distinctDependencies`).
-/

namespace RestDeployment

/-! ### Least paths -/

/-- A path is the least of the declared ones; there is none only if none is declared. -/
def LeastPath (declared : String → Prop) : Option String → Prop
  | none => ∀ p, ¬ declared p
  | some q => declared q ∧ ∀ p, declared p → q ≤ p

theorem leastPath_congr {d d' : String → Prop} (h : ∀ p, d p ↔ d' p) (path : Option String) :
    LeastPath d path ↔ LeastPath d' path := by
  have hd : d = d' := funext fun p => propext (h p)
  rw [hd]

/-- Joining the least paths of two declarations gives the least path of both. -/
theorem leastPath_joinPath {d d' : String → Prop} {path path' : Option String}
    (h : LeastPath d path) (h' : LeastPath d' path') :
    LeastPath (fun p => d p ∨ d' p) (Application.joinPath path path') := by
  cases path with
  | none =>
      cases path' with
      | none => exact fun p hp => hp.elim (h p) (h' p)
      | some q' => exact ⟨.inr h'.1, fun p hp => hp.elim (fun hp => absurd hp (h p)) (h'.2 p)⟩
  | some q =>
      cases path' with
      | none => exact ⟨.inl h.1, fun p hp => hp.elim (h.2 p) fun hp => absurd hp (h' p)⟩
      | some q' =>
          simp only [Application.joinPath]
          -- both declare a path, and the smaller one is kept
          by_cases hlt : q' < q
          · rw [if_pos hlt]
            refine ⟨.inr h'.1, fun p hp => ?_⟩
            rcases hp with hp | hp
            · exact String.le_trans (String.not_lt.mp (String.lt_asymm hlt)) (h.2 p hp)
            · exact h'.2 p hp
          · rw [if_neg hlt]
            have hle : q ≤ q' := String.not_lt.mp hlt
            refine ⟨.inl h.1, fun p hp => ?_⟩
            rcases hp with hp | hp
            · exact h.2 p hp
            · exact String.le_trans hle (h'.2 p hp)

theorem leastPath_self (path : Option String) : LeastPath (fun p => path = some p) path := by
  cases path with
  | none => exact fun p hp => by simp at hp
  | some q =>
      refine ⟨rfl, fun p hp => ?_⟩
      obtain rfl : q = p := Option.some.inj hp
      exact String.le_refl q

theorem LeastPath.isSome_iff {d : String → Prop} {path : Option String} (h : LeastPath d path) :
    path.isSome = true ↔ ∃ p, d p := by
  cases path with
  | none => exact iff_of_false Bool.false_ne_true fun ⟨p, hp⟩ => h p hp
  | some q => exact iff_of_true rfl ⟨q, h.1⟩

namespace Metadata

variable {m other target : Metadata} {others : List Metadata} {n : String}

/-! ### Absorbing -/

/-- What two units know about an application of one name. -/
def joinKnown : Option Application → Option Application → Option Application
  | some ours, some theirs => some (ours.join theirs)
  | some ours, none => some ours
  | none, theirs => theirs

theorem get?_joinApplication (applications : NameMap Application) (entry : String × Application) :
    (joinApplication applications entry).get? n =
      if n = entry.1 then joinKnown (applications.get? n) (some entry.2)
      else applications.get? n := by
  unfold joinApplication
  by_cases hn : n = entry.1
  · subst hn
    cases applications.get? entry.1 <;> simp [joinKnown]
  · cases applications.get? entry.1 <;> simp [hn]

private theorem get?_foldl_joinApplication {entries : List (String × Application)}
    (hkeys : (entries.map Prod.fst).Pairwise (· < ·)) (applications : NameMap Application) :
    (entries.foldl joinApplication applications).get? n =
      joinKnown (applications.get? n) (NameMap.find n entries) := by
  induction entries generalizing applications with
  | nil => cases h : applications.get? n <;> simp [joinKnown, NameMap.find, h]
  | cons entry entries ih =>
      obtain ⟨k, a⟩ := entry
      rw [List.map_cons, List.pairwise_cons] at hkeys
      rw [List.foldl_cons, ih hkeys.2, get?_joinApplication, NameMap.find]
      by_cases hn : n = k
      · -- the keys increase, so no later entry has this one
        have hlater : NameMap.find n entries = none := by
          rw [NameMap.find_eq_none_iff, hn]
          exact fun hmem => String.lt_irrefl k (hkeys.1 k hmem)
        rw [if_pos hn, if_pos hn, hlater]
        cases applications.get? n <;> rfl
      · rw [if_neg hn, if_neg hn]

/-- Absorbing joins what is known about each application. -/
theorem get?_absorb (target other : Metadata) (n : String) :
    (target.absorb other).applications.get? n =
      joinKnown (target.applications.get? n) (other.applications.get? n) :=
  get?_foldl_joinApplication other.applications.increasing target.applications

/-- Sets of names that absorbing unites. -/
def Unites (names : Metadata → NameSet) : Prop :=
  ∀ target other n, n ∈ names (target.absorb other) ↔ n ∈ names target ∨ n ∈ names other

theorem unites_applications : Unites fun m => m.applications.keys := by
  intro target other n
  rw [NameMap.mem_keys, NameMap.mem_keys, NameMap.mem_keys, get?_absorb]
  cases target.applications.get? n <;> cases other.applications.get? n <;> simp [joinKnown]

theorem unites_resources : Unites resources := fun _ _ _ => NameSet.mem_union

theorem unites_providers : Unites providers := fun _ _ _ => NameSet.mem_union

theorem unites_jndiResources : Unites jndiResources := fun _ _ _ => NameSet.mem_union

theorem Keyed.absorb (h : target.Keyed) (hother : other.Keyed) : (target.absorb other).Keyed := by
  intro n a ha
  rw [get?_absorb] at ha
  cases hours : target.applications.get? n with
  | none =>
      rw [hours] at ha
      exact hother n a ha
  | some ours =>
      have hname : ours.name = n := h n ours hours
      cases htheirs : other.applications.get? n with
      | none =>
          rw [hours, htheirs] at ha
          rw [← Option.some.inj ha, hname]
      | some theirs =>
          rw [hours, htheirs] at ha
          rw [← Option.some.inj ha]
          exact hname

/-- The path of an application; none if there is no application of that name. -/
def pathOf (m : Metadata) (n : String) : Option String := (m.applications.get? n).bind (·.path)

theorem pathOf_absorb (target other : Metadata) (n : String) :
    (target.absorb other).pathOf n =
      Application.joinPath (target.pathOf n) (other.pathOf n) := by
  unfold pathOf
  rw [get?_absorb]
  cases target.applications.get? n with
  | none => rfl
  | some ours =>
      cases other.applications.get? n with
      | none => cases hpath : ours.path <;> simp [joinKnown, Application.joinPath, hpath]
      | some theirs => rfl

/-! ### Absorbing several -/

/-- What one absorption unites is united by several. -/
theorem Unites.mem_foldl_absorb {names : Metadata → NameSet} (h : Unites names) :
    n ∈ names (others.foldl absorb target) ↔ ∃ c ∈ target :: others, n ∈ names c := by
  induction others generalizing target with
  | nil => simp
  | cons other others ih =>
      rw [List.foldl_cons, ih]
      simp [h target other n, or_assoc]

theorem Keyed.foldl_absorb (h : target.Keyed) (hothers : ∀ c ∈ others, c.Keyed) :
    (others.foldl Metadata.absorb target).Keyed := by
  refine List.foldlRecOn (motive := Keyed) others Metadata.absorb h ?_
  intro m hm other hother
  exact hm.absorb (hothers other hother)

/-- The induction carries a path that is the least of those declared so far. -/
private theorem leastPath_foldl_absorb_of {declared : String → Prop}
    (h : LeastPath declared (target.pathOf n)) :
    LeastPath (fun p => declared p ∨ ∃ c ∈ others, c.pathOf n = some p)
      ((others.foldl absorb target).pathOf n) := by
  induction others generalizing target declared with
  | nil => simpa using h
  | cons other others ih =>
      have hjoin : LeastPath (fun p => declared p ∨ other.pathOf n = some p)
          ((target.absorb other).pathOf n) := by
        rw [pathOf_absorb]
        exact leastPath_joinPath h (leastPath_self _)
      rw [List.foldl_cons]
      refine (leastPath_congr (fun p => ?_) _).mp (ih hjoin)
      simp [or_assoc]

/-- Every application is left with the least path that anybody declares. -/
theorem leastPath_foldl_absorb (target : Metadata) (others : List Metadata) (n : String) :
    LeastPath (fun p => ∃ c ∈ target :: others, c.pathOf n = some p)
      ((others.foldl absorb target).pathOf n) := by
  refine (leastPath_congr (fun p => ?_) _).mp
    (leastPath_foldl_absorb_of (leastPath_self (target.pathOf n)))
  simp

theorem sameFlags_foldl_absorb (target : Metadata) (others : List Metadata) :
    (others.foldl absorb target).SameFlags target := by
  refine List.foldlRecOn (motive := fun m => m.SameFlags target) others absorb
    ⟨rfl, rfl, rfl, rfl⟩ ?_
  intro m ⟨hpolicy, hboot, hcreated, hunwrapped⟩ other _
  exact ⟨hpolicy, hboot, hcreated, hunwrapped⟩

/-! ### Merging -/

theorem mem_firstOccurrences {seen ds : List String} {d : String} :
    d ∈ firstOccurrences seen ds ↔ d ∈ ds ∧ d ∉ seen := by
  induction ds generalizing seen with
  | nil => simp [firstOccurrences]
  | cons e ds ih =>
      by_cases he : e ∈ seen
      · rw [firstOccurrences, if_pos he, ih, List.mem_cons]
        constructor
        · exact fun ⟨hd, hseen⟩ => ⟨.inr hd, hseen⟩
        · rintro ⟨rfl | hd, hseen⟩
          · exact absurd he hseen
          · exact ⟨hd, hseen⟩
      · rw [firstOccurrences, if_neg he, List.mem_cons, ih, List.mem_cons, List.mem_cons, not_or]
        constructor
        · rintro (rfl | ⟨hd, -, hseen⟩)
          · exact ⟨.inl rfl, he⟩
          · exact ⟨.inr hd, hseen⟩
        · rintro ⟨rfl | hd, hseen⟩
          · exact .inl rfl
          · by_cases hde : d = e
            · exact .inl hde
            · exact .inr ⟨hd, hde, hseen⟩

/-- The dependencies that count are those in the list other than the unit itself. -/
theorem mem_distinctDependencies {unit d : String} {dependencies : List String} :
    d ∈ distinctDependencies unit dependencies ↔ d ∈ dependencies ∧ d ≠ unit := by
  rw [distinctDependencies, mem_firstOccurrences, List.mem_singleton]

/-- What a merge finds for the dependencies that count. -/
theorem mem_filterMap_distinctDependencies {lookup : String → Option Metadata} {unit : String}
    {dependencies : List String} {c : Metadata} :
    c ∈ (distinctDependencies unit dependencies).filterMap lookup ↔
      ∃ d ∈ dependencies, d ≠ unit ∧ lookup d = some c := by
  simp only [List.mem_filterMap, mem_distinctDependencies, and_assoc]

/-- The metadata that a merge joins: those of the unit itself and what is found for
its dependencies. -/
def Joined (lookup : String → Option Metadata) (unit : String) (target : Metadata)
    (dependencies : List String) (c : Metadata) : Prop :=
  c = target ∨ ∃ d ∈ dependencies, d ≠ unit ∧ lookup d = some c

theorem mem_cons_filterMap_iff {lookup : String → Option Metadata} {unit : String}
    {dependencies : List String} {c : Metadata} :
    c ∈ target :: (distinctDependencies unit dependencies).filterMap lookup ↔
      Joined lookup unit target dependencies c := by
  rw [List.mem_cons, mem_filterMap_distinctDependencies, Joined]

/-- The classes are those of several metadata, each in the first place that any of
them claims for it, and every application has the least path that any of them
declares.  A resource is a component if it is one anywhere. -/
structure IsUnion (contributes : Metadata → Prop) (m : Metadata) : Prop where
  application : ∀ n, n ∈ m.applications.keys ↔ ∃ c, contributes c ∧ n ∈ c.applications.keys
  path : ∀ n, LeastPath (fun p => ∃ c, contributes c ∧ c.pathOf n = some p) (m.pathOf n)
  resource : ∀ n, n ∈ m.resources ↔
    (∃ c, contributes c ∧ n ∈ c.resources) ∧ n ∉ m.applications.keys
  provider : ∀ n, n ∈ m.providers ↔
    (∃ c, contributes c ∧ n ∈ c.providers) ∧ n ∉ m.applications.keys ∧ n ∉ m.resources
  jndi_of_resource : ∀ n ∈ m.resources,
    (∃ c, contributes c ∧ n ∈ c.jndiResources) → n ∈ m.jndiResources
  exists_of_jndi : ∀ n ∈ m.jndiResources, ∃ c, contributes c ∧ n ∈ c.jndiResources

theorem IsUnion.congr {contributes : Metadata → Prop} {m' : Metadata} (h : m.IsUnion contributes)
    (hsame : m'.SameClasses m) : m'.IsUnion contributes := by
  obtain ⟨happlications, hresources, hproviders, hjndi⟩ := hsame
  obtain ⟨happ, hpath, hres, hprov, hjr, hj⟩ := h
  have hpathOf : m'.pathOf = m.pathOf := by
    funext n
    simp only [pathOf, happlications]
  constructor
  · rwa [happlications]
  · rwa [hpathOf]
  · rwa [hresources, happlications]
  · rwa [hproviders, happlications, hresources]
  · rwa [hresources, hjndi]
  · rwa [hjndi]

variable {lookup : String → Option Metadata} {unit : String} {dependencies : List String}

theorem mergeAll_fst :
    (target.mergeAll lookup unit dependencies).1 =
      (((distinctDependencies unit dependencies).filterMap lookup).foldl absorb target).exclusive :=
  rfl

/-- A merge looks up nothing but the dependencies. -/
theorem mergeAll_congr {lookup' : String → Option Metadata}
    (h : ∀ d ∈ dependencies, lookup d = lookup' d) :
    target.mergeAll lookup unit dependencies = target.mergeAll lookup' unit dependencies := by
  have hsame : ∀ d ∈ distinctDependencies unit dependencies, lookup d = lookup' d := by
    intro d hd
    exact h d (mem_distinctDependencies.mp hd).1
  have hfound : (distinctDependencies unit dependencies).filterMap lookup =
      (distinctDependencies unit dependencies).filterMap lookup' :=
    List.filterMap_congr hsame
  have hmerged : (distinctDependencies unit dependencies).filter (fun d => (lookup d).isSome) =
      (distinctDependencies unit dependencies).filter (fun d => (lookup' d).isSome) :=
    List.filter_congr fun d hd => by rw [hsame d hd]
  have hmissing : (distinctDependencies unit dependencies).filter (fun d => (lookup d).isNone) =
      (distinctDependencies unit dependencies).filter (fun d => (lookup' d).isNone) :=
    List.filter_congr fun d hd => by rw [hsame d hd]
  simp only [mergeAll, hfound, hmerged, hmissing]

/-- Names that absorbing unites and that do not depend on precedence are united by a merge. -/
theorem Unites.mem_mergeAll {names : Metadata → NameSet} (h : Unites names)
    (hexclusive : ∀ m, names m.exclusive = names m) :
    n ∈ names (target.mergeAll lookup unit dependencies).1 ↔
      ∃ c, Joined lookup unit target dependencies c ∧ n ∈ names c := by
  simp only [mergeAll_fst, hexclusive, h.mem_foldl_absorb, mem_cons_filterMap_iff]

/-- **A merge unites the classes of the unit and its dependencies**, restoring
precedence once at the end. -/
theorem isUnion_mergeAll (lookup : String → Option Metadata) (unit : String) (target : Metadata)
    (dependencies : List String) :
    (target.mergeAll lookup unit dependencies).1.IsUnion
      (Joined lookup unit target dependencies) where
  application n := unites_applications.mem_mergeAll fun _ => rfl
  path n := by
    have hleast := leastPath_foldl_absorb target
      ((distinctDependencies unit dependencies).filterMap lookup) n
    simp only [mem_cons_filterMap_iff] at hleast
    exact hleast
  resource n := by
    rw [mergeAll_fst, mem_resources_exclusive, unites_resources.mem_foldl_absorb]
    simp only [mem_cons_filterMap_iff, applications_exclusive]
  provider n := by
    rw [mergeAll_fst, mem_providers_exclusive, unites_providers.mem_foldl_absorb]
    simp only [mem_cons_filterMap_iff, applications_exclusive]
  jndi_of_resource n _ := (unites_jndiResources.mem_mergeAll fun _ => rfl).mpr
  exists_of_jndi n := (unites_jndiResources.mem_mergeAll fun _ => rfl).mp

theorem sameFlags_mergeAll :
    (target.mergeAll lookup unit dependencies).1.SameFlags target := by
  obtain ⟨hpolicy, hboot, hcreated, hunwrapped⟩ := sameFlags_foldl_absorb target
    ((distinctDependencies unit dependencies).filterMap lookup)
  exact ⟨hpolicy, hboot, hcreated, hunwrapped⟩

/-- Merging sorts the classes of metadata that may each claim the same class for
another place. -/
theorem Keyed.wellSorted_mergeAll (h : target.Keyed)
    (hlookup : ∀ d c, lookup d = some c → c.Keyed) :
    (target.mergeAll lookup unit dependencies).1.WellSorted := by
  refine (h.foldl_absorb fun c hc => ?_).wellSorted_exclusive
  obtain ⟨d, -, hd⟩ := List.mem_filterMap.mp hc
  exact hlookup d c hd

theorem WellSorted.mergeAll (h : target.WellSorted)
    (hlookup : ∀ d c, lookup d = some c → c.WellSorted) :
    (target.mergeAll lookup unit dependencies).1.WellSorted :=
  h.keyed.wellSorted_mergeAll fun d c hc => (hlookup d c hc).keyed

theorem Accounted.mergeAll (h : target.Accounted)
    (hlookup : ∀ d c, lookup d = some c → c.Accounted) :
    (target.mergeAll lookup unit dependencies).1.Accounted := by
  rw [mergeAll_fst]
  refine Accounted.exclusive fun n hn => ?_
  obtain ⟨c, hc, hjndi⟩ := unites_jndiResources.mem_foldl_absorb.mp hn
  have haccounted : c.Accounted := by
    rcases List.mem_cons.mp hc with rfl | hc
    · exact h
    · obtain ⟨d, -, hd⟩ := List.mem_filterMap.mp hc
      exact hlookup d c hd
  rcases haccounted n hjndi with hresource | happ
  · exact .inl (unites_resources.mem_foldl_absorb.mpr ⟨c, hc, hresource⟩)
  · exact .inr (unites_applications.mem_foldl_absorb.mpr ⟨c, hc, happ⟩)

end Metadata

end RestDeployment
