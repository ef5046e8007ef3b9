import RestDeployment.Metadata

/-!
# Every class in one place

`Metadata.exclusive` leaves every class in the first place that claims it.  This file
says what that does to each of the sets and collects the result in `WellSorted`: the
applications, the resources and the providers of well sorted metadata are disjoint,
and every application is stored under its own name.

The names of the components to be looked up by name are not touched by `exclusive`.
-/

namespace RestDeployment.Metadata

variable {m m' : Metadata} {n : String}

/-! ### What `exclusive` leaves -/

private theorem not_contains_iff {α : Type} {t : NameMap α} :
    (!t.contains n) = true ↔ n ∉ t.keys := by
  rw [← NameMap.contains_iff, Bool.not_eq_true', Bool.not_eq_true]

theorem mem_properResources :
    n ∈ m.properResources ↔ n ∈ m.resources ∧ n ∉ m.applications.keys := by
  rw [properResources, NameSet.mem_filter, not_contains_iff]

theorem mem_properProviders :
    n ∈ m.properProviders ↔
      n ∈ m.providers ∧ n ∉ m.applications.keys ∧ n ∉ m.properResources := by
  rw [properProviders, NameSet.mem_filter, Bool.not_or, Bool.and_eq_true, not_contains_iff,
    Bool.not_eq_true', decide_eq_false_iff_not]

@[simp] theorem applications_exclusive : m.exclusive.applications = m.applications := rfl

@[simp] theorem jndiResources_exclusive : m.exclusive.jndiResources = m.jndiResources := rfl

@[simp] theorem mem_resources_exclusive :
    n ∈ m.exclusive.resources ↔ n ∈ m.resources ∧ n ∉ m.applications.keys :=
  mem_properResources

@[simp] theorem mem_providers_exclusive :
    n ∈ m.exclusive.providers ↔
      n ∈ m.providers ∧ n ∉ m.applications.keys ∧ n ∉ m.exclusive.resources :=
  mem_properProviders

/-! ### Classes and flags -/

/-- The classes of two metadata are the same. -/
structure SameClasses (m m' : Metadata) : Prop where
  applications : m.applications = m'.applications
  resources : m.resources = m'.resources
  providers : m.providers = m'.providers
  jndiResources : m.jndiResources = m'.jndiResources

theorem isEmpty_iff : m.isEmpty = true ↔ m.SameClasses {} := by
  simp only [isEmpty, Bool.and_eq_true, NameMap.isEmpty_iff, NameSet.isEmpty_iff]
  constructor
  · exact fun ⟨⟨⟨happlications, hproviders⟩, hresources⟩, hjndi⟩ =>
      ⟨happlications, hresources, hproviders, hjndi⟩
  · exact fun ⟨happlications, hresources, hproviders, hjndi⟩ =>
      ⟨⟨⟨happlications, hproviders⟩, hresources⟩, hjndi⟩

/-- The policy and the flags that a scan sets are the same. -/
structure SameFlags (m m' : Metadata) : Prop where
  policy : m.policy = m'.policy
  hasBootClasses : m.hasBootClasses = m'.hasBootClasses
  dispatcherCreated : m.dispatcherCreated = m'.dispatcherCreated
  unwrappedExceptionsSet : m.unwrappedExceptionsSet = m'.unwrappedExceptionsSet

theorem SameFlags.symm (h : m.SameFlags m') : m'.SameFlags m where
  policy := h.policy.symm
  hasBootClasses := h.hasBootClasses.symm
  dispatcherCreated := h.dispatcherCreated.symm
  unwrappedExceptionsSet := h.unwrappedExceptionsSet.symm

theorem SameFlags.trans {m'' : Metadata} (h : m.SameFlags m') (h' : m'.SameFlags m'') :
    m.SameFlags m'' where
  policy := h.policy.trans h'.policy
  hasBootClasses := h.hasBootClasses.trans h'.hasBootClasses
  dispatcherCreated := h.dispatcherCreated.trans h'.dispatcherCreated
  unwrappedExceptionsSet := h.unwrappedExceptionsSet.trans h'.unwrappedExceptionsSet

theorem sameFlags_exclusive (m : Metadata) : m.exclusive.SameFlags m := ⟨rfl, rfl, rfl, rfl⟩

/-- Metadata are their classes, the flags of a scan and the flag of a registration. -/
theorem eq_of_sameClasses (hclasses : m.SameClasses m') (hflags : m.SameFlags m')
    (hignore : m.ignoreApplicationPath = m'.ignoreApplicationPath) : m = m' := by
  obtain ⟨happlications, hresources, hproviders, hjndi⟩ := hclasses
  obtain ⟨hpolicy, hboot, hcreated, hunwrapped⟩ := hflags
  cases m
  cases m'
  simp_all only

/-- Where no class counts twice, there is no precedence to restore. -/
theorem exclusive_eq_self (hresource : ∀ n ∈ m.resources, n ∉ m.applications.keys)
    (hprovider : ∀ n ∈ m.providers, n ∉ m.applications.keys)
    (hboth : ∀ n ∈ m.providers, n ∉ m.resources) : m.exclusive = m := by
  have hresources : m.exclusive.resources = m.resources := by
    refine NameSet.ext fun n => ?_
    rw [mem_resources_exclusive]
    exact and_iff_left_of_imp (hresource n)
  have hproviders : m.exclusive.providers = m.providers := by
    refine NameSet.ext fun n => ?_
    rw [mem_providers_exclusive, hresources]
    exact and_iff_left_of_imp fun hn => ⟨hprovider n hn, hboth n hn⟩
  exact eq_of_sameClasses ⟨rfl, hresources, hproviders, rfl⟩ (sameFlags_exclusive m) rfl

/-! ### Adding to what precedence left -/

/-- Metadata came out of others by adding these resources and providers, and any applications. -/
structure Gains (base m : Metadata) (resources providers : String → Prop) : Prop where
  application : ∀ n ∈ base.applications.keys, n ∈ m.applications.keys
  resource : ∀ n, n ∈ m.resources ↔ n ∈ base.resources ∨ resources n
  provider : ∀ n, n ∈ m.providers ↔ n ∈ base.providers ∨ providers n

/-- Restoring precedence before classes are added makes no difference once it is restored
afterwards: what it removed too early is removed again, and nothing is removed too early. -/
theorem Gains.sameClasses_exclusive {base : Metadata} {resources providers : String → Prop}
    (h : base.Gains m resources providers) (h' : base.exclusive.Gains m' resources providers)
    (happlications : m'.applications = m.applications)
    (hjndi : m'.jndiResources = m.jndiResources) :
    m'.exclusive.SameClasses m.exclusive := by
  have hresource : ∀ n, n ∈ m'.exclusive.resources ↔ n ∈ m.exclusive.resources := by
    intro n
    rw [mem_resources_exclusive, mem_resources_exclusive, happlications, h.resource, h'.resource,
      mem_resources_exclusive]
    have hbase := h.application n
    grind
  refine ⟨happlications, NameSet.ext hresource, NameSet.ext fun n => ?_, hjndi⟩
  rw [mem_providers_exclusive, mem_providers_exclusive, happlications, hresource, h.provider,
    h'.provider, mem_providers_exclusive, mem_resources_exclusive, mem_resources_exclusive,
    h.resource]
  have hbase := h.application n
  grind

/-! ### Well sorted metadata -/

/-- Every application is stored under its own name. -/
def Keyed (m : Metadata) : Prop := ∀ n a, m.applications.get? n = some a → a.name = n

/-- Every class counts once, and every application is stored under its own name. -/
structure WellSorted (m : Metadata) : Prop where
  keyed : m.Keyed
  resource_not_application : ∀ n ∈ m.resources, n ∉ m.applications.keys
  provider_not_application : ∀ n ∈ m.providers, n ∉ m.applications.keys
  provider_not_resource : ∀ n ∈ m.providers, n ∉ m.resources

theorem wellSorted_ofPolicy (p : ScanPolicy) : (ofPolicy p).WellSorted where
  keyed n a h := by simp [ofPolicy] at h
  resource_not_application _ h := by simp [ofPolicy] at h
  provider_not_application _ h := by simp [ofPolicy] at h
  provider_not_resource _ h := by simp [ofPolicy] at h

/-- Being well sorted is about classes, not about flags. -/
theorem WellSorted.congr (h : m.WellSorted) (hsame : m'.SameClasses m) :
    m'.WellSorted := by
  obtain ⟨happlications, hresources, hproviders, -⟩ := hsame
  obtain ⟨hkeyed, hra, hpa, hpr⟩ := h
  refine ⟨?_, ?_, ?_, ?_⟩
  · unfold Keyed
    rw [happlications]
    exact hkeyed
  · rw [hresources, happlications]
    exact hra
  · rw [hproviders, happlications]
    exact hpa
  · rw [hproviders, hresources]
    exact hpr

/-- Metadata without classes are well sorted. -/
theorem wellSorted_of_isEmpty (h : m.isEmpty = true) : m.WellSorted :=
  (wellSorted_ofPolicy {}).congr (isEmpty_iff.mp h)

/-- There is nothing to restore in well sorted metadata. -/
theorem WellSorted.exclusive_eq (h : m.WellSorted) : m.exclusive = m :=
  exclusive_eq_self h.resource_not_application h.provider_not_application h.provider_not_resource

/-- Restoring precedence sorts the classes, whatever they were before. -/
theorem Keyed.wellSorted_exclusive (h : m.Keyed) : m.exclusive.WellSorted where
  keyed := h
  resource_not_application _ hn := (mem_resources_exclusive.mp hn).2
  provider_not_application _ hn := (mem_providers_exclusive.mp hn).2.1
  provider_not_resource _ hn := (mem_providers_exclusive.mp hn).2.2

/-- Adding applications one after the other changes nothing but these. -/
theorem foldl_addApplication_eq (as : List Application) (m : Metadata) :
    as.foldl addApplication m =
      { m with applications := as.foldl (fun t a => t.insert a.name a) m.applications } := by
  induction as generalizing m with
  | nil => rfl
  | cons a as ih => exact ih (m.addApplication a)

theorem Keyed.addApplication (h : m.Keyed) (a : Application) : (m.addApplication a).Keyed := by
  intro n b hb
  rw [Metadata.addApplication, NameMap.get?_insert] at hb
  split at hb
  · next hn =>
      cases hb
      exact hn.symm
  · exact h n b hb

/-! ### Components without a place -/

/-- Every component to be looked up by name is a resource or an application. -/
def Accounted (m : Metadata) : Prop :=
  ∀ n ∈ m.jndiResources, n ∈ m.resources ∨ n ∈ m.applications.keys

/-- A component that loses its place among the resources is an application. -/
theorem Accounted.exclusive (h : m.Accounted) : m.exclusive.Accounted := by
  intro n hn
  by_cases happ : n ∈ m.applications.keys
  · exact .inr happ
  · have hresource : n ∈ m.resources := (h n hn).resolve_right happ
    exact .inl (mem_resources_exclusive.mpr ⟨hresource, happ⟩)

theorem Accounted.mem_jndi_and_not_mem_resources (h : m.Accounted) (hsorted : m.WellSorted) :
    n ∈ m.jndiResources ∧ n ∉ m.resources ↔
      n ∈ m.applications.keys ∧ n ∈ m.jndiResources := by
  constructor
  · exact fun ⟨hjndi, hresource⟩ => ⟨(h n hjndi).resolve_left hresource, hjndi⟩
  · exact fun ⟨happ, hjndi⟩ =>
      ⟨hjndi, fun hresource => hsorted.resource_not_application n hresource happ⟩

end RestDeployment.Metadata
