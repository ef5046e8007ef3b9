import Mathlib.Data.List.Nodup
import Mathlib.Tactic.Tauto
import RestDeployment.Classification
import RestDeployment.Metadata.Merge
import RestDeployment.Proofs.Metadata.Precedence

/-!
# What restoring precedence removes

`Metadata.exclusive` takes away the resources that are applications and the providers that are
applications or resources.  Both sets are gone through name by name, the resources first
(`exclusive_eq_passes`), so a provider is compared with the resources that are left.  It makes no
difference that some are gone by then: a resource that was removed is an application, for which the
provider is removed as well.  That gives the closed form of the result (`Separated`).

Nothing that was removed is missed later.  Whatever classes are added, restoring precedence before
the addition and after it comes to restoring it afterwards only (`exclusive_adding_exclusive`);
joining the metadata of another unit and adding what a scan found are such additions.
-/

namespace RestDeployment.Metadata

variable {m m' : Metadata} {n : String} {keeps : String → Bool}

/-! ### What is removed -/

/-- The resources that have to go: those that are applications. -/
def contestedResources (m : Metadata) : NameSet := m.resources.filter m.applications.contains

/-- The providers that have to go: those that are applications or resources. -/
def contestedProviders (m : Metadata) : NameSet :=
  m.providers.filter fun n => m.applications.contains n || decide (n ∈ m.resources)

theorem mem_contestedResources :
    n ∈ m.contestedResources ↔ n ∈ m.resources ∧ n ∈ m.applications.keys := by
  rw [contestedResources, NameSet.mem_filter, NameMap.contains_iff]

theorem mem_contestedProviders :
    n ∈ m.contestedProviders ↔
      n ∈ m.providers ∧ (n ∈ m.applications.keys ∨ n ∈ m.resources) := by
  rw [contestedProviders, NameSet.mem_filter, Bool.or_eq_true, NameMap.contains_iff,
    decide_eq_true_eq]

theorem resources_exclusive_eq : m.exclusive.resources = m.resources \ m.applications.keys :=
  NameSet.ext fun n => by rw [mem_resources_exclusive, NameSet.mem_sdiff]

/-- A provider that is compared with the resources that are left is compared with all of them. -/
theorem providers_exclusive_eq :
    m.exclusive.providers = (m.providers \ m.applications.keys) \ m.resources := by
  refine NameSet.ext fun n => ?_
  rw [mem_providers_exclusive, mem_resources_exclusive, NameSet.mem_sdiff, NameSet.mem_sdiff]
  tauto

/-- What is listed is what `exclusive` leaves out. -/
theorem overlap_eq_sdiff :
    m.overlap = (m.resources \ m.exclusive.resources).toList ++
      (m.providers \ m.exclusive.providers).toList := rfl

theorem contestedResources_eq_sdiff :
    m.contestedResources = m.resources \ m.exclusive.resources := by
  refine NameSet.ext fun n => ?_
  rw [NameSet.mem_sdiff, mem_resources_exclusive, mem_contestedResources]
  tauto

theorem contestedProviders_eq_sdiff :
    m.contestedProviders = m.providers \ m.exclusive.providers := by
  refine NameSet.ext fun n => ?_
  rw [NameSet.mem_sdiff, mem_providers_exclusive, mem_resources_exclusive, mem_contestedProviders]
  tauto

theorem overlap_eq :
    m.overlap = m.contestedResources.toList ++ m.contestedProviders.toList := by
  rw [overlap_eq_sdiff, contestedResources_eq_sdiff, contestedProviders_eq_sdiff]

/-! ### Name by name -/

/-- A pass over a set of names: those that were kept and those that were dropped so far. -/
structure Pass where
  kept : List String := []
  dropped : List String := []

/-- Keeps a name or drops it. -/
def Pass.visit (keeps : String → Bool) (p : Pass) (n : String) : Pass :=
  if keeps n then { p with kept := p.kept ++ [n] } else { p with dropped := p.dropped ++ [n] }

theorem Pass.foldl_visit (keeps : String → Bool) (p : Pass) (names : List String) :
    names.foldl (visit keeps) p =
      ⟨p.kept ++ names.filter keeps, p.dropped ++ names.filter fun n => !keeps n⟩ := by
  induction names generalizing p with
  | nil => simp
  | cons n names ih =>
      rw [List.foldl_cons, ih, visit]
      cases hkeeps : keeps n <;> simp [hkeeps]

/-- The pass over the resources, which drops the applications. -/
def resourcePass (m : Metadata) : Pass :=
  m.resources.toList.foldl (Pass.visit fun n => !m.applications.contains n) {}

/-- The pass over the providers, which goes on from the one over the resources: it drops the
applications and the resources that were kept. -/
def providerPass (m : Metadata) : Pass :=
  m.providers.toList.foldl
    (Pass.visit fun n => !m.applications.contains n && !m.resourcePass.kept.contains n)
    { dropped := m.resourcePass.dropped }

theorem kept_resourcePass (m : Metadata) :
    m.resourcePass.kept = m.exclusive.resources.toList := by
  rw [resourcePass, Pass.foldl_visit]
  rfl

theorem dropped_resourcePass (m : Metadata) :
    m.resourcePass.dropped = m.contestedResources.toList := by
  simp [resourcePass, Pass.foldl_visit, contestedResources, NameSet.toList_filter]

theorem contains_kept_resourcePass (m : Metadata) (n : String) :
    m.resourcePass.kept.contains n = decide (n ∈ m.exclusive.resources) := by
  rw [kept_resourcePass, List.contains_eq_mem]
  rfl

theorem kept_providerPass (m : Metadata) :
    m.providerPass.kept = m.exclusive.providers.toList := by
  simp only [providerPass, Pass.foldl_visit, List.nil_append, contains_kept_resourcePass,
    ← Bool.not_or]
  rfl

theorem dropped_providerPass (m : Metadata) : m.providerPass.dropped = m.overlap := by
  rw [overlap_eq, providerPass, Pass.foldl_visit, dropped_resourcePass]
  refine congrArg (m.contestedResources.toList ++ ·) (List.filter_congr fun n _ => ?_)
  rw [contains_kept_resourcePass, Bool.not_and, Bool.not_not, Bool.not_not, Bool.eq_iff_iff,
    Bool.or_eq_true, Bool.or_eq_true, NameMap.contains_iff, decide_eq_true_eq, decide_eq_true_eq,
    mem_resources_exclusive]
  tauto

/-! ### The result -/

/-- The names of all classes that have a place. -/
def names (m : Metadata) : NameSet := m.applications.keys ∪ m.resources ∪ m.providers

/-- Metadata came out of others by leaving every name in one place, and lost these places. -/
structure Separated (m m' : Metadata) (lost : List String) : Prop where
  applications : m'.applications = m.applications
  jndiResources : m'.jndiResources = m.jndiResources
  flags : m'.SameFlags m
  ignoreApplicationPath : m'.ignoreApplicationPath = m.ignoreApplicationPath
  resources : m'.resources = m.resources \ m.applications.keys
  providers : m'.providers = (m.providers \ m.applications.keys) \ m.resources
  names : m'.names = m.names
  /-- The lost resources come before the lost providers; both are listed in name order. -/
  listed : ∃ resources providers : NameSet, lost = resources.toList ++ providers.toList ∧
    (∀ n, n ∈ resources ↔ n ∈ m.resources ∧ n ∉ m'.resources) ∧
    ∀ n, n ∈ providers ↔ n ∈ m.providers ∧ n ∉ m'.providers
  twice : ∀ n, n ∈ m.resources ∧ n ∉ m'.resources → n ∈ m.providers ∧ n ∉ m'.providers →
    lost.count n = 2

theorem names_exclusive (m : Metadata) : m.exclusive.names = m.names := by
  refine NameSet.ext fun n => ?_
  simp only [names, NameSet.mem_union, applications_exclusive, mem_resources_exclusive,
    mem_providers_exclusive]
  tauto

theorem count_toList {s : NameSet} (h : n ∈ s) : s.toList.count n = 1 :=
  List.count_eq_one_of_mem s.nodup_toList h

theorem separated_exclusive (m : Metadata) : m.Separated m.exclusive m.overlap where
  applications := rfl
  jndiResources := rfl
  flags := sameFlags_exclusive m
  ignoreApplicationPath := rfl
  resources := resources_exclusive_eq
  providers := providers_exclusive_eq
  names := names_exclusive m
  listed := ⟨_, _, rfl, fun _ => NameSet.mem_sdiff, fun _ => NameSet.mem_sdiff⟩
  twice n hresource hprovider := by
    rw [overlap_eq_sdiff, List.count_append, count_toList (NameSet.mem_sdiff.mpr hresource),
      count_toList (NameSet.mem_sdiff.mpr hprovider)]

/-! ### Restoring precedence again -/

theorem exclusive_exclusive (m : Metadata) : m.exclusive.exclusive = m.exclusive :=
  exclusive_eq_self (fun _ hn => (mem_resources_exclusive.mp hn).2)
    (fun _ hn => (mem_providers_exclusive.mp hn).2.1)
    fun _ hn => (mem_providers_exclusive.mp hn).2.2

theorem overlap_exclusive (m : Metadata) : m.exclusive.overlap = [] := by
  have hnone : ∀ s : NameSet, (s \ s).toList = [] := by
    intro s
    rw [List.eq_nil_iff_forall_not_mem]
    exact fun n hn => (NameSet.mem_sdiff.mp hn).2 (NameSet.mem_sdiff.mp hn).1
  rw [overlap_eq_sdiff, exclusive_exclusive, hnone, hnone, List.append_nil]

theorem WellSorted.overlap_eq_nil (h : m.WellSorted) : m.overlap = [] := by
  rw [← h.exclusive_eq, overlap_exclusive]

/-! ### Classes that are added in between -/

/-- Classes to be added to metadata.  `settle` says what becomes of an application whose name is
known already, from the known one and the new one. -/
structure Additions where
  applications : List (String × Application)
  settle : Application → Application → Application
  resources : NameSet
  providers : NameSet
  jndiResources : NameSet

/-- Puts an application under a name, as `settle` says if there is one already. -/
def settleApplication (settle : Application → Application → Application)
    (applications : NameMap Application) (entry : String × Application) : NameMap Application :=
  applications.insert entry.1
    (((applications.get? entry.1).map fun known => settle known entry.2).getD entry.2)

/-- The metadata with classes added. -/
def adding (m : Metadata) (a : Additions) : Metadata :=
  { m with
    applications := a.applications.foldl (settleApplication a.settle) m.applications
    resources := m.resources ∪ a.resources
    providers := m.providers ∪ a.providers
    jndiResources := m.jndiResources ∪ a.jndiResources }

/-- The classes of another unit, where the smaller path of an application counts. -/
def Additions.ofMetadata (other : Metadata) : Additions where
  applications := other.applications.entries
  settle := Application.join
  resources := other.resources
  providers := other.providers
  jndiResources := other.jndiResources

/-- The classes that a scan found, where the application that was found last counts. -/
def Additions.ofFound (config : Config) (found : Classification.Found) : Additions where
  applications := found.applications.map fun a => (a.name, a)
  settle := fun _ new => new
  resources := Classification.namesOf found.resources
  providers := Classification.namesOf found.providers
  jndiResources :=
    Classification.namesOf (found.resources.filter (Classification.isSessionBean config))

theorem absorb_eq_adding (m other : Metadata) : m.absorb other = m.adding (.ofMetadata other) := by
  have hjoin : joinApplication = settleApplication Application.join := by
    funext applications entry
    rw [joinApplication, settleApplication]
    cases applications.get? entry.1 <;> rfl
  rw [absorb, hjoin]
  rfl

theorem addFound_eq_adding (config : Config) (m : Metadata) (found : Classification.Found) :
    Classification.addFound config m found = m.adding (.ofFound config found) := by
  have hinsert : ∀ (t : NameMap Application) (a : Application),
      settleApplication (fun _ new => new) t (a.name, a) = t.insert a.name a := by
    intro t a
    rw [settleApplication]
    cases t.get? a.name <;> rfl
  rw [Classification.addFound, foldl_addApplication_eq, adding, Additions.ofFound, List.foldl_map]
  simp only [hinsert]

theorem mem_keys_settleApplication {settle : Application → Application → Application}
    {applications : NameMap Application} {entry : String × Application}
    (h : n ∈ applications.keys) : n ∈ (settleApplication settle applications entry).keys := by
  rw [NameMap.mem_keys] at h ⊢
  rw [settleApplication, NameMap.get?_insert]
  split
  · rfl
  · exact h

theorem gains_adding (m : Metadata) (a : Additions) :
    m.Gains (m.adding a) (· ∈ a.resources) (· ∈ a.providers) where
  application n hn := by
    -- no application goes away while others are added
    refine List.foldlRecOn (motive := fun applications => n ∈ applications.keys) a.applications
      (settleApplication a.settle) hn ?_
    intro applications h entry _
    exact mem_keys_settleApplication h
  resource _ := NameSet.mem_union
  provider _ := NameSet.mem_union

/-- Precedence need not be restored before classes are added. -/
theorem exclusive_adding_exclusive (m : Metadata) (a : Additions) :
    (m.exclusive.adding a).exclusive = (m.adding a).exclusive :=
  eq_of_sameClasses
    ((gains_adding m a).sameClasses_exclusive (gains_adding m.exclusive a) rfl rfl)
    ⟨rfl, rfl, rfl, rfl⟩ rfl

/-! ### The main statement -/

/-- **Restoring precedence separates the classes, once and for all.**  Name by name, the
applications are taken out of the resources and then the applications and the resources out of the
providers.  Applications, policy and flags stay, no name is lost altogether, and the names that
lose a place are listed in order, those of resources first.  A second time nothing changes.
Whatever classes are added in between, as a merge or a classification adds them or in another way,
it is enough to restore precedence afterwards. -/
theorem exclusive_separates (m : Metadata) :
    m.Separated m.exclusive m.overlap ∧
      (m.resourcePass.kept = m.exclusive.resources.toList ∧
        m.providerPass.kept = m.exclusive.providers.toList ∧
        m.providerPass.dropped = m.overlap) ∧
      (m.exclusive.exclusive = m.exclusive ∧ m.exclusive.overlap = []) ∧
      (∀ a, (m.exclusive.adding a).exclusive = (m.adding a).exclusive) ∧
      (∀ other, m.absorb other = m.adding (.ofMetadata other)) ∧
      ∀ config found, Classification.addFound config m found = m.adding (.ofFound config found) :=
  ⟨separated_exclusive m,
    ⟨kept_resourcePass m, kept_providerPass m, dropped_providerPass m⟩,
    ⟨exclusive_exclusive m, overlap_exclusive m⟩,
    exclusive_adding_exclusive m, absorb_eq_adding m, fun config => addFound_eq_adding config m⟩

/-- A class that is an application, a resource and a provider loses two places. -/
example :
    (overlap { applications := .ofList [("Shop", ⟨"Shop", none⟩)], resources := .ofList ["Shop"],
               providers := .ofList ["Cart", "Shop"] }) = ["Shop", "Shop"] := by
  decide

end RestDeployment.Metadata
