import RestDeployment.Classification
import RestDeployment.Proofs.Metadata.Precedence

/-!
# What a classification makes of metadata

A classification adds classes to the metadata of a unit in one case only: the policy
has something scanned and all applications can be loaded.  In the others it leaves the
metadata as they are.  From these cases (`classify_cases`) follow

* `WellSorted.classify`: well sorted metadata stay so, even if the classification
  fails;
* `mem_jndiResources_classify`: the components that it adds are the `sessionBeans`
  among the resource classes, also those that are applications;
* `isOk_classify`: it ends well if every subtype of the application class that the index
  knows can be loaded.
-/

namespace RestDeployment

/-- Where nothing is scanned, neither resources nor providers are looked for. -/
theorem ScanPolicy.seeks_of_not_scans {p : ScanPolicy} (h : p.scans = false) :
    p.seeksResources = false ∧ p.seeksProviders = false := by
  unfold scans at h
  unfold seeksResources seeksProviders
  cases hboot : p.hasBootClasses <;> simp_all

theorem ScanPolicy.scans_of_seeks {p : ScanPolicy}
    (h : p.seeksResources = true ∨ p.seeksProviders = true) : p.scans = true := by
  cases hscans : p.scans with
  | true => rfl
  | false =>
      obtain ⟨hresources, hproviders⟩ := seeks_of_not_scans hscans
      simp [hresources, hproviders] at h

namespace Classification

variable {config : Config} {input : ScanInput} {m : Metadata} {apps : List Application}
  {n : String}

/-! ### The three ways of a classification -/

/-- The classes that a scan finds under a policy. -/
def foundBy (input : ScanInput) (p : ScanPolicy) (apps : List Application) : Found where
  applications := apps
  resources :=
    resourceClasses input.index (occurrencesIf p.seeksResources input.index pathAnnotation)
  providers := providerClasses (occurrencesIf p.seeksProviders input.index providerAnnotation)

theorem classify_of_not_scans (h : m.policy.scans = false) :
    (classify config input m).result = .ok () ∧ (classify config input m).state = m := by
  simp [classify, h]

theorem classify_of_error {fault : Fault} (h : m.policy.scans = true)
    (happs : (foundApplications input m.dispatcherCreated).value = .error fault) :
    (classify config input m).result = .error fault ∧ (classify config input m).state = m := by
  simp [classify, h, happs]

theorem classify_of_ok (h : m.policy.scans = true)
    (happs : (foundApplications input m.dispatcherCreated).value = .ok apps) :
    (classify config input m).result = .ok () ∧
      (classify config input m).state =
        (addFound config m (foundBy input m.policy apps)).exclusive := by
  simp [classify, h, happs, foundBy]

/-- Nothing is scanned, or an application cannot be loaded, or what was found is added. -/
theorem classify_cases (config : Config) (input : ScanInput) (m : Metadata) :
    (m.policy.scans = false ∧ (classify config input m).result = .ok () ∧
      (classify config input m).state = m) ∨
    (∃ fault, m.policy.scans = true ∧
      (foundApplications input m.dispatcherCreated).value = .error fault ∧
      (classify config input m).result = .error fault ∧ (classify config input m).state = m) ∨
    ∃ apps, m.policy.scans = true ∧
      (foundApplications input m.dispatcherCreated).value = .ok apps ∧
      (classify config input m).result = .ok () ∧ (classify config input m).state =
        (addFound config m (foundBy input m.policy apps)).exclusive := by
  cases hscans : m.policy.scans with
  | false => exact .inl ⟨rfl, classify_of_not_scans hscans⟩
  | true =>
      cases happs : (foundApplications input m.dispatcherCreated).value with
      | error fault => exact .inr (.inl ⟨fault, rfl, rfl, classify_of_error hscans happs⟩)
      | ok apps => exact .inr (.inr ⟨apps, rfl, rfl, classify_of_ok hscans happs⟩)

/-- A classification leaves the metadata as they are or adds what it found to them. -/
theorem classify_state (config : Config) (input : ScanInput) (m : Metadata) :
    (classify config input m).state = m ∨
      ∃ apps, (classify config input m).state =
        (addFound config m (foundBy input m.policy apps)).exclusive := by
  rcases classify_cases config input m with ⟨-, -, hstate⟩ | ⟨_, -, -, -, hstate⟩ |
    ⟨apps, -, -, -, hstate⟩
  · exact .inl hstate
  · exact .inl hstate
  · exact .inr ⟨apps, hstate⟩

/-! ### Loading the candidates -/

theorem isOk_applications {loader : ClassLoader} {candidates : List ClassEntry}
    (descriptor : Option WebDescriptor)
    (h : ∀ c ∈ candidates, ∃ handle, loader.load c.name = .ok handle) :
    ∃ apps, (applications loader descriptor candidates).value = .ok apps := by
  induction candidates with
  | nil => exact ⟨[], rfl⟩
  | cons c candidates ih =>
      rw [List.forall_mem_cons] at h
      obtain ⟨handle, hload⟩ := h.1
      obtain ⟨apps, happs⟩ := ih h.2
      simp only [applications, hload]
      split
      · exact ⟨apps, happs⟩
      · split
        · exact ⟨Application.ofEntry c :: apps, by simp only [happs, Except.map]⟩
        · exact ⟨apps, happs⟩

/-- The search for applications ends well if all candidates can be loaded. -/
theorem isOk_foundApplications (dispatcherCreated : Bool)
    (h : ∀ c ∈ input.index.subtypes applicationClass,
      ∃ handle, input.loader.load c.name = .ok handle) :
    ∃ apps, (foundApplications input dispatcherCreated).value = .ok apps := by
  unfold foundApplications
  split
  · exact ⟨[], rfl⟩
  · exact isOk_applications input.descriptor h

/-- A classification ends well if all candidates for applications can be loaded. -/
theorem isOk_classify (config : Config) (m : Metadata)
    (h : ∀ c ∈ input.index.subtypes applicationClass,
      ∃ handle, input.loader.load c.name = .ok handle) :
    (classify config input m).result = .ok () := by
  cases hscans : m.policy.scans with
  | false => exact (classify_of_not_scans hscans).1
  | true =>
      obtain ⟨apps, happs⟩ := isOk_foundApplications m.dispatcherCreated h
      exact (classify_of_ok hscans happs).1

/-! ### Which applications are kept -/

/-- A class is kept as the application that its entry describes. -/
def Kept (descriptor : Option WebDescriptor) (c : ClassEntry) (a : Application) : Prop :=
  c.isAbstract = false ∧ Application.ofEntry c = a ∧ keeps descriptor a = true

/-- The application that a class is kept as, if it is. -/
def keptOf (descriptor : Option WebDescriptor) (c : ClassEntry) : List Application :=
  if c.isAbstract = false ∧ keeps descriptor (.ofEntry c) = true then [.ofEntry c] else []

theorem mem_keptOf {descriptor : Option WebDescriptor} {c : ClassEntry} {a : Application} :
    a ∈ keptOf descriptor c ↔ Kept descriptor c a := by
  unfold keptOf
  split
  · next h =>
      rw [List.mem_singleton]
      constructor
      · rintro rfl
        exact ⟨h.1, rfl, h.2⟩
      · exact fun hkept => hkept.2.1.symm
  · next h =>
      refine iff_of_false List.not_mem_nil ?_
      rintro ⟨habstract, rfl, hkeeps⟩
      exact h ⟨habstract, hkeeps⟩

/-- What is found among candidates is what is kept of the single ones. -/
theorem applications_value_eq_ok {loader : ClassLoader} {descriptor : Option WebDescriptor}
    {candidates : List ClassEntry}
    (h : (applications loader descriptor candidates).value = .ok apps) :
    apps = candidates.flatMap (keptOf descriptor) := by
  induction candidates generalizing apps with
  | nil =>
      cases h
      rfl
  | cons c candidates ih =>
      rw [List.flatMap_cons]
      cases habstract : c.isAbstract with
      | true =>
          have hrest : (applications loader descriptor candidates).value = .ok apps := by
            simpa [applications, habstract] using h
          simp [keptOf, habstract, ih hrest]
      | false =>
          cases hload : loader.load c.name with
          | error e => simp [applications, habstract, hload] at h
          | ok handle =>
              cases hrest : (applications loader descriptor candidates).value with
              | error fault =>
                  simp only [applications, habstract, hload, Bool.false_eq_true, if_false] at h
                  split at h <;> simp [hrest, Except.map] at h
              | ok rest =>
                  rw [← ih hrest]
                  cases hkeeps : keeps descriptor (.ofEntry c) with
                  | true =>
                      simp only [applications, habstract, hload, hrest, hkeeps, Except.map] at h
                      simpa [keptOf, habstract, hkeeps] using h.symm
                  | false =>
                      simp only [applications, habstract, hload, hrest, hkeeps] at h
                      simpa [keptOf, habstract, hkeeps] using h.symm

theorem mem_applications {loader : ClassLoader} {descriptor : Option WebDescriptor}
    {candidates : List ClassEntry}
    (h : (applications loader descriptor candidates).value = .ok apps) (a : Application) :
    a ∈ apps ↔ ∃ c ∈ candidates, Kept descriptor c a := by
  rw [applications_value_eq_ok h, List.mem_flatMap]
  simp only [mem_keptOf]

/-! ### Adding classes -/

/-- Of the applications of one name that are added, the last counts. -/
theorem get?_foldl_addApplication_eq_or (as : List Application) (m : Metadata) (n : String) :
    (as.foldl Metadata.addApplication m).applications.get? n =
      (as.reverse.find? (·.name = n)).or (m.applications.get? n) := by
  induction as generalizing m with
  | nil => rfl
  | cons a as ih =>
      rw [List.foldl_cons, ih, List.reverse_cons, List.find?_append, Option.or_assoc]
      congr 1
      rw [Metadata.addApplication, NameMap.get?_insert]
      by_cases hn : n = a.name
      · simp [hn]
      · simp [hn, Ne.symm hn]

/-- Where no two applications share a name, looking up a name finds the one that was added. -/
theorem get?_foldl_addApplication {as : List Application} {a : Application}
    (hnames : ∀ a ∈ as, ∀ b ∈ as, a.name = b.name → a = b) (m : Metadata) :
    (as.foldl Metadata.addApplication m).applications.get? n = some a ↔
      (a ∈ as ∧ a.name = n) ∨ m.applications.get? n = some a ∧ ∀ b ∈ as, b.name ≠ n := by
  rw [get?_foldl_addApplication_eq_or]
  cases hfind : as.reverse.find? (·.name = n) with
  | none =>
      simp only [List.find?_eq_none, List.mem_reverse, decide_eq_true_eq] at hfind
      have hnot : ¬ (a ∈ as ∧ a.name = n) := fun ⟨ha, hname⟩ => hfind a ha hname
      rw [Option.none_or, or_iff_right hnot, and_iff_left hfind]
  | some b =>
      have hb : b ∈ as := List.mem_reverse.mp (List.mem_of_find?_eq_some hfind)
      have hname : b.name = n := by simpa using List.find?_some hfind
      rw [Option.some_or, Option.some.injEq, or_iff_left fun h => h.2 b hb hname]
      constructor
      · rintro rfl
        exact ⟨hb, hname⟩
      · rintro ⟨ha, hn⟩
        exact hnames b hb a ha (hname.trans hn.symm)

theorem sameFlags_addFound (config : Config) (m : Metadata) (found : Found) :
    (addFound config m found).SameFlags m := by
  rw [addFound, Metadata.foldl_addApplication_eq]
  exact ⟨rfl, rfl, rfl, rfl⟩

theorem keyed_addFound (h : m.Keyed) (found : Found) : (addFound config m found).Keyed := by
  refine List.foldlRecOn (motive := Metadata.Keyed) found.applications Metadata.addApplication h ?_
  intro m hm a _
  exact hm.addApplication a

theorem Kept.name_eq {descriptor : Option WebDescriptor} {c : ClassEntry} {a : Application}
    (h : Kept descriptor c a) : a.name = c.name := by
  obtain ⟨-, rfl, -⟩ := h
  rfl

/-- Where no two candidates share a name, an added application is found by the name of the
candidate that it was kept for. -/
theorem get?_applications_addFound {found : Found} {a : Application}
    {candidates : List ClassEntry} {descriptor : Option WebDescriptor}
    (hempty : m.applications = ∅)
    (hnames : ∀ c ∈ candidates, ∀ c' ∈ candidates, c.name = c'.name → c = c')
    (hmem : ∀ a, a ∈ found.applications ↔ ∃ c ∈ candidates, Kept descriptor c a) :
    (addFound config m found).applications.get? n = some a ↔
      ∃ c ∈ candidates, c.name = n ∧ Kept descriptor c a := by
  have hunique : ∀ a ∈ found.applications, ∀ b ∈ found.applications, a.name = b.name → a = b := by
    intro a ha b hb hname
    obtain ⟨c, hc, -, rfl, -⟩ := (hmem a).mp ha
    obtain ⟨c', hc', -, rfl, -⟩ := (hmem b).mp hb
    rw [hnames c hc c' hc' hname]
  simp only [addFound, get?_foldl_addApplication hunique, hempty, hmem, NameMap.get?_empty,
    reduceCtorEq, false_and, or_false]
  constructor
  · rintro ⟨⟨c, hc, hkept⟩, hn⟩
    exact ⟨c, hc, hkept.name_eq.symm.trans hn, hkept⟩
  · rintro ⟨c, hc, hn, hkept⟩
    exact ⟨⟨c, hc, hkept⟩, hkept.name_eq.trans hn⟩

/-- The applications that a scan adds, where no two candidates share a name. -/
theorem get?_applications_addFound_foundBy {a : Application} (hempty : m.applications = ∅)
    (hnames : ∀ c ∈ input.index.subtypes applicationClass,
      ∀ c' ∈ input.index.subtypes applicationClass, c.name = c'.name → c = c')
    (happs : (foundApplications input m.dispatcherCreated).value = .ok apps) :
    (addFound config m (foundBy input m.policy apps)).applications.get? n = some a ↔
      m.dispatcherCreated = false ∧
        ∃ c ∈ input.index.subtypes applicationClass, c.name = n ∧ Kept input.descriptor c a := by
  cases hcreated : m.dispatcherCreated with
  | true =>
      rw [hcreated] at happs
      cases happs
      simp [addFound, foundBy, hempty]
  | false =>
      rw [hcreated] at happs
      have hmem : ∀ a, a ∈ (foundBy input m.policy apps).applications ↔
          ∃ c ∈ input.index.subtypes applicationClass, Kept input.descriptor c a :=
        mem_applications happs
      rw [get?_applications_addFound hempty hnames hmem, and_iff_right rfl]

/-- The applications that a classification finds, where no two candidates share a name. -/
theorem get?_applications_classify {a : Application} (hempty : m.applications = ∅)
    (hnames : ∀ c ∈ input.index.subtypes applicationClass,
      ∀ c' ∈ input.index.subtypes applicationClass, c.name = c'.name → c = c')
    (hok : (classify config input m).result = .ok ()) :
    (classify config input m).state.applications.get? n = some a ↔
      m.policy.scans = true ∧ m.dispatcherCreated = false ∧
        ∃ c ∈ input.index.subtypes applicationClass, c.name = n ∧ Kept input.descriptor c a := by
  rcases classify_cases config input m with ⟨hscans, -, hstate⟩ | ⟨_, -, -, hresult, -⟩ |
    ⟨apps, hscans, happs, -, hstate⟩
  · rw [hstate, hempty, hscans]
    simp
  · rw [hresult] at hok
    cases hok
  · rw [hstate, Metadata.applications_exclusive, hscans, and_iff_right rfl]
    exact get?_applications_addFound_foundBy hempty hnames happs

/-! ### Session beans -/

/-- The session beans among the resource classes of an index, under a policy. -/
def sessionBeans (config : Config) (index : ClassIndex) (p : ScanPolicy) : NameSet :=
  namesOf ((resourceClasses index (occurrencesIf p.seeksResources index pathAnnotation)).filter
    (isSessionBean config))

/-- Where nothing is scanned there are none. -/
theorem not_mem_sessionBeans {index : ClassIndex} {p : ScanPolicy} (h : p.scans = false) :
    n ∉ sessionBeans config index p := by
  have hnone : resourceClasses index [] = [] := rfl
  simp [sessionBeans, (ScanPolicy.seeks_of_not_scans h).1, occurrencesIf, hnone, namesOf]

theorem mem_resources_of_mem_sessionBeans {p : ScanPolicy}
    (h : n ∈ sessionBeans config input.index p) :
    n ∈ namesOf (foundBy input p apps).resources := by
  simp only [sessionBeans, namesOf, NameSet.mem_ofList, List.mem_map, List.mem_filter] at h ⊢
  obtain ⟨c, ⟨hc, -⟩, hname⟩ := h
  exact ⟨c, hc, hname⟩

/-- The components that a classification adds are the session beans that it finds. -/
theorem mem_jndiResources_classify (h : (classify config input m).result = .ok ()) :
    n ∈ (classify config input m).state.jndiResources ↔
      n ∈ m.jndiResources ∨ n ∈ sessionBeans config input.index m.policy := by
  rcases classify_cases config input m with ⟨hscans, -, hstate⟩ | ⟨_, -, -, hresult, -⟩ |
    ⟨apps, -, -, -, hstate⟩
  · rw [hstate]
    exact (or_iff_left (not_mem_sessionBeans hscans)).symm
  · rw [hresult] at h
    cases h
  · rw [hstate, Metadata.jndiResources_exclusive]
    exact NameSet.mem_union

end Classification

namespace Metadata

open Classification

variable {config : Config} {input : ScanInput} {m : Metadata}

theorem sameFlags_classify (config : Config) (input : ScanInput) (m : Metadata) :
    (classify config input m).state.SameFlags m := by
  rcases classify_state config input m with h | ⟨apps, h⟩
  · rw [h]
    exact ⟨rfl, rfl, rfl, rfl⟩
  · rw [h]
    exact (sameFlags_exclusive _).trans (sameFlags_addFound config m _)

/-- **A classification keeps metadata well sorted.** -/
theorem WellSorted.classify (h : m.WellSorted) :
    (classify config input m).state.WellSorted := by
  rcases classify_state config input m with hstate | ⟨apps, hstate⟩
  · rw [hstate]
    exact h
  · rw [hstate]
    exact (keyed_addFound h.keyed _).wellSorted_exclusive

theorem accounted_classify (h : m.jndiResources = ∅) :
    (classify config input m).state.Accounted := by
  rcases classify_state config input m with hstate | ⟨apps, hstate⟩
  · intro n hn
    rw [hstate, h] at hn
    exact absurd hn NameSet.not_mem_empty
  · rw [hstate]
    refine Accounted.exclusive fun n hn => .inl ?_
    rcases NameSet.mem_union.mp hn with hn | hn
    · rw [h] at hn
      exact absurd hn NameSet.not_mem_empty
    · exact NameSet.mem_union.mpr (.inr (mem_resources_of_mem_sessionBeans hn))

end Metadata

end RestDeployment
