import RestDeployment.Proofs.ClassTable.ListOrder
import RestDeployment.Proofs.Classification

/-!
# Classifying a list of classes

What a classification finds among the classes of a list is said here without a table and its
walks.  Applications, resources and providers are described by entries and by chains of them
(`IsApplication`, `IsResource`, `IsProvider`).  A scan adds just these to metadata without classes
(`Collects`), and with precedence restored each class is in the first place that claims it
(`Sorts`).

## Strategy

`Proofs/Classification.lean` describes a classification for any index, in terms of the answers
that the index gives.  A table gives them from its entries: which classes carry an annotation is
`mem_annotatedClasses`, which of them stand for others is `mem_concreteImplementors`, and which
extend the application class is `ClassTable.mem_subtypes_iff`.  The table of a list has the last
entry of each name, and its other properties do not depend on the order.
-/

namespace RestDeployment

/-- The classes of a list and some more names that can be loaded, to be scanned. -/
def ScanInput.ofList (classes : List ClassEntry) (visible : List String)
    (descriptor : Option WebDescriptor) : ScanInput where
  index := (ClassTable.ofList classes).toIndex
  loader := (ClassTable.ofList classes).loader visible
  descriptor := descriptor

/-- The classes of a list, to be scanned with any loader. -/
abbrev ScanInput.ofListWith (classes : List ClassEntry) (loader : ClassLoader)
    (descriptor : Option WebDescriptor) : ScanInput where
  index := (ClassTable.ofList classes).toIndex
  loader := loader
  descriptor := descriptor

theorem ScanPolicy.seeks_of_scans {p : ScanPolicy} (h : p.scans = true) :
    p.seeksResources = p.scanResources ∧ p.seeksProviders = p.scanProviders := by
  have hboot : p.hasBootClasses = false := by
    cases hboot : p.hasBootClasses with
    | false => rfl
    | true => simp [ScanPolicy.scans, hboot] at h
  simp [ScanPolicy.seeksResources, ScanPolicy.seeksProviders, hboot]

namespace Classification

variable {config : Config} {t : ClassTable} {classes classes' : List ClassEntry}
  {visible : List String} {descriptor : Option WebDescriptor} {m : Metadata} {marker : String}
  {interfaces : NameSet} {c : ClassEntry} {n : String}

/-! ### What is to be found -/

/-- A class of the list that can be instantiated and extends the application class.  Where there
is a descriptor, the class carries a path or its name is mapped. -/
structure IsApplication (classes : List ClassEntry) (descriptor : Option WebDescriptor)
    (c : ClassEntry) : Prop where
  listed : ClassTable.LastOfName classes c
  concrete : c.isAbstract = false
  inherits : (ClassTable.ofList classes).Inherits c.name applicationClass
  counts : ∀ web, descriptor = some web →
    c.hasAnnotation applicationPathAnnotation = true ∨ web.isMapped c.name = true

/-- A class of the list that carries an annotation and is no decorator. -/
structure IsMarked (classes : List ClassEntry) (marker : String) (c : ClassEntry) : Prop where
  listed : ClassTable.LastOfName classes c
  annotated : c.hasAnnotation marker = true
  not_decorator : c.isDecorator = false

/-- A class of the list that can be instantiated, is no decorator and implements an interface
that is marked as a resource. -/
structure StandsIn (classes : List ClassEntry) (c i : ClassEntry) : Prop where
  listed : ClassTable.LastOfName classes c
  concrete : c.isAbstract = false
  not_decorator : c.isDecorator = false
  marked : IsMarked classes pathAnnotation i
  interface : i.isInterface = true
  implements : (ClassTable.ofList classes).Implements c.name i.name

/-- A class that is marked as a resource, or one that stands in for a marked interface. -/
def IsResource (classes : List ClassEntry) (c : ClassEntry) : Prop :=
  IsMarked classes pathAnnotation c ∧ c.isInterface = false ∨ ∃ i, StandsIn classes c i

/-- A class that is marked as a provider. -/
def IsProvider (classes : List ClassEntry) (c : ClassEntry) : Prop :=
  IsMarked classes providerAnnotation c ∧ c.isInterface = false

/-- Metadata hold the classes of a list that a scan under the policy and flags of `m` is to find,
each in the first place that claims it. -/
structure Sorts (classes : List ClassEntry) (descriptor : Option WebDescriptor)
    (m found : Metadata) : Prop where
  application : ∀ n a, found.applications.get? n = some a ↔ m.dispatcherCreated = false ∧
    ∃ c, IsApplication classes descriptor c ∧ c.name = n ∧
      a = ⟨n, (c.annotation? applicationPathAnnotation).map fun path => path.value.getD ""⟩
  resource : ∀ n, n ∈ found.resources ↔ m.policy.scanResources = true ∧
    (∃ c, IsResource classes c ∧ c.name = n) ∧ n ∉ found.applications.keys
  provider : ∀ n, n ∈ found.providers ↔ m.policy.scanProviders = true ∧
    (∃ c, IsProvider classes c ∧ c.name = n) ∧
      n ∉ found.applications.keys ∧ n ∉ found.resources

/-- Metadata hold the classes of a list that a scan under the policy and flags of `m` comes across,
each in every place that claims it. -/
structure Collects (classes : List ClassEntry) (descriptor : Option WebDescriptor)
    (m found : Metadata) : Prop where
  application : ∀ n a, found.applications.get? n = some a ↔
    m.policy.scans = true ∧ m.dispatcherCreated = false ∧
      ∃ c, IsApplication classes descriptor c ∧ c.name = n ∧
        a = ⟨n, (c.annotation? applicationPathAnnotation).map fun path => path.value.getD ""⟩
  resource : ∀ n, n ∈ found.resources ↔
    m.policy.seeksResources = true ∧ ∃ c, IsResource classes c ∧ c.name = n
  provider : ∀ n, n ∈ found.providers ↔
    m.policy.seeksProviders = true ∧ ∃ c, IsProvider classes c ∧ c.name = n

/-- Restoring precedence leaves what was collected in the first place that claims it. -/
theorem Collects.sorts {found : Metadata} (h : Collects classes descriptor m found)
    (hscans : m.policy.scans = true) : Sorts classes descriptor m found.exclusive where
  application n a := (h.application n a).trans (and_iff_right hscans)
  resource n := by
    rw [Metadata.mem_resources_exclusive, Metadata.applications_exclusive, h.resource, and_assoc,
      (ScanPolicy.seeks_of_scans hscans).1]
  provider n := by
    rw [Metadata.mem_providers_exclusive, Metadata.applications_exclusive, h.provider, and_assoc,
      (ScanPolicy.seeks_of_scans hscans).2]

theorem Sorts.mem_applications_keys {found : Metadata}
    (h : Sorts classes descriptor m found) :
    n ∈ found.applications.keys ↔
      m.dispatcherCreated = false ∧ ∃ c, IsApplication classes descriptor c ∧ c.name = n := by
  rw [NameMap.mem_keys, Option.isSome_iff_exists]
  constructor
  · rintro ⟨a, ha⟩
    obtain ⟨hcreated, c, happlication, hname, -⟩ := (h.application n a).mp ha
    exact ⟨hcreated, c, happlication, hname⟩
  · rintro ⟨hcreated, c, happlication, hname⟩
    exact ⟨_, (h.application n _).mpr ⟨hcreated, c, happlication, hname, rfl⟩⟩

theorem Collects.mem_applications_keys {found : Metadata}
    (h : Collects classes descriptor m found) (hscans : m.policy.scans = true) :
    n ∈ found.applications.keys ↔
      m.dispatcherCreated = false ∧ ∃ c, IsApplication classes descriptor c ∧ c.name = n :=
  (h.sorts hscans).mem_applications_keys

/-! ### Annotated classes of a table -/

theorem mem_namesOf {cs : List ClassEntry} : n ∈ namesOf cs ↔ ∃ c ∈ cs, c.name = n := by
  rw [namesOf, NameSet.mem_ofList, List.mem_map]

/-- Of the occurrences on a class and its members, only those on the class itself are at a
class. -/
theorem filterMap_asClass?_occurrencesOn (marker : String) (c : ClassEntry) :
    (ClassTable.occurrencesOn marker c).filterMap (fun o => o.site.asClass?) =
      if c.hasAnnotation marker then [c] else [] := by
  have hmembers : ∀ (site : String → Site) (members : List Member),
      (∀ name, (site name).asClass? = none) →
        (ClassTable.memberOccurrences marker site members).filterMap
          (fun o => o.site.asClass?) = [] := by
    intro site members hsite
    rw [List.filterMap_eq_nil_iff]
    intro o ho
    obtain ⟨member, -, ho⟩ := List.mem_flatMap.mp ho
    obtain ⟨a, -, rfl⟩ := List.mem_map.mp ho
    exact hsite member.name
  rw [ClassTable.occurrencesOn, List.filterMap_append, List.filterMap_append,
    hmembers _ _ fun _ => rfl, hmembers _ _ fun _ => rfl, List.append_nil, List.append_nil,
    ClassEntry.hasAnnotation]
  cases c.annotation? marker <;> rfl

theorem mem_annotatedClasses (hkeyed : t.Keyed) :
    c ∈ annotatedClasses (t.annotated marker) ↔
      t.class? c.name = some c ∧ c.hasAnnotation marker = true ∧ c.isDecorator = false := by
  rw [annotatedClasses, List.mem_filter, ClassTable.annotated, List.filterMap_flatMap,
    List.mem_flatMap, Bool.not_eq_true', ← ClassTable.mem_values_classes hkeyed, ← and_assoc]
  refine and_congr_left' ?_
  simp only [filterMap_asClass?_occurrencesOn]
  constructor
  · rintro ⟨d, hd, hc⟩
    split at hc
    · next hannotated =>
        obtain rfl := List.mem_singleton.mp hc
        exact ⟨hd, hannotated⟩
    · cases hc
  · rintro ⟨hc, hannotated⟩
    refine ⟨c, hc, ?_⟩
    rw [if_pos hannotated]
    exact List.mem_singleton_self c

theorem mem_concreteImplementors (h : t.Consistent) :
    c ∈ concreteImplementors t.toIndex interfaces ↔ t.class? c.name = some c ∧
      c.isAbstract = false ∧ ∃ i ∈ interfaces, t.Implements c.name i := by
  simp only [concreteImplementors, List.mem_flatMap, List.mem_filter, ClassTable.toIndex,
    ClassTable.mem_implementorsOf_iff h, NameSet.mem_toList, ClassEntry.isConcrete,
    Bool.not_eq_true']
  constructor
  · rintro ⟨i, hi, ⟨hclass, himplements⟩, hconcrete⟩
    exact ⟨hclass, hconcrete, i, hi, himplements⟩
  · rintro ⟨hclass, hconcrete, i, hi, himplements⟩
    exact ⟨i, hi, ⟨hclass, himplements⟩, hconcrete⟩

/-! ### The classes of a list -/

theorem class?_ofList_self_iff :
    (ClassTable.ofList classes).class? c.name = some c ↔ ClassTable.LastOfName classes c := by
  rw [ClassTable.class?_ofList_iff, and_iff_right rfl]

theorem mem_annotatedClasses_ofList :
    c ∈ annotatedClasses ((ClassTable.ofList classes).annotated marker) ↔
      IsMarked classes marker c := by
  rw [mem_annotatedClasses (ClassTable.keyed_ofList classes), class?_ofList_self_iff]
  exact ⟨fun ⟨hlisted, hannotated, hno⟩ => ⟨hlisted, hannotated, hno⟩,
    fun h => ⟨h.listed, h.annotated, h.not_decorator⟩⟩

theorem mem_resourceInterfaces_ofList :
    n ∈ resourceInterfaces ((ClassTable.ofList classes).annotated pathAnnotation) ↔
      ∃ i, IsMarked classes pathAnnotation i ∧ i.isInterface = true ∧ i.name = n := by
  simp only [resourceInterfaces, mem_namesOf, List.mem_filter, mem_annotatedClasses_ofList,
    and_assoc]

theorem mem_resourceClasses_ofList :
    c ∈ resourceClasses (ClassTable.ofList classes).toIndex
        ((ClassTable.ofList classes).annotated pathAnnotation) ↔ IsResource classes c := by
  rw [resourceClasses, List.mem_append, List.mem_filter, List.mem_filter,
    mem_annotatedClasses_ofList, mem_concreteImplementors (ClassTable.consistent_ofList classes),
    class?_ofList_self_iff, Bool.not_eq_true', Bool.not_eq_true', IsResource]
  refine or_congr_right ?_
  constructor
  · rintro ⟨⟨hlisted, hconcrete, _, hi, himplements⟩, hdecorator⟩
    obtain ⟨i, hmarked, hinterface, rfl⟩ := mem_resourceInterfaces_ofList.mp hi
    exact ⟨i, hlisted, hconcrete, hdecorator, hmarked, hinterface, himplements⟩
  · rintro ⟨i, h⟩
    exact ⟨⟨h.listed, h.concrete, i.name,
      mem_resourceInterfaces_ofList.mpr ⟨i, h.marked, h.interface, rfl⟩, h.implements⟩,
      h.not_decorator⟩

theorem mem_providerClasses_ofList :
    c ∈ providerClasses ((ClassTable.ofList classes).annotated providerAnnotation) ↔
      IsProvider classes c := by
  rw [providerClasses, List.mem_filter, mem_annotatedClasses_ofList, Bool.not_eq_true', IsProvider]

theorem mem_subtypes_ofList :
    c ∈ (ClassTable.ofList classes).subtypes applicationClass ↔
      ClassTable.LastOfName classes c ∧
        (ClassTable.ofList classes).Inherits c.name applicationClass := by
  rw [ClassTable.mem_subtypes_iff (ClassTable.keyed_ofList classes)
    (ClassTable.linked_ofList classes), class?_ofList_self_iff]

theorem keeps_ofEntry_iff :
    keeps descriptor (.ofEntry c) = true ↔ ∀ web, descriptor = some web →
      c.hasAnnotation applicationPathAnnotation = true ∨ web.isMapped c.name = true := by
  cases descriptor with
  | none => simp [keeps]
  | some web =>
      simp [keeps, Application.isRegistered, Application.isAnnotated, Application.ofEntry,
        ClassEntry.hasAnnotation]

/-- The candidates of a list that are kept are its applications. -/
theorem exists_kept_ofList_iff {a : Application} :
    (∃ c ∈ (ClassTable.ofList classes).subtypes applicationClass,
        c.name = n ∧ Kept descriptor c a) ↔
      ∃ c, IsApplication classes descriptor c ∧ c.name = n ∧
        a = ⟨n, (c.annotation? applicationPathAnnotation).map fun path => path.value.getD ""⟩ := by
  refine exists_congr fun c => ?_
  rw [mem_subtypes_ofList]
  constructor
  · rintro ⟨⟨hlisted, hinherits⟩, rfl, hconcrete, rfl, hkeeps⟩
    exact ⟨⟨hlisted, hconcrete, hinherits, keeps_ofEntry_iff.mp hkeeps⟩, rfl, rfl⟩
  · rintro ⟨h, rfl, rfl⟩
    exact ⟨⟨h.listed, h.inherits⟩, rfl, h.concrete, rfl, keeps_ofEntry_iff.mpr h.counts⟩

/-! ### The whole classification -/

theorem isOk_classify_ofList (config : Config) (classes : List ClassEntry) (visible : List String)
    (descriptor : Option WebDescriptor) (m : Metadata) :
    (classify config (.ofList classes visible descriptor) m).result = .ok () := by
  refine isOk_classify config m fun c hc => ?_
  exact ClassTable.load_of_mem_subtypes (ClassTable.keyed_ofList classes) hc

/-- Nothing is made of occurrences that are not looked for. -/
theorem mem_occurrencesIf {α : Type} {x : α} {seeks : Bool} {index : ClassIndex}
    (f : List Occurrence → List α) (hnone : f [] = []) :
    x ∈ f (occurrencesIf seeks index marker) ↔ seeks = true ∧ x ∈ f (index.annotated marker) := by
  cases seeks with
  | false => simp [occurrencesIf, hnone]
  | true => exact (and_iff_right rfl).symm

/-- The names of classes that are added to none. -/
theorem mem_union_namesOf {s : NameSet} {cs : List ClassEntry} {sought : Prop}
    {P : ClassEntry → Prop} (hempty : s = ∅) (h : ∀ c, c ∈ cs ↔ sought ∧ P c) :
    n ∈ s ∪ namesOf cs ↔ sought ∧ ∃ c, P c ∧ c.name = n := by
  simp only [hempty, NameSet.mem_union, NameSet.not_mem_empty, false_or, mem_namesOf, h, and_assoc,
    exists_and_left]

/-- No two candidates for applications share a name. -/
theorem eq_of_mem_subtypes_ofList :
    ∀ c ∈ (ClassTable.ofList classes).subtypes applicationClass,
      ∀ c' ∈ (ClassTable.ofList classes).subtypes applicationClass, c.name = c'.name → c = c' := by
  intro c hc c' hc' hname
  have hkeyed := ClassTable.keyed_ofList classes
  have hclass := ClassTable.class?_of_mem_subtypes hkeyed hc
  rw [hname, ClassTable.class?_of_mem_subtypes hkeyed hc', Option.some.injEq] at hclass
  exact hclass.symm

/-- Added to none, the classes that a scan finds are those that it comes across. -/
theorem collects_addFound {loader : ClassLoader} {apps : List Application}
    (config : Config) (hempty : m.isEmpty = true) (hscans : m.policy.scans = true)
    (happs : (foundApplications (.ofListWith classes loader descriptor) m.dispatcherCreated).value =
      .ok apps) :
    Collects classes descriptor m
      (addFound config m (foundBy (.ofListWith classes loader descriptor) m.policy apps)) := by
  obtain ⟨happlications, hresources, hproviders, -⟩ := Metadata.isEmpty_iff.mp hempty
  constructor
  · intro n a
    rw [get?_applications_addFound_foundBy happlications eq_of_mem_subtypes_ofList happs,
      and_iff_right hscans]
    exact and_congr_right' exists_kept_ofList_iff
  · intro n
    exact mem_union_namesOf hresources fun c =>
      (mem_occurrencesIf (resourceClasses _) rfl).trans (and_congr_right' mem_resourceClasses_ofList)
  · intro n
    exact mem_union_namesOf hproviders fun c =>
      (mem_occurrencesIf providerClasses rfl).trans (and_congr_right' mem_providerClasses_ofList)

/-- Where nothing is scanned, nothing is to be come across. -/
theorem collects_of_not_scans (hempty : m.isEmpty = true) (hscans : m.policy.scans = false) :
    Collects classes descriptor m m := by
  obtain ⟨happlications, hresources, hproviders, -⟩ := Metadata.isEmpty_iff.mp hempty
  obtain ⟨hseeksResources, hseeksProviders⟩ := ScanPolicy.seeks_of_not_scans hscans
  constructor
  · simp [happlications, hscans]
  · simp [hresources, hseeksResources]
  · simp [hproviders, hseeksProviders]

theorem sorts_classify_ofList (hempty : m.isEmpty = true) (hscans : m.policy.scans = true) :
    Sorts classes descriptor m
      (classify config (.ofList classes visible descriptor) m).state := by
  obtain ⟨apps, happs⟩ : ∃ apps, (foundApplications (.ofList classes visible descriptor)
      m.dispatcherCreated).value = .ok apps :=
    isOk_foundApplications m.dispatcherCreated fun c hc =>
      ClassTable.load_of_mem_subtypes (ClassTable.keyed_ofList classes) hc
  rw [(classify_of_ok hscans happs).2]
  exact (collects_addFound config hempty hscans happs).sorts hscans

/-- **What a classification finds in a list of classes.**  From metadata without classes and
under a policy that scans, the classification of a list ends well and finds its applications,
resources and providers, each class in the first place that claims it.  Where names are distinct
the order of the list does not matter, neither for the classes nor for the notes. -/
theorem classify_ofList (config : Config) (classes : List ClassEntry) (visible : List String)
    (descriptor : Option WebDescriptor) (hempty : m.isEmpty = true)
    (hscans : m.policy.scans = true) :
    (classify config (.ofList classes visible descriptor) m).result = .ok () ∧
      Sorts classes descriptor m
        (classify config (.ofList classes visible descriptor) m).state ∧
      ∀ classes', classes.Perm classes' → (classes.map (·.name)).Nodup →
        classify config (.ofList classes' visible descriptor) m =
          classify config (.ofList classes visible descriptor) m := by
  refine ⟨isOk_classify_ofList config classes visible descriptor m,
    sorts_classify_ofList hempty hscans, fun classes' hperm hdistinct => ?_⟩
  rw [ScanInput.ofList, ScanInput.ofList, ClassTable.toIndex_ofList_perm hperm hdistinct,
    ClassTable.loader_ofList_perm hperm hdistinct]

/-- Classes of a shop: an application below an abstract one, an interface that is marked as a
resource, with a class that implements it by way of another interface and a superclass and with
a decorator around it, and an abstract provider. -/
def shopClasses : List ClassEntry :=
  [ { plain "Base" with modifiers := [.abstract], superName := some applicationClass },
    { plain "Shop" with
      superName := some "Base", annotations := [⟨ applicationPathAnnotation, none⟩] },
    { plain "Cart" with kind := .interface, annotations := [⟨ pathAnnotation, some "/cart"⟩] },
    { plain "WebCart" with kind := .interface, interfaces := ["Cart"] },
    { plain "AbstractCart" with modifiers := [.abstract], interfaces := ["WebCart"] },
    { plain "ShopCart" with superName := some "AbstractCart" },
    { plain "LoggingCart" with
      interfaces := ["Cart"], annotations := [⟨ decoratorAnnotation, none⟩] },
    { plain "Writer" with
      modifiers := [.abstract], annotations := [⟨ providerAnnotation, none⟩] } ]
where
  plain (name : String) : ClassEntry := ⟨name, .ordinary, [], none, [], [], [], []⟩

/-- All of them are found where they belong, and the decorator nowhere. -/
theorem classify_ofList_shopClasses :
    (Metadata.ofPolicy .everything).isEmpty = true ∧
      (Metadata.ofPolicy .everything).policy.scans = true ∧
      (shopClasses.map (·.name)).Nodup ∧
      ∃ found, classify {} (.ofList shopClasses [] (some {})) (.ofPolicy .everything) =
          classify {} (.ofList shopClasses.reverse [] (some {})) (.ofPolicy .everything) ∧
        (classify {} (.ofList shopClasses [] (some {})) (.ofPolicy .everything)).result = .ok () ∧
        (classify {} (.ofList shopClasses [] (some {})) (.ofPolicy .everything)).state = found ∧
        found.applications.get? "Shop" = some ⟨"Shop", some ""⟩ ∧ "ShopCart" ∈ found.resources ∧
        "LoggingCart" ∉ found.resources ∧ "Writer" ∈ found.providers := by
  have hdistinct : (shopClasses.map (·.name)).Nodup := by decide
  obtain ⟨hok, hsorts, horder⟩ := classify_ofList {} shopClasses [] (some {})
    (m := .ofPolicy .everything) rfl rfl
  have hlisted : ∀ n c, (ClassTable.ofList shopClasses).class? n = some c →
      ClassTable.LastOfName shopClasses c := fun n c hclass =>
    (ClassTable.class?_ofList_iff.mp hclass).2
  -- without a path and a mapping a class is no application
  have hother : ∀ n c', (ClassTable.ofList shopClasses).class? n = some c' →
      c'.hasAnnotation applicationPathAnnotation = false →
        n ∉ (classify {} (.ofList shopClasses [] (some {})) (.ofPolicy .everything)
          ).state.applications.keys := by
    intro n c' hclass hno hkey
    obtain ⟨-, c, happlication, hname⟩ := hsorts.mem_applications_keys.mp hkey
    rcases happlication.counts {} rfl with hpath | hmapped
    · rw [happlication.listed.eq_of_class? hname hclass, hno] at hpath
      cases hpath
    · cases hmapped
  refine ⟨rfl, rfl, hdistinct, _, (horder _ (List.reverse_perm _).symm hdistinct).symm, hok, rfl,
    ?_, ?_, ?_, ?_⟩
  · have hchain : (ClassTable.ofList shopClasses).Inherits "Shop" applicationClass :=
      .head ⟨_, rfl, rfl⟩ (.single ⟨_, rfl, rfl⟩)
    exact (hsorts.application _ _).mpr
      ⟨rfl, _, ⟨hlisted "Shop" _ rfl, rfl, hchain, fun _ _ => .inl rfl⟩, rfl, rfl⟩
  · have himplements : (ClassTable.ofList shopClasses).Implements "ShopCart" "Cart" :=
      ⟨"AbstractCart", .single ⟨_, rfl, rfl⟩, _, rfl, rfl, "WebCart", List.mem_cons_self,
        .single ⟨_, rfl, rfl, List.mem_cons_self⟩⟩
    have hstandsIn : StandsIn shopClasses shopClasses[5] shopClasses[2] :=
      ⟨hlisted "ShopCart" _ rfl, rfl, rfl, ⟨hlisted "Cart" _ rfl, rfl, rfl⟩, rfl, himplements⟩
    exact (hsorts.resource _).mpr
      ⟨rfl, ⟨_, .inr ⟨_, hstandsIn⟩, rfl⟩, hother "ShopCart" _ rfl rfl⟩
  · intro hmem
    obtain ⟨-, ⟨c, hresource, hname⟩, -⟩ := (hsorts.resource _).mp hmem
    obtain ⟨hlast, hno⟩ : ClassTable.LastOfName shopClasses c ∧ c.isDecorator = false := by
      rcases hresource with ⟨hmarked, -⟩ | ⟨i, hstandsIn⟩
      · exact ⟨hmarked.listed, hmarked.not_decorator⟩
      · exact ⟨hstandsIn.listed, hstandsIn.not_decorator⟩
    rw [hlast.eq_of_class? hname rfl] at hno
    cases hno
  · have hprovider : IsProvider shopClasses shopClasses[7] :=
      ⟨⟨hlisted "Writer" _ rfl, rfl, rfl⟩, rfl⟩
    refine (hsorts.provider _).mpr
      ⟨rfl, ⟨_, hprovider, rfl⟩, hother "Writer" _ rfl rfl, fun hmem => ?_⟩
    obtain ⟨-, ⟨c, hresource, hname⟩, -⟩ := (hsorts.resource _).mp hmem
    rcases hresource with ⟨hmarked, -⟩ | ⟨i, hstandsIn⟩
    · have hannotated := hmarked.annotated
      rw [hmarked.listed.eq_of_class? hname rfl] at hannotated
      cases hannotated
    · have hconcrete := hstandsIn.concrete
      rw [hstandsIn.listed.eq_of_class? hname rfl] at hconcrete
      cases hconcrete

end Classification

end RestDeployment
