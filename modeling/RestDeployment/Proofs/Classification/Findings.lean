import RestDeployment.Proofs.Classification.Atomicity
import RestDeployment.Proofs.Classification.ClassList
import RestDeployment.Proofs.ClassTable.Subtypes
import RestDeployment.Proofs.ClassTable.Uses
import RestDeployment.Proofs.Metadata.Exclusivity

/-!
# What a classification reports

A classification notes what it passes over: annotations on members that they are not meant for,
decorators, and classes that lose a place to one of higher precedence.  The findings are described
here by what they are about, without the scans that come across it: the annotated classes of a
list, the decorators that implement a resource interface, and the resources and providers that
have another place (`Grounds`).

## Strategy

The notes of a successful classification are those of three scans, one after the other, and of
the restored precedence (`findings_classify_of_ok`).  Each of the three is a list of findings for
every class or every pair of an interface and a class, and nothing depends on what was found
before.  Whether a decorator is reported twice is therefore a matter of the pairs alone: once for
each annotation it carries, and once for each resource interface that it implements.

Which classes lose a place is a question about the metadata before precedence was restored, and
these hold what the scans came across (`Collects`).  That is so for any metadata without classes to
begin with, whether something is scanned or not and whether a dispatcher serves an application
already.
-/

namespace RestDeployment

namespace Classification

variable {config : Config} {classes : List ClassEntry} {loader : ClassLoader}
  {descriptor : Option WebDescriptor} {m : Metadata} {c : ClassEntry} {n : String}

/-! ### The findings -/

/-- The finding on a decorator that is passed over. -/
def decoratorFinding (c : ClassEntry) : Finding :=
  ⟨.decoratorExcluded, c.name, "decorators are never resources or providers"⟩

/-- The finding on an annotation that stands on the wrong kind of element. -/
def misplacedFinding (marker expected : String) (site : Site) : Finding :=
  ⟨.malformedTarget, site.describe, marker ++ " expected on a " ++ expected⟩

/-- The finding on a class that loses a place to precedence. -/
def overlapFinding (name : String) : Finding :=
  ⟨.classificationOverlap, name, "class already classified with higher precedence"⟩

theorem findings_decoratorNotes (c : ClassEntry) :
    Note.findings c.decoratorNotes = if c.isDecorator = true then [decoratorFinding c] else [] := by
  unfold ClassEntry.decoratorNotes
  split <;> rfl

theorem findings_overlapNotes (names : List String) :
    Note.findings (overlapNotes names) = names.map overlapFinding := by
  rw [overlapNotes, Note.findings_flatMap, List.map_eq_flatMap]
  rfl

/-! ### What gives rise to them -/

/-- A class of the list that would stand in for an interface that is marked as a resource, were
it no decorator. -/
structure Wraps (classes : List ClassEntry) (c i : ClassEntry) : Prop where
  listed : ClassTable.LastOfName classes c
  concrete : c.isAbstract = false
  decorator : c.isDecorator = true
  marked : IsMarked classes pathAnnotation i
  interface : i.isInterface = true
  implements : (ClassTable.ofList classes).Implements c.name i.name

/-- What a classification has to report on. -/
structure Grounds where
  /-- The classes that are scanned. -/
  listed : List ClassEntry
  /-- The resource interfaces with decorators that implement them. -/
  wrappers : List (String × ClassEntry)
  /-- The resources that are applications. -/
  lostResources : NameSet
  /-- The providers that are applications or resources. -/
  lostProviders : NameSet

/-- The order of interfaces, and for one interface that of classes. -/
def Precedes (w w' : String × ClassEntry) : Prop :=
  w.1 < w'.1 ∨ w.1 = w'.1 ∧ w.2.name < w'.2.name

/-- These are the grounds for findings that a list gives, under the policy and flags of `m` and
for a unit with or without descriptor. -/
structure Grounds.Of (classes : List ClassEntry) (descriptor : Option WebDescriptor)
    (m : Metadata) (g : Grounds) : Prop where
  listed : ClassTable.Lists classes g.listed
  increasing : g.wrappers.Pairwise Precedes
  wrapper : ∀ n c, (n, c) ∈ g.wrappers ↔
    m.policy.seeksResources = true ∧ ∃ i, Wraps classes c i ∧ i.name = n
  /-- A class is found as an application only if no dispatcher serves one already. -/
  lostResource : ∀ n, n ∈ g.lostResources ↔
    m.policy.seeksResources = true ∧ m.dispatcherCreated = false ∧
      ∃ c, IsResource classes c ∧ IsApplication classes descriptor c ∧ c.name = n
  lostProvider : ∀ n, n ∈ g.lostProviders ↔ m.policy.seeksProviders = true ∧
    ∃ c, IsProvider classes c ∧
      (m.dispatcherCreated = false ∧ IsApplication classes descriptor c ∨
        m.policy.seeksResources = true ∧ IsResource classes c) ∧ c.name = n

/-- The grounds account for every resource and provider of a list that is looked for and is not
found in its place. -/
structure Grounds.Accounts (classes : List ClassEntry) (p : ScanPolicy) (found : Metadata)
    (g : Grounds) : Prop where
  resource : ∀ n, n ∈ g.lostResources ↔
    (p.seeksResources = true ∧ ∃ c, IsResource classes c ∧ c.name = n) ∧ n ∉ found.resources
  provider : ∀ n, n ∈ g.lostProviders ↔
    (p.seeksProviders = true ∧ ∃ c, IsProvider classes c ∧ c.name = n) ∧ n ∉ found.providers

/-- The findings on a class that an annotation gives rise to: that the class is passed over, if it
carries the annotation and is a decorator, and one for every use on elements that the annotation
is not meant for. -/
def findingsOn (marker label expected : String) (unexpected : ClassEntry → List Element)
    (c : ClassEntry) : List Finding :=
  (if c.hasAnnotation marker = true ∧ c.isDecorator = true then [decoratorFinding c] else []) ++
    ((unexpected c).flatMap (Element.uses marker)).map fun use =>
      misplacedFinding label expected use.site

/-- A path is meant for classes and methods. -/
def pathFindings : ClassEntry → List Finding :=
  findingsOn pathAnnotation "@Path" "class or method" ClassEntry.onFields

/-- A provider is meant to be a class. -/
def providerFindings : ClassEntry → List Finding :=
  findingsOn providerAnnotation "@Provider" "class" ClassEntry.onMembers

/-- The findings that there are grounds for, in order. -/
def Grounds.findings (g : Grounds) (p : ScanPolicy) : List Finding :=
  (if p.seeksResources then g.listed.flatMap pathFindings else []) ++
    (if p.seeksProviders then g.listed.flatMap providerFindings else []) ++
    g.wrappers.map (fun w => decoratorFinding w.2) ++
    (g.lostResources.toList ++ g.lostProviders.toList).map overlapFinding

/-! ### Annotated classes and members -/

/-- Where a scan passes over decorators, those that carry the annotation are reported once each. -/
theorem findings_flatMap_occurrencesOn {notes : Occurrence → List Note}
    (hclass : ∀ o c, o.site = .ofClass c → notes o = c.decoratorNotes) (marker : String)
    (c : ClassEntry) :
    Note.findings ((ClassTable.occurrencesOn marker c).flatMap notes) =
      (if c.hasAnnotation marker = true ∧ c.isDecorator = true then [decoratorFinding c] else []) ++
        (c.onMembers.flatMap (Element.uses marker)).flatMap fun o => Note.findings (notes o) := by
  rw [Note.findings_flatMap, ClassTable.occurrencesOn_eq_append, List.flatMap_append,
    ClassEntry.hasAnnotation]
  refine congrArg (· ++ _) ?_
  cases hmarked : c.annotation? marker with
  | none => simp
  | some a =>
      have hnotes : notes ( Occurrence.ofAnnotation a (.ofClass c)) = c.decoratorNotes :=
        hclass _ _ rfl
      simp [hnotes, findings_decoratorNotes]

/-- Uses on elements that an annotation is not meant for are reported one by one. -/
theorem findings_flatMap_uses {notes : Occurrence → List Note} {label expected : String}
    {elements : List Element} (marker : String)
    (h : ∀ e ∈ elements, ∀ o, o.site = e.site → notes o = misplaced label expected o.site) :
    (elements.flatMap (Element.uses marker)).flatMap (fun o => Note.findings (notes o)) =
      (elements.flatMap (Element.uses marker)).map fun use =>
        misplacedFinding label expected use.site := by
  rw [List.map_eq_flatMap]
  refine List.flatMap_congr fun o ho => ?_
  obtain ⟨e, he, ho⟩ := List.mem_flatMap.mp ho
  rw [h e he o (Element.site_of_mem_uses ho)]
  rfl

theorem findings_pathNotes (c : ClassEntry) :
    Note.findings ((ClassTable.occurrencesOn pathAnnotation c).flatMap pathNotes) =
      pathFindings c := by
  have hclass : ∀ o c, o.site = .ofClass c → pathNotes o = c.decoratorNotes := by
    intro o c hsite
    rw [pathNotes, hsite]
  have hmethods : (c.onMethods.flatMap (Element.uses pathAnnotation)).flatMap
      (fun o => Note.findings (pathNotes o)) = [] := by
    rw [List.flatMap_eq_nil_iff]
    intro o ho
    obtain ⟨e, he, ho⟩ := List.mem_flatMap.mp ho
    obtain ⟨method, -, rfl⟩ := List.mem_map.mp he
    rw [pathNotes, Element.site_of_mem_uses ho]
    rfl
  have hfields : ∀ e ∈ c.onFields, ∀ o, o.site = e.site →
      pathNotes o = misplaced "@Path" "class or method" o.site := by
    intro e he o hsite
    obtain ⟨field, -, rfl⟩ := List.mem_map.mp he
    rw [pathNotes, hsite]
  rw [findings_flatMap_occurrencesOn hclass, ClassEntry.onMembers, List.flatMap_append,
    List.flatMap_append, hmethods, findings_flatMap_uses _ hfields, List.nil_append]
  rfl

theorem findings_providerNotes (c : ClassEntry) :
    Note.findings ((ClassTable.occurrencesOn providerAnnotation c).flatMap providerNotes) =
      providerFindings c := by
  have hclass : ∀ o c, o.site = .ofClass c → providerNotes o = c.decoratorNotes := by
    intro o c hsite
    rw [providerNotes, hsite]
  have hmembers : ∀ e ∈ c.onMembers, ∀ o, o.site = e.site →
      providerNotes o = misplaced "@Provider" "class" o.site := by
    intro e he o hsite
    rcases List.mem_append.mp he with he | he
    · obtain ⟨method, -, rfl⟩ := List.mem_map.mp he
      rw [providerNotes, hsite]
    · obtain ⟨field, -, rfl⟩ := List.mem_map.mp he
      rw [providerNotes, hsite]
  rw [findings_flatMap_occurrencesOn hclass, findings_flatMap_uses _ hmembers]
  rfl

/-- A scan of a table reports on one class after the other. -/
theorem findings_flatMap_occurrencesIf {notes : Occurrence → List Note} {marker : String}
    {reported : ClassEntry → List Finding} (seeks : Bool) (t : ClassTable)
    (h : ∀ c, Note.findings ((ClassTable.occurrencesOn marker c).flatMap notes) = reported c) :
    Note.findings ((occurrencesIf seeks t.toIndex marker).flatMap notes) =
      if seeks then t.classes.values.flatMap reported else [] := by
  cases seeks with
  | false => rfl
  | true =>
      have hannotated : occurrencesIf true t.toIndex marker =
          t.classes.values.flatMap (ClassTable.occurrencesOn marker) := rfl
      rw [if_pos rfl, hannotated, List.flatMap_assoc, Note.findings_flatMap, funext h]

/-! ### Decorators around resource interfaces -/

/-- The decorators that can be instantiated among the implementors of interfaces, each with the
interface. -/
def wrappersOf (index : ClassIndex) (interfaces : NameSet) : List (String × ClassEntry) :=
  interfaces.toList.flatMap fun i =>
    ((index.implementors i).filter fun c => c.isConcrete && c.isDecorator).map fun c => (i, c)

theorem findings_flatMap_decoratorNotes (cs : List ClassEntry) :
    Note.findings (cs.flatMap (·.decoratorNotes)) =
      (cs.filter (·.isDecorator)).map decoratorFinding := by
  induction cs with
  | nil => rfl
  | cons c cs ih =>
      rw [List.flatMap_cons, Note.findings_append, ih, findings_decoratorNotes, List.filter_cons]
      split <;> rfl

theorem findings_concreteImplementors (index : ClassIndex) (interfaces : NameSet) :
    Note.findings ((concreteImplementors index interfaces).flatMap (·.decoratorNotes)) =
      (wrappersOf index interfaces).map fun w => decoratorFinding w.2 := by
  rw [findings_flatMap_decoratorNotes, concreteImplementors, wrappersOf, List.filter_flatMap,
    List.map_flatMap, List.map_flatMap]
  refine List.flatMap_congr fun i _ => ?_
  rw [List.filter_filter, List.map_map]
  simp only [Bool.and_comm]
  rfl

theorem precedes_wrappersOf (t : ClassTable) (hkeyed : t.Keyed) (interfaces : NameSet) :
    (wrappersOf t.toIndex interfaces).Pairwise Precedes := by
  rw [wrappersOf, List.pairwise_flatMap]
  constructor
  · intro i _
    rw [List.pairwise_map]
    refine List.Pairwise.filter _ ?_
    -- for one interface the implementors come in name order
    have hnames := ClassTable.increasing_entriesOf hkeyed (t.implementorNames i)
    rw [List.pairwise_map] at hnames
    exact hnames.imp fun hlt => .inr ⟨rfl, hlt⟩
  · refine interfaces.increasing.imp fun hlt w hw w' hw' => ?_
    obtain ⟨c, -, rfl⟩ := List.mem_map.mp hw
    obtain ⟨c', -, rfl⟩ := List.mem_map.mp hw'
    exact .inl hlt

theorem mem_wrappersOf {t : ClassTable} (h : t.Consistent) {interfaces : NameSet} :
    (n, c) ∈ wrappersOf t.toIndex interfaces ↔ n ∈ interfaces ∧ t.class? c.name = some c ∧
      t.Implements c.name n ∧ c.isAbstract = false ∧ c.isDecorator = true := by
  simp only [wrappersOf, List.mem_flatMap, List.mem_map, List.mem_filter, ClassTable.toIndex,
    ClassTable.mem_implementorsOf_iff h, NameSet.mem_toList, ClassEntry.isConcrete,
    Bool.and_eq_true, Bool.not_eq_true', Prod.mk.injEq]
  constructor
  · rintro ⟨i, hi, c, ⟨⟨hclass, himplements⟩, hconcrete, hdecorator⟩, rfl, rfl⟩
    exact ⟨hi, hclass, himplements, hconcrete, hdecorator⟩
  · rintro ⟨hi, hclass, himplements, hconcrete, hdecorator⟩
    exact ⟨n, hi, c, ⟨⟨hclass, himplements⟩, hconcrete, hdecorator⟩, rfl, rfl⟩

theorem mem_wrappersOf_ofList :
    (n, c) ∈ wrappersOf (ClassTable.ofList classes).toIndex
        (resourceInterfaces ((ClassTable.ofList classes).annotated pathAnnotation)) ↔
      ∃ i, Wraps classes c i ∧ i.name = n := by
  rw [mem_wrappersOf (ClassTable.consistent_ofList classes), class?_ofList_self_iff,
    mem_resourceInterfaces_ofList]
  constructor
  · rintro ⟨⟨i, hmarked, hinterface, rfl⟩, hlisted, himplements, hconcrete, hdecorator⟩
    exact ⟨i, ⟨hlisted, hconcrete, hdecorator, hmarked, hinterface, himplements⟩, rfl⟩
  · rintro ⟨i, h, rfl⟩
    exact ⟨⟨i, h.marked, h.interface, rfl⟩, h.listed, h.implements, h.concrete, h.decorator⟩

/-! ### The whole classification -/

/-- The findings of a classification that adds what it found. -/
theorem findings_classify_of_ok {input : ScanInput} {apps : List Application}
    (hscans : m.policy.scans = true)
    (happs : (foundApplications input m.dispatcherCreated).value = .ok apps) :
    Note.findings (classify config input m).notes =
      Note.findings (scanNotes input.index
        (occurrencesIf m.policy.seeksResources input.index pathAnnotation)
        (occurrencesIf m.policy.seeksProviders input.index providerAnnotation)) ++
      (addFound config m (foundBy input m.policy apps)).overlap.map overlapFinding := by
  have hnone : Note.findings (foundApplications input m.dispatcherCreated).notes = [] := by
    unfold foundApplications
    split
    · rfl
    · exact findings_applications _ _ _
  simp only [classify, hscans, happs, Bool.not_true, Bool.false_eq_true, if_false,
    Note.findings_append, hnone, List.nil_append, findings_overlapNotes]
  rfl

/-- Names that entries bear for one reason and for another are borne by entries for both. -/
theorem exists_and_of_listed {P Q : ClassEntry → Prop}
    (hP : ∀ c, P c → ClassTable.LastOfName classes c)
    (hQ : ∀ c, Q c → ClassTable.LastOfName classes c) :
    (∃ c, P c ∧ c.name = n) ∧ (∃ c, Q c ∧ c.name = n) ↔ ∃ c, P c ∧ Q c ∧ c.name = n := by
  constructor
  · rintro ⟨⟨c, hc, rfl⟩, c', hc', hname⟩
    obtain rfl := (hQ c' hc').eq (hP c hc) hname
    exact ⟨c', hc, hc', rfl⟩
  · rintro ⟨c, hc, hc', hname⟩
    exact ⟨⟨c, hc, hname⟩, c, hc', hname⟩

theorem IsResource.listed (h : IsResource classes c) : ClassTable.LastOfName classes c := by
  rcases h with ⟨hmarked, -⟩ | ⟨i, hstandsIn⟩
  · exact hmarked.listed
  · exact hstandsIn.listed

/-- The grounds for findings in a list, of which some classes have been added to metadata. -/
def Grounds.inList (classes : List ClassEntry) (p : ScanPolicy) (added : Metadata) : Grounds where
  listed := (ClassTable.ofList classes).classes.values
  wrappers := wrappersOf (ClassTable.ofList classes).toIndex (resourceInterfaces
    (occurrencesIf p.seeksResources (ClassTable.ofList classes).toIndex pathAnnotation))
  lostResources := added.contestedResources
  lostProviders := added.contestedProviders

theorem Grounds.findings_inList (classes : List ClassEntry) (p : ScanPolicy) (added : Metadata) :
    (Grounds.inList classes p added).findings p =
      Note.findings (scanNotes (ClassTable.ofList classes).toIndex
        (occurrencesIf p.seeksResources (ClassTable.ofList classes).toIndex pathAnnotation)
        (occurrencesIf p.seeksProviders (ClassTable.ofList classes).toIndex providerAnnotation)) ++
      added.overlap.map overlapFinding := by
  rw [scanNotes, Note.findings_append, Note.findings_append,
    findings_flatMap_occurrencesIf _ _ findings_pathNotes,
    findings_flatMap_occurrencesIf _ _ findings_providerNotes, findings_concreteImplementors,
    Metadata.overlap_eq]
  rfl

/-- What was collected loses its places on the grounds that the list gives. -/
theorem Collects.grounds {found : Metadata} (h : Collects classes descriptor m found) :
    (Grounds.inList classes m.policy found).Of classes descriptor m where
  listed := ClassTable.lists_values classes
  increasing := precedes_wrappersOf _ (ClassTable.keyed_ofList classes) _
  wrapper n c :=
    (mem_occurrencesIf (fun paths => wrappersOf _ (resourceInterfaces paths)) rfl).trans
      (and_congr_right' mem_wrappersOf_ofList)
  lostResource n := by
    rw [Grounds.inList, Metadata.mem_contestedResources, h.resource, and_assoc]
    refine and_congr_right fun hseeks => ?_
    have hscans := ScanPolicy.scans_of_seeks (.inl hseeks)
    rw [h.mem_applications_keys hscans, and_left_comm,
      exists_and_of_listed (fun c h => h.listed) fun c h => h.listed]
  lostProvider n := by
    have hlisted : ∀ c, m.dispatcherCreated = false ∧ IsApplication classes descriptor c ∨
        m.policy.seeksResources = true ∧ IsResource classes c →
          ClassTable.LastOfName classes c :=
      fun c h => h.elim (·.2.listed) (·.2.listed)
    rw [Grounds.inList, Metadata.mem_contestedProviders, h.provider, and_assoc]
    refine and_congr_right fun hseeks => ?_
    have hscans := ScanPolicy.scans_of_seeks (.inr hseeks)
    rw [h.mem_applications_keys hscans, h.resource,
      ← exists_and_of_listed (fun c h => h.1.listed) hlisted]
    refine and_congr_right' ?_
    simp only [or_and_right, and_assoc, exists_or, exists_and_left]

/-- What was collected is found in its place or lost on the grounds that the list gives. -/
theorem Collects.accounts {found : Metadata} (h : Collects classes descriptor m found) :
    (Grounds.inList classes m.policy found).Accounts classes m.policy found.exclusive where
  resource n := by
    rw [Grounds.inList, Metadata.contestedResources_eq_sdiff, NameSet.mem_sdiff]
    exact and_congr_left' (h.resource n)
  provider n := by
    rw [Grounds.inList, Metadata.contestedProviders_eq_sdiff, NameSet.mem_sdiff]
    exact and_congr_left' (h.provider n)

/-- Without classes to begin with, a classification that ends well has collected classes and
restored precedence, and reported what the list gives grounds for. -/
theorem exists_collects_of_classify (hempty : m.isEmpty = true)
    (hok : (classify config (.ofListWith classes loader descriptor) m).result = .ok ()) :
    ∃ found, Collects classes descriptor m found ∧
      (classify config (.ofListWith classes loader descriptor) m).state = found.exclusive ∧
      Note.findings (classify config (.ofListWith classes loader descriptor) m).notes =
        (Grounds.inList classes m.policy found).findings m.policy := by
  rcases classify_cases config (.ofListWith classes loader descriptor) m with
    ⟨hscans, -, hstate⟩ | ⟨fault, -, -, hresult, -⟩ | ⟨apps, hscans, happs, -, hstate⟩
  · -- nothing is looked for, and nothing is reported
    have hsorted := Metadata.wellSorted_of_isEmpty hempty
    obtain ⟨hresources, hproviders⟩ := ScanPolicy.seeks_of_not_scans hscans
    refine ⟨m, collects_of_not_scans hempty hscans, hstate.trans hsorted.exclusive_eq.symm, ?_⟩
    rw [Grounds.findings_inList, hresources, hproviders, hsorted.overlap_eq_nil, classify, hscans]
    rfl
  · rw [hresult] at hok
    cases hok
  · refine ⟨_, collects_addFound config hempty hscans happs, hstate, ?_⟩
    rw [findings_classify_of_ok hscans happs, Grounds.findings_inList]

/-- **What a classification reports.**  A classification of a list that starts from metadata
without classes and ends well has a finding for every ground and no other.  Class by class in name
order, where resources are looked for, it reports a decorator with a path once, and every path on a
field; where providers are, a decorator marked as a provider once, and every such mark on a method
or a field.  Then, for every resource interface in name order, it reports the decorators that
implement it, and last the resources that are applications and the providers that are applications
or resources: those that are not found in their places.  Where a dispatcher serves an application
already, no class loses a place to one. -/
theorem findings_classify (config : Config) (classes : List ClassEntry) (loader : ClassLoader)
    (descriptor : Option WebDescriptor) (hempty : m.isEmpty = true)
    (hok : (classify config (.ofListWith classes loader descriptor) m).result = .ok ()) :
    ∃ g : Grounds, g.Of classes descriptor m ∧
      g.Accounts classes m.policy
        (classify config (.ofListWith classes loader descriptor) m).state ∧
      Note.findings (classify config (.ofListWith classes loader descriptor) m).notes =
        g.findings m.policy := by
  obtain ⟨found, hcollects, hstate, hfindings⟩ := exists_collects_of_classify hempty hok
  refine ⟨.inList classes m.policy found, hcollects.grounds, ?_, hfindings⟩
  rw [hstate]
  exact hcollects.accounts

/-- Classes of a market: a resource with two paths on a field and with a method that is marked as
a provider, a resource interface with a decorator around it that is marked as a provider as well,
and a class that has a place everywhere. -/
def marketClasses : List ClassEntry :=
  [ { plain "Market" with
      superName := some applicationClass
      annotations := [⟨ applicationPathAnnotation, some "/market"⟩, ⟨ pathAnnotation, none⟩,
        ⟨ providerAnnotation, none⟩] },
    { plain "Store" with kind := .interface, annotations := [⟨ pathAnnotation, some "/store"⟩] },
    { plain "Cart" with
      annotations := [⟨ pathAnnotation, some "/cart"⟩]
      methods :=
        [⟨"pay", [⟨ pathAnnotation, some "/pay"⟩, ⟨ providerAnnotation, none⟩]⟩]
      fields := [⟨"items", [⟨ pathAnnotation, some "/items"⟩, ⟨ pathAnnotation, some "/all"⟩]⟩] },
    { plain "AuditedStore" with
      interfaces := ["Store"]
      annotations := [⟨ decoratorAnnotation, none⟩, ⟨ providerAnnotation, none⟩] } ]
where
  plain (name : String) : ClassEntry := ⟨name, .ordinary, [], none, [], [], [], []⟩

/-- The decorator is reported for its mark and for the interface, the class with all places for
the two that it loses. -/
theorem findings_classify_marketClasses :
    (Metadata.ofPolicy .everything).isEmpty = true ∧
      (classify {} (.ofList marketClasses [] (some {})) (.ofPolicy .everything)).result = .ok () ∧
      ∃ g : Grounds, g.Of marketClasses (some {}) (.ofPolicy .everything) ∧
        g.Accounts marketClasses .everything
          (classify {} (.ofList marketClasses [] (some {})) (.ofPolicy .everything)).state ∧
        Note.findings
          (classify {} (.ofList marketClasses [] (some {})) (.ofPolicy .everything)).notes =
            g.findings .everything ∧
        (g.findings .everything).map (fun f => (f.kind, f.subject)) =
          [(.malformedTarget, "field Cart#items"), (.malformedTarget, "field Cart#items"),
            (.decoratorExcluded, "AuditedStore"), (.malformedTarget, "method Cart#pay"),
            (.decoratorExcluded, "AuditedStore"), (.classificationOverlap, "Market"),
            (.classificationOverlap, "Market")] := by
  have hok := isOk_classify_ofList {} marketClasses [] (some {}) (.ofPolicy .everything)
  obtain ⟨g, hgrounds, haccounts, hfindings⟩ := findings_classify {} marketClasses
    ((ClassTable.ofList marketClasses).loader []) (some {}) (m := .ofPolicy .everything) rfl hok
  have hpolicy : (Metadata.ofPolicy .everything).policy = .everything := rfl
  rw [hpolicy] at haccounts hfindings
  refine ⟨rfl, hok, g, hgrounds, haccounts, hfindings, ?_⟩
  rw [← hfindings]
  decide +kernel

/-- Where a dispatcher serves an application already, the class with all places is none, and loses
its place as a provider only. -/
example :
    (Note.findings (classify {} (.ofList marketClasses [] (some {}))
      { Metadata.ofPolicy .everything with dispatcherCreated := true }).notes).filter
        (·.kind = .classificationOverlap) = [overlapFinding "Market"] := by
  decide +kernel

end Classification

end RestDeployment
