import RestDeployment.Proofs.ClassLoader
import RestDeployment.Proofs.ClassTable
import RestDeployment.Proofs.Classification
import RestDeployment.Proofs.Metadata.Exclusivity

/-!
# A classification adds everything or nothing

A classification fails at a candidate for an application that can be instantiated but not
loaded, and nowhere else (`classify_result_eq_error_iff`).  The candidates are loaded before
anything is added, so a classification that fails leaves the metadata as they are and reports no
finding.

## What a second classification meets

A second classification finds the same classes again, but starts from metadata in which
precedence has been restored.  So it adds resources and providers again that have lost their
place to an application or a resource.  They lose it a second time: what was found once can be
added again without changing anything (`addFound_addFound`), and it makes no difference that
precedence was restored in between (`Metadata.exclusive_adding_exclusive`).
-/

namespace RestDeployment

namespace Classification

variable {config : Config} {input : ScanInput} {m : Metadata} {loader : ClassLoader}
  {candidates : List ClassEntry} {c : ClassEntry}

/-! ### Where the search for applications stops -/

/-- A class that can be instantiated but not loaded, with the answer of the loader. -/
structure Unloadable (loader : ClassLoader) (c : ClassEntry) (e : LoadError) : Prop where
  concrete : c.isAbstract = false
  load_eq_error : loader.load c.name = .error e

/-- The first class of this kind among candidates. -/
structure FirstUnloadable (loader : ClassLoader) (candidates : List ClassEntry) (c : ClassEntry)
    (e : LoadError) : Prop extends Unloadable loader c e where
  first : ∃ before after, candidates = before ++ c :: after ∧
    ∀ d ∈ before, ∀ e', ¬ Unloadable loader d e'

theorem FirstUnloadable.mem {e : LoadError} (h : FirstUnloadable loader candidates c e) :
    c ∈ candidates := by
  obtain ⟨before, after, rfl, -⟩ := h.first
  simp

/-- The fault at which a candidate stops the search, if it has to be loaded and cannot be. -/
def faultOf? (loader : ClassLoader) (c : ClassEntry) : Option Fault :=
  if c.isAbstract then none else loader.fault? c.name

theorem faultOf?_eq_some_iff {fault : Fault} :
    faultOf? loader c = some fault ↔ ∃ e, Unloadable loader c e ∧ fault = .ofLoadError e := by
  unfold faultOf?
  split
  · next habstract =>
      refine iff_of_false (by simp) ?_
      rintro ⟨e, h, -⟩
      rw [h.concrete] at habstract
      cases habstract
  · next hconcrete =>
      rw [ClassLoader.fault?_eq_some_iff]
      refine exists_congr fun e => and_congr_left fun _ => ⟨fun hload => ?_, fun h => ?_⟩
      · exact ⟨Bool.eq_false_iff.mpr hconcrete, hload⟩
      · exact h.load_eq_error

theorem faultOf?_eq_none_iff : faultOf? loader c = none ↔ ∀ e, ¬ Unloadable loader c e := by
  rw [Option.eq_none_iff_forall_ne_some]
  constructor
  · exact fun h e hc => h _ (faultOf?_eq_some_iff.mpr ⟨e, hc, rfl⟩)
  · intro h fault hfault
    obtain ⟨e, hc, -⟩ := faultOf?_eq_some_iff.mp hfault
    exact h e hc

theorem findSome?_faultOf?_eq_some_iff {fault : Fault} :
    candidates.findSome? (faultOf? loader) = some fault ↔
      ∃ c e, FirstUnloadable loader candidates c e ∧ fault = .ofLoadError e := by
  simp only [List.findSome?_eq_some_iff, faultOf?_eq_some_iff, faultOf?_eq_none_iff]
  constructor
  · rintro ⟨before, c, after, hsplit, ⟨e, hc, hfault⟩, hbefore⟩
    exact ⟨c, e, ⟨hc, before, after, hsplit, hbefore⟩, hfault⟩
  · rintro ⟨c, e, h, hfault⟩
    obtain ⟨before, after, hsplit, hbefore⟩ := h.first
    exact ⟨before, c, after, hsplit, ⟨e, h.toUnloadable, hfault⟩, hbefore⟩

/-- Where there is a class of this kind there is a first one. -/
theorem exists_firstUnloadable {e : LoadError} (hc : c ∈ candidates)
    (h : Unloadable loader c e) : ∃ c e, FirstUnloadable loader candidates c e := by
  cases hfound : candidates.findSome? (faultOf? loader) with
  | some fault =>
      obtain ⟨c, e, hfirst, -⟩ := findSome?_faultOf?_eq_some_iff.mp hfound
      exact ⟨c, e, hfirst⟩
  | none =>
      rw [List.findSome?_eq_none_iff] at hfound
      exact absurd h (faultOf?_eq_none_iff.mp (hfound c hc) e)

/-- Whether a candidate is kept does not matter for the fault that the search stops at. -/
theorem applications_value_eq_error_iff (descriptor : Option WebDescriptor) {fault : Fault} :
    (applications loader descriptor candidates).value = .error fault ↔
      candidates.findSome? (faultOf? loader) = some fault := by
  induction candidates with
  | nil => simp [applications]
  | cons c candidates ih =>
      rw [List.findSome?_cons, faultOf?, ClassLoader.fault?]
      unfold applications
      split
      · next habstract => rw [ih]
      · next hconcrete =>
          cases hload : loader.load c.name with
          | error e => simp
          | ok handle =>
              dsimp only
              rw [← ih]
              split
              · cases (applications loader descriptor candidates).value <;> simp [Except.map]
              · rfl

/-- The search for applications reports no finding. -/
theorem findings_applications (loader : ClassLoader) (descriptor : Option WebDescriptor)
    (candidates : List ClassEntry) :
    Note.findings (applications loader descriptor candidates).notes = [] := by
  induction candidates with
  | nil => rfl
  | cons c candidates ih =>
      unfold applications
      split
      · exact ih
      · split
        · rfl
        · dsimp only
          split
          · exact ih
          · exact ih

/-! ### Classifications that fail -/

theorem classify_result_eq_error_iff {fault : Fault} :
    (classify config input m).result = .error fault ↔
      m.policy.scans = true ∧ m.dispatcherCreated = false ∧
        ∃ c e, FirstUnloadable input.loader (input.index.subtypes applicationClass) c e ∧
          fault = .ofLoadError e := by
  rw [← findSome?_faultOf?_eq_some_iff, ← applications_value_eq_error_iff input.descriptor]
  have hvalue : (classify config input m).result = .error fault ↔ m.policy.scans = true ∧
      (foundApplications input m.dispatcherCreated).value = .error fault := by
    rcases classify_cases config input m with ⟨hscans, hresult, -⟩ |
      ⟨fault', hscans, happs, hresult, -⟩ | ⟨apps, hscans, happs, hresult, -⟩
    · simp [hscans, hresult]
    · simp [hscans, happs, hresult]
    · simp [hscans, happs, hresult]
  rw [hvalue, foundApplications]
  cases m.dispatcherCreated <;> simp

/-- A classification that fails has changed nothing and reports no finding. -/
theorem unchanged_of_classify_eq_error {fault : Fault}
    (h : (classify config input m).result = .error fault) :
    (classify config input m).state = m ∧
      Note.findings (classify config input m).notes = [] := by
  obtain ⟨hscans, hcreated, -⟩ := classify_result_eq_error_iff.mp h
  cases happs : (foundApplications input m.dispatcherCreated).value with
  | ok apps =>
      rw [(classify_of_ok hscans happs).1] at h
      cases h
  | error fault' =>
      refine ⟨(classify_of_error hscans happs).2, ?_⟩
      have hnotes : (classify config input m).notes =
          (foundApplications input m.dispatcherCreated).notes := by
        simp [classify, hscans, happs]
      rw [hnotes, hcreated]
      exact findings_applications _ _ _

/-! ### Adding the same classes again -/

theorem get?_addFound_eq_or (config : Config) (m : Metadata) (found : Found) (n : String) :
    (addFound config m found).applications.get? n =
      (found.applications.reverse.find? (·.name = n)).or (m.applications.get? n) :=
  get?_foldl_addApplication_eq_or found.applications m n

theorem ignoreApplicationPath_addFound (config : Config) (m : Metadata) (found : Found) :
    (addFound config m found).ignoreApplicationPath = m.ignoreApplicationPath := by
  rw [addFound, Metadata.foldl_addApplication_eq]

/-- What has been added once can be added again without changing anything. -/
theorem addFound_addFound (config : Config) (m : Metadata) (found : Found) :
    addFound config (addFound config m found) found = addFound config m found := by
  have hunion : ∀ s t : NameSet, s ∪ t ∪ t = s ∪ t := by
    intro s t
    refine NameSet.ext fun n => ?_
    simp only [NameSet.mem_union, or_assoc, or_self]
  refine Metadata.eq_of_sameClasses ⟨?_, hunion _ _, hunion _ _, hunion _ _⟩
    (sameFlags_addFound config _ found) (ignoreApplicationPath_addFound config _ found)
  refine NameMap.ext fun n => ?_
  rw [get?_addFound_eq_or, get?_addFound_eq_or, ← Option.or_assoc, Option.or_self]

/-- Restoring precedence in between makes no difference to this. -/
theorem exclusive_addFound_exclusive (config : Config) (m : Metadata) (found : Found) :
    (addFound config (addFound config m found).exclusive found).exclusive =
      (addFound config m found).exclusive := by
  rw [Metadata.addFound_eq_adding config (addFound config m found).exclusive,
    Metadata.exclusive_adding_exclusive, ← Metadata.addFound_eq_adding, addFound_addFound]

/-- A classification can be repeated: it ends as the first time and changes nothing any more. -/
theorem classify_classify (config : Config) (input : ScanInput) (m : Metadata) :
    (classify config input (classify config input m).state).result =
        (classify config input m).result ∧
      (classify config input (classify config input m).state).state =
        (classify config input m).state := by
  rcases classify_cases config input m with ⟨-, -, hstate⟩ | ⟨_, -, -, -, hstate⟩ |
    ⟨apps, hscans, happs, hresult, hstate⟩
  · rw [hstate]
    exact ⟨rfl, hstate⟩
  · rw [hstate]
    exact ⟨rfl, hstate⟩
  · obtain ⟨hpolicy, -, hcreated, -⟩ := Metadata.sameFlags_classify config input m
    -- the second time the same is looked for, so the same is found
    obtain ⟨hresult', hstate'⟩ := @classify_of_ok config input (classify config input m).state
      apps (by rw [hpolicy, hscans]) (by rw [hcreated, happs])
    rw [hresult', hstate', hresult, hpolicy, hstate]
    exact ⟨rfl, exclusive_addFound_exclusive config m _⟩

/-- **A classification adds everything or nothing.**  It fails exactly if the policy scans, no
dispatcher serves an application yet and one of the subtypes of the application class can be
instantiated but not loaded.  The fault is that the class was not found which the loader missed
for the first of them, that is the subtype itself with a loader that says which class it was
asked for; the metadata have not changed and there is no finding.  In all cases a second
classification ends like the first and changes nothing. -/
theorem classify_all_or_nothing (config : Config) (input : ScanInput) (m : Metadata) :
    ((∃ fault, (classify config input m).result = .error fault) ↔
      m.policy.scans = true ∧ m.dispatcherCreated = false ∧
        ∃ c ∈ input.index.subtypes applicationClass, ∃ e, Unloadable input.loader c e) ∧
    (∀ fault, (classify config input m).result = .error fault →
      (classify config input m).state = m ∧
      Note.findings (classify config input m).notes = [] ∧
      ∃ c e, FirstUnloadable input.loader (input.index.subtypes applicationClass) c e ∧
        fault = .classNotFound e.className ∧
        (input.loader.NamesMissing → fault = .classNotFound c.name)) ∧
    (classify config input (classify config input m).state).result =
      (classify config input m).result ∧
    (classify config input (classify config input m).state).state =
      (classify config input m).state := by
  refine ⟨⟨?_, ?_⟩, fun fault hresult => ?_, classify_classify config input m⟩
  · rintro ⟨fault, hresult⟩
    obtain ⟨hscans, hcreated, c, e, hfirst, -⟩ := classify_result_eq_error_iff.mp hresult
    exact ⟨hscans, hcreated, c, hfirst.mem, e, hfirst.toUnloadable⟩
  · rintro ⟨hscans, hcreated, c, hc, e, h⟩
    obtain ⟨c, e, hfirst⟩ := exists_firstUnloadable hc h
    exact ⟨_, classify_result_eq_error_iff.mpr ⟨hscans, hcreated, c, e, hfirst, rfl⟩⟩
  · obtain ⟨-, -, c, e, hfirst, rfl⟩ := classify_result_eq_error_iff.mp hresult
    obtain ⟨hstate, hfindings⟩ := unchanged_of_classify_eq_error hresult
    refine ⟨hstate, hfindings, c, e, hfirst, rfl, fun hmissing => ?_⟩
    rw [hmissing c.name e hfirst.load_eq_error]
    rfl

/-- Subtypes of the application class, in name order: the first has no instances, the second has
a path, and the others are not kept for a descriptor that maps nothing. -/
def shopApplications : List ClassEntry :=
  [ { extending "Base" with modifiers := [.abstract] },
    { extending "Shop" with annotations := [⟨ applicationPathAnnotation, some "/shop"⟩] },
    extending "Stall",
    extending "Till" ]
where
  extending (name : String) : ClassEntry :=
    ⟨name, .ordinary, [], some applicationClass, [], [], [], []⟩

/-- A scan that meets these subtypes where only some names can be loaded. -/
def shopScan (visible : List String) : ScanInput where
  index := { (ClassTable.ofList []).toIndex with subtypes := fun _ => shopApplications }
  loader := ({} : ClassTable).loader visible
  descriptor := some {}

/-- Metadata that know one of these subtypes as a resource already. -/
def shopMetadata : Metadata :=
  { Metadata.ofPolicy .everything with resources := .ofList ["Cart", "Shop"] }

/-- Where only the application with a path can be loaded, the classification stops at the next
subtype, although that would not have been kept.  Where all can be loaded it moves the class
that was a resource, and a second time it changes nothing. -/
theorem classify_all_or_nothing_shopScan :
    (shopScan ["Shop"]).loader.NamesMissing ∧
      (classify {} (shopScan ["Shop"]) shopMetadata).result = .error (.classNotFound "Stall") ∧
      (classify {} (shopScan ["Shop"]) shopMetadata).state = shopMetadata ∧
      (∃ c e, FirstUnloadable (shopScan ["Shop"]).loader shopApplications c e ∧
        c.name = "Stall" ∧ keeps (some {}) ⟨"Stall", none⟩ = false) ∧
      ∃ found, (classify {} (shopScan ["Shop", "Stall", "Till"]) shopMetadata).result = .ok () ∧
        (classify {} (shopScan ["Shop", "Stall", "Till"]) shopMetadata).state = found ∧
        found.applications.keys.toList = ["Shop"] ∧ found.resources.toList = ["Cart"] ∧
        (classify {} (shopScan ["Shop", "Stall", "Till"]) found).state = found := by
  have hmissing : (shopScan ["Shop"]).loader.NamesMissing :=
    ClassTable.namesMissing_loader {} ["Shop"]
  have hresult : (classify {} (shopScan ["Shop"]) shopMetadata).result =
      .error (.classNotFound "Stall") := rfl
  obtain ⟨-, hfails, -⟩ := classify_all_or_nothing {} (shopScan ["Shop"]) shopMetadata
  obtain ⟨hstate, -, c, e, hfirst, -, hname⟩ := hfails _ hresult
  obtain ⟨-, -, -, hagain⟩ :=
    classify_all_or_nothing {} (shopScan ["Shop", "Stall", "Till"]) shopMetadata
  exact ⟨hmissing, hresult, hstate,
    ⟨c, e, hfirst, (Fault.classNotFound.inj (hname hmissing)).symm, rfl⟩,
    _, rfl, rfl, rfl, rfl, hagain⟩

end Classification

end RestDeployment
