import RestDeployment.Proofs.Registration

/-!
# Where a registration fails

A registration loads the applications that count for the descriptor in key order, and stops at
the first one that cannot be loaded.  It fails nowhere else, whatever the loader answers, and
it has changed nothing by then although it may have planned for other applications already
(`fails_at_first_unloadable`).

The plan follows the list of names; the statement speaks of the entries of the metadata.  The
two are joined by what a search through a map finds, which is the entry with the least key
(`NameMap.findSome?_entries_eq_some_iff`).
-/

namespace RestDeployment

/-- A search through a map in key order finds the entry with the least key that answers. -/
theorem NameMap.findSome?_entries_eq_some_iff {α β : Type} {m : NameMap α}
    {f : String × α → Option β} {b : β} :
    m.entries.findSome? f = some b ↔
      ∃ k a, m.get? k = some a ∧ f (k, a) = some b ∧
        ∀ k' a', m.get? k' = some a' → k' < k → f (k', a') = none := by
  have hincreasing : m.entries.Pairwise fun e e' => e.1 < e'.1 := List.pairwise_map.mp m.increasing
  constructor
  · intro h
    obtain ⟨before, ⟨k, a⟩, after, hsplit, hfound, hbefore⟩ := List.findSome?_eq_some_iff.mp h
    rw [hsplit, List.pairwise_append, List.pairwise_cons] at hincreasing
    obtain ⟨-, ⟨hafter, -⟩, -⟩ := hincreasing
    refine ⟨k, a, mem_entries.mp (by simp [hsplit]), hfound, fun k' a' hget hlt => ?_⟩
    have hmem : (k', a') ∈ before ++ (k, a) :: after := hsplit ▸ mem_entries.mpr hget
    rcases List.mem_append.mp hmem with hmem | hmem
    · exact hbefore _ hmem
    · -- from here on all keys are at least `k`
      rcases List.mem_cons.mp hmem with heq | hmem
      · rw [(Prod.mk.inj heq).1] at hlt
        exact absurd hlt (String.lt_irrefl k)
      · exact absurd (String.lt_trans hlt (hafter _ hmem)) (String.lt_irrefl k')
  · rintro ⟨k, a, hget, hfound, hleast⟩
    obtain ⟨before, after, hsplit⟩ := List.append_of_mem (mem_entries.mpr hget)
    refine List.findSome?_eq_some_iff.mpr ⟨before, (k, a), after, hsplit, hfound, fun e he => ?_⟩
    rw [hsplit, List.pairwise_append] at hincreasing
    have hlt : e.1 < k := hincreasing.2.2 e he (k, a) List.mem_cons_self
    exact hleast e.1 e.2 (mem_entries.mp (by simp [hsplit, he])) hlt

namespace Registration

variable {config : Config} {loader : ClassLoader} {w : WebState}

/-- An application that counts for the descriptor and cannot be loaded, with its key and the
answer of the loader. -/
structure Unloadable (loader : ClassLoader) (w : WebState) (k : String) (a : Application)
    (e : LoadError) : Prop where
  entry : w.metadata.applications.get? k = some a
  counts : a.path.isSome = true ∨ w.descriptor.isMapped a.name = true
  load_eq_error : loader.load a.name = .error e

/-- The application of this kind with the least key. -/
structure FirstUnloadable (loader : ClassLoader) (w : WebState) (k : String) (a : Application)
    (e : LoadError) : Prop extends Unloadable loader w k a e where
  least : ∀ k' a' e', Unloadable loader w k' a' e' → ¬ k' < k

/-- The fault at which an application stops a registration, if it counts and cannot be loaded. -/
def faultOf? (loader : ClassLoader) (web : WebDescriptor) (a : Application) : Option Fault :=
  if a.isRegistered web then loader.fault? a.name else none

theorem faultOf?_eq_some_iff {k : String} {a : Application} {fault : Fault}
    (hget : w.metadata.applications.get? k = some a) :
    faultOf? loader w.descriptor a = some fault ↔
      ∃ e, Unloadable loader w k a e ∧ fault = .ofLoadError e := by
  have hcounts : a.isRegistered w.descriptor = true ↔
      a.path.isSome = true ∨ w.descriptor.isMapped a.name = true := by
    simp [Application.isRegistered, Application.isAnnotated]
  unfold faultOf?
  split
  · next hregistered =>
      rw [ClassLoader.fault?_eq_some_iff]
      refine exists_congr fun e => and_congr_left fun _ => ⟨fun hload => ?_, fun h => ?_⟩
      · exact ⟨hget, hcounts.mp hregistered, hload⟩
      · exact h.load_eq_error
  · next hregistered =>
      refine iff_of_false (by simp) ?_
      rintro ⟨e, h, -⟩
      exact hregistered (hcounts.mpr h.counts)

theorem findSome?_registeredNames (loader : ClassLoader) (m : Metadata) (web : WebDescriptor) :
    (registeredNames m web).findSome? loader.fault? =
      m.applications.entries.findSome? fun entry => faultOf? loader web entry.2 := by
  rw [registeredNames, NameMap.values]
  induction m.applications.entries with
  | nil => rfl
  | cons entry entries ih =>
      rw [List.findSome?_cons, ← ih, faultOf?, List.map_cons, List.filter_cons]
      split
      · rw [List.map_cons, List.findSome?_cons]
      · rfl

/-- The plan for the applications that count stops at the first one that cannot be loaded. -/
theorem findSome?_registeredNames_eq_some_iff {fault : Fault} :
    (registeredNames w.metadata w.descriptor).findSome? loader.fault? = some fault ↔
      ∃ k a e, FirstUnloadable loader w k a e ∧ fault = .ofLoadError e := by
  rw [findSome?_registeredNames, NameMap.findSome?_entries_eq_some_iff]
  constructor
  · rintro ⟨k, a, hget, hfound, hbefore⟩
    obtain ⟨e, hunloadable, hfault⟩ := (faultOf?_eq_some_iff hget).mp hfound
    refine ⟨k, a, e, ⟨hunloadable, fun k' a' e' h' hlt => ?_⟩, hfault⟩
    have hstops := (faultOf?_eq_some_iff h'.entry).mpr ⟨e', h', rfl⟩
    rw [hbefore k' a' h'.entry hlt] at hstops
    cases hstops
  · rintro ⟨k, a, e, hfirst, hfault⟩
    have hfound := (faultOf?_eq_some_iff hfirst.entry).mpr ⟨e, hfirst.toUnloadable, hfault⟩
    refine ⟨k, a, hfirst.entry, hfound, fun k' a' hget hlt => ?_⟩
    cases hstops : faultOf? loader w.descriptor a' with
    | none => rfl
    | some fault' =>
        obtain ⟨e', h', -⟩ := (faultOf?_eq_some_iff hget).mp hstops
        exact absurd hlt (hfirst.least k' a' e' h')

theorem register_result_eq_error_iff {fault : Fault} :
    (register config loader w).result = .error fault ↔
      ¬ Skips w.metadata ∧ ∃ k a e, FirstUnloadable loader w k a e ∧ fault = .ofLoadError e := by
  rw [← findSome?_registeredNames_eq_some_iff]
  by_cases hskips : Skips w.metadata
  · have hskipped : ∃ reason, (register config loader w).result = .ok (.skipped reason) :=
      (register_of_skips hskips).1
    obtain ⟨reason, hreason⟩ := hskipped
    simp [hreason, hskips]
  · rw [and_iff_right hskips]
    by_cases hnone : registeredNames w.metadata w.descriptor = []
    · rw [register_of_registeredNames_eq_nil hskips hnone, hnone, registerDefault]
      split <;> simp
    · rw [register_of_registeredNames_ne_nil hskips hnone,
        ← plan_value_eq_error_iff config.dispatcher w.descriptor, registerApplications]
      cases (plan config.dispatcher loader w.descriptor
        (registeredNames w.metadata w.descriptor)).value <;> simp

/-- A registration fails at a class that cannot be loaded, and nowhere else. -/
theorem exists_of_register_result_eq_error {fault : Fault}
    (h : (register config loader w).result = .error fault) : ∃ e, fault = .ofLoadError e := by
  obtain ⟨-, k, a, e, -, hfault⟩ := register_result_eq_error_iff.mp h
  exact ⟨e, hfault⟩

/-- A registration that fails has changed nothing. -/
theorem state_of_register_eq_error {fault : Fault}
    (h : (register config loader w).result = .error fault) :
    (register config loader w).state = w := by
  obtain ⟨hskips, -⟩ := register_result_eq_error_iff.mp h
  have hsome : registeredNames w.metadata w.descriptor ≠ [] := by
    intro hnone
    rw [register_of_registeredNames_eq_nil hskips hnone, registerDefault] at h
    split at h <;> cases h
  rw [register_of_registeredNames_ne_nil hskips hsome, registerApplications] at h ⊢
  split at h
  · rfl
  · cases h

theorem exists_firstUnloadable {k : String} {a : Application} {e : LoadError}
    (h : Unloadable loader w k a e) : ∃ k a e, FirstUnloadable loader w k a e := by
  cases hfound : (registeredNames w.metadata w.descriptor).findSome? loader.fault? with
  | some fault =>
      obtain ⟨k, a, e, hfirst, -⟩ := findSome?_registeredNames_eq_some_iff.mp hfound
      exact ⟨k, a, e, hfirst⟩
  | none =>
      rw [findSome?_registeredNames, List.findSome?_eq_none_iff] at hfound
      have hpassed : faultOf? loader w.descriptor a = none :=
        hfound (k, a) (NameMap.mem_entries.mpr h.entry)
      rw [(faultOf?_eq_some_iff h.entry).mpr ⟨e, h, rfl⟩] at hpassed
      cases hpassed

/-- **A registration fails exactly if there is something to register and an application that
counts for the descriptor cannot be loaded.**  The fault is that the class was not found which
the loader missed for the first such application in key order, that is the application itself
with a loader that says which class it was asked for; and neither the descriptor nor the
metadata have changed. -/
theorem fails_at_first_unloadable (config : Config) (loader : ClassLoader) (w : WebState) :
    ((∃ fault, (register config loader w).result = .error fault) ↔
      ¬ Skips w.metadata ∧ ∃ k a e, Unloadable loader w k a e) ∧
    ∀ fault, (register config loader w).result = .error fault →
      (register config loader w).state = w ∧
      ∃ k a e, FirstUnloadable loader w k a e ∧ fault = .classNotFound e.className ∧
        (loader.NamesMissing → fault = .classNotFound a.name) := by
  constructor
  · constructor
    · rintro ⟨fault, hresult⟩
      obtain ⟨hskips, k, a, e, hfirst, -⟩ := register_result_eq_error_iff.mp hresult
      exact ⟨hskips, k, a, e, hfirst.toUnloadable⟩
    · rintro ⟨hskips, k, a, e, h⟩
      obtain ⟨k, a, e, hfirst⟩ := exists_firstUnloadable h
      exact ⟨_, register_result_eq_error_iff.mpr ⟨hskips, k, a, e, hfirst, rfl⟩⟩
  · intro fault hresult
    obtain ⟨-, k, a, e, hfirst, rfl⟩ := register_result_eq_error_iff.mp hresult
    refine ⟨state_of_register_eq_error hresult, k, a, e, hfirst, rfl, fun hmissing => ?_⟩
    rw [hmissing a.name e hfirst.load_eq_error]
    rfl

/-- A web application whose second application is not known to the loader, nor is the third. -/
def partlyKnown : WebState where
  metadata := ((Metadata.addApplication {} ⟨"Admin", some "/admin"⟩).addApplication
    ⟨"Shop", some "/shop"⟩).addApplication ⟨"Till", some "/till"⟩
  descriptor := {}

/-- The registration stops at the second application, and nothing is left of the plan for the
first one. -/
theorem fails_at_first_unloadable_partlyKnown :
    (({} : ClassTable).loader ["Admin"]).NamesMissing ∧
      (∃ k a e, FirstUnloadable (({} : ClassTable).loader ["Admin"]) partlyKnown k a e ∧
        a.name = "Shop") ∧
      (register {} (({} : ClassTable).loader ["Admin"]) partlyKnown).result =
        .error (.classNotFound "Shop") ∧
      (register {} (({} : ClassTable).loader ["Admin"]) partlyKnown).state = partlyKnown := by
  have hmissing := ClassTable.namesMissing_loader {} ["Admin"]
  have hresult : (register {} (({} : ClassTable).loader ["Admin"]) partlyKnown).result =
      .error (.classNotFound "Shop") := rfl
  obtain ⟨-, hfails⟩ :=
    fails_at_first_unloadable {} (({} : ClassTable).loader ["Admin"]) partlyKnown
  obtain ⟨hstate, k, a, e, hfirst, -, hname⟩ := hfails _ hresult
  exact ⟨hmissing, ⟨k, a, e, hfirst, (Fault.classNotFound.inj (hname hmissing)).symm⟩, hresult,
    hstate⟩

end Registration

end RestDeployment
