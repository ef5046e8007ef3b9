import RestDeployment.Proofs.Registration.Additions

/-!
# What a registration does for its applications

Where applications count for the descriptor and all of them can be loaded, a registration
carries out the plan for the names under which they were loaded (`register_of_loads`).  Its
four outputs are then lists over these names: the servlets and the mappings that are appended,
the flag that says that a declared URL pattern takes the place of the application path, and the
findings on further URL patterns.

All decisions are taken against the descriptor as it was, and everything is added at the end.
That is no loss, because what is added for one name is never looked up for another, and names
occur once: the applications of the metadata go by distinct names (`exists_registersAll`).
-/

namespace RestDeployment

namespace Registration

variable {config : Config} {loader : ClassLoader} {w : WebState} {d : Dispatcher}
  {web : WebDescriptor} {names : List String} {n : String}

/-! ### The plan carried out -/

/-- Whether a declared URL pattern takes the place of an application's path. -/
def isOverridden (d : Dispatcher) (web : WebDescriptor) (n : String) : Bool :=
  !isServed d web n && !(web.urlPatterns n).isEmpty

theorem isOverridden_iff :
    isOverridden d web n = true ↔ isServed d web n = false ∧ web.urlPatterns n ≠ [] := by
  simp [isOverridden]

/-- A registration that carries out the plan for some names. -/
def carriedOut (d : Dispatcher) (w : WebState) (names : List String) :
    Attempt WebState Registration where
  result := .ok (.applicationServlets (unnamed w.descriptor names) (unmapped d w.descriptor names))
  state :=
    { metadata := { w.metadata with
        ignoreApplicationPath :=
          w.metadata.ignoreApplicationPath || names.any (isOverridden d w.descriptor) }
      descriptor := (planFor d w.descriptor names).addTo w.descriptor }
  notes := names.flatMap (planNotes d w.descriptor)

theorem planOf_ignorePath (d : Dispatcher) (web : WebDescriptor) (n : String) :
    (planOf d web n).ignorePath = isOverridden d web n := by
  unfold planOf isOverridden
  cases isServed d web n <;> rfl

theorem planFor_ignorePath (d : Dispatcher) (web : WebDescriptor) (names : List String) :
    (planFor d web names).ignorePath = names.any (isOverridden d web) := by
  simp only [planFor, planOf_ignorePath]

theorem planFor_servlets (d : Dispatcher) (web : WebDescriptor) (names : List String) :
    (planFor d web names).servlets = (unnamed web names).map (applicationDispatcher d) :=
  planned_servlets d web names

theorem planFor_mappings (d : Dispatcher) (web : WebDescriptor) (names : List String) :
    (planFor d web names).mappings = (unmapped d web names).map fun n => ⟨n, ["/*"]⟩ :=
  planned_mappings d web names

/-- **A registration for applications that can be loaded carries out the plan** for the names
under which they were loaded. -/
theorem register_of_loads (hskips : ¬ Skips w.metadata)
    (hsome : registeredNames w.metadata w.descriptor ≠ [])
    (hloads : ∀ n ∈ registeredNames w.metadata w.descriptor, ∃ handle, loader.load n = .ok handle) :
    register config loader w = carriedOut config.dispatcher w
      (loadedNames loader (registeredNames w.metadata w.descriptor)) := by
  have hids : ∀ l : List String, l.map (fun n => n) = l := List.map_id'
  rw [register_of_registeredNames_ne_nil hskips hsome, registerApplications,
    plan_eq_of_loads config.dispatcher w.descriptor hloads]
  simp only [carriedOut, planFor_servlets, planFor_mappings, planFor_ignorePath, List.map_map,
    Function.comp_def, applicationDispatcher_name, hids]

theorem register_eq_carriedOut (config : Config) (hnames : loader.KeepsNames)
    (hskips : ¬ Skips w.metadata)
    (hn : registeredNames w.metadata w.descriptor = names) (hsome : names ≠ [])
    (hloads : ∀ n ∈ names, ∃ handle, loader.load n = .ok handle) :
    register config loader w = carriedOut config.dispatcher w names := by
  subst hn
  rw [register_of_loads hskips hsome hloads, loadedNames_eq hnames hloads]

theorem metadata_carriedOut_eq_iff :
    (carriedOut d w names).state.metadata = w.metadata ↔
      (carriedOut d w names).state.metadata.ignoreApplicationPath =
        w.metadata.ignoreApplicationPath := by
  refine ⟨fun h => by rw [h], fun h => ?_⟩
  have hkept : (carriedOut d w names).state.metadata =
      { w.metadata with
        ignoreApplicationPath :=
          (carriedOut d w names).state.metadata.ignoreApplicationPath } := rfl
  rw [hkept, h]

/-! ### The descriptor afterwards -/

theorem servlet?_addTo_of_some {s : Servlet} {p : Plan} (hs : web.servlet? n = some s) :
    (p.addTo web).servlet? n = some s := by
  rw [WebDescriptor.servlet?_addTo, hs, Option.some_or]

theorem isMapped_addTo_planFor :
    ((planFor d web names).addTo web).isMapped n = true ↔
      web.isMapped n = true ∨ n ∈ unmapped d web names := by
  simp [isMapped_addTo, planFor_mappings]

theorem mem_urlPatterns {pattern : String} :
    pattern ∈ web.urlPatterns n ↔
      ∃ x ∈ web.servletMappings, x.servletName = n ∧ pattern ∈ x.urlPatterns := by
  simp [WebDescriptor.urlPatterns, and_assoc]

/-- The one pattern that is added goes to the names that had no mapping. -/
theorem mem_urlPatterns_addTo_planFor {pattern : String} :
    pattern ∈ ((planFor d web names).addTo web).urlPatterns n ↔
      pattern ∈ web.urlPatterns n ∨ pattern = "/*" ∧ n ∈ unmapped d web names := by
  have hadded :
      (∃ x ∈ (planFor d web names).mappings, x.servletName = n ∧ pattern ∈ x.urlPatterns) ↔
        pattern = "/*" ∧ n ∈ unmapped d web names := by
    simp [planFor_mappings, and_comm]
  rw [mem_urlPatterns, mem_urlPatterns, ← hadded, Plan.addTo]
  simp only [List.mem_append, or_and_right, exists_or]

theorem urlPatterns_addTo_planFor_ne_nil_iff :
    ((planFor d web names).addTo web).urlPatterns n ≠ [] ↔
      web.urlPatterns n ≠ [] ∨ n ∈ unmapped d web names := by
  have hsome : ∀ l : List String, l ≠ [] ↔ ∃ pattern, pattern ∈ l := fun l =>
    ⟨List.exists_mem_of_ne_nil l, fun ⟨_, h⟩ => List.ne_nil_of_mem h⟩
  simp only [hsome, mem_urlPatterns_addTo_planFor, exists_or, exists_eq_left]

/-! ### Findings -/

/-- The findings on the URL patterns of an application beyond the first. -/
def patternFindings (web : WebDescriptor) (n : String) : List Finding :=
  ((web.urlPatterns n).drop 1).map fun pattern =>
    ⟨.multipleUrlPatterns, n, "additional url pattern " ++ pattern⟩

theorem findings_patternNotes (web : WebDescriptor) (n : String) :
    Note.findings (patternNotes web n) = patternFindings web n := by
  rw [patternNotes, Note.findings_flatMap, patternFindings, List.map_eq_flatMap]
  rfl

theorem findings_planNotes (d : Dispatcher) (web : WebDescriptor) (n : String) :
    Note.findings (planNotes d web n) = if isServed d web n then [] else patternFindings web n := by
  have hdeclared : Note.findings (declaredNotes web n) = [] := by
    unfold declaredNotes
    split <;> rfl
  unfold planNotes
  split
  · rfl
  · rw [Note.findings_append, Note.findings_append, hdeclared, findings_patternNotes]
    exact List.append_nil _

theorem findings_flatMap_planNotes (d : Dispatcher) (web : WebDescriptor) (names : List String) :
    Note.findings (names.flatMap (planNotes d web)) =
      (names.filter fun n => !isServed d web n).flatMap (patternFindings web) := by
  rw [Note.findings_flatMap]
  induction names with
  | nil => rfl
  | cons n names ih =>
      rw [List.flatMap_cons, ih, findings_planNotes, List.filter_cons]
      cases isServed d web n <;> rfl

/-! ### The effect as a whole -/

/-- What a registration does that registers the applications of some names. -/
structure RegistersAll (d : Dispatcher) (w : WebState) (names : List String)
    (attempt : Attempt WebState Registration) : Prop where
  result : attempt.result = .ok
    (.applicationServlets (unnamed w.descriptor names) (unmapped d w.descriptor names))
  servlets : attempt.state.descriptor.servlets =
    w.descriptor.servlets ++ (unnamed w.descriptor names).map fun n =>
      { name := n
        servletClass := some d.servletClass
        initParams := [⟨d.servletModeParam, some "true"⟩, ⟨d.delegateParam, some d.delegateClass⟩,
          ⟨applicationInitParam, some n⟩]
        asyncSupported := true
        loadOnStartup := some "0" }
  servletMappings : attempt.state.descriptor.servletMappings =
    w.descriptor.servletMappings ++ (unmapped d w.descriptor names).map fun n => ⟨n, ["/*"]⟩
  descriptor_kept : attempt.state.descriptor =
    { w.descriptor with
      servlets := attempt.state.descriptor.servlets
      servletMappings := attempt.state.descriptor.servletMappings }
  ignores_iff : attempt.state.metadata.ignoreApplicationPath = true ↔
    w.metadata.ignoreApplicationPath = true ∨
      ∃ n ∈ names, isServed d w.descriptor n = false ∧ w.descriptor.urlPatterns n ≠ []
  metadata_kept : attempt.state.metadata =
    { w.metadata with ignoreApplicationPath := attempt.state.metadata.ignoreApplicationPath }
  findings : Note.findings attempt.notes =
    (names.filter fun n => !isServed d w.descriptor n).flatMap (patternFindings w.descriptor)

theorem registersAll_carriedOut (d : Dispatcher) (w : WebState) (names : List String) :
    RegistersAll d w names (carriedOut d w names) where
  result := rfl
  servlets := congrArg (w.descriptor.servlets ++ ·) (planFor_servlets d w.descriptor names)
  servletMappings :=
    congrArg (w.descriptor.servletMappings ++ ·) (planFor_mappings d w.descriptor names)
  descriptor_kept := rfl
  ignores_iff := by
    simp only [carriedOut, Bool.or_eq_true, List.any_eq_true, isOverridden_iff]
  metadata_kept := rfl
  findings := findings_flatMap_planNotes d w.descriptor names

/-- **What exactly a registration does**, where an application counts for the descriptor and
all goes well.  The names of the applications that count stand in strictly increasing order.
For each of them that no servlet bears, a dispatcher servlet is appended, and for each that is
not mapped and whose servlet does not run the dispatcher for it already, a mapping; these are
the names in the answer.  The flag is set if it was set, or if one of the names whose servlet
does not run the dispatcher for it already has a URL pattern, and the findings are the patterns
of these names beyond the first of each.  Nothing else changes. -/
theorem exists_registersAll (hnames : loader.KeepsNames) (hskips : ¬ Skips w.metadata)
    (hkeyed : w.metadata.Keyed)
    (hcounts : ∃ n ∈ w.metadata.applications.keys,
      (w.metadata.pathOf n).isSome = true ∨ w.descriptor.isMapped n = true)
    (hok : ∃ registration, (register config loader w).result = .ok registration) :
    ∃ names : List String, names.Pairwise (· < ·) ∧
      (∀ n, n ∈ names ↔ n ∈ w.metadata.applications.keys ∧
        ((w.metadata.pathOf n).isSome = true ∨ w.descriptor.isMapped n = true)) ∧
      RegistersAll config.dispatcher w names (register config loader w) := by
  refine ⟨registeredNames w.metadata w.descriptor, pairwise_registeredNames hkeyed _,
    fun n => mem_registeredNames hkeyed, ?_⟩
  have hloads := (isOk_register_iff config loader w).mp hok hskips
  obtain ⟨n, hn⟩ := hcounts
  have hsome : registeredNames w.metadata w.descriptor ≠ [] :=
    List.ne_nil_of_mem ((mem_registeredNames hkeyed).mpr hn)
  rw [register_eq_carriedOut config hnames hskips rfl hsome hloads]
  exact registersAll_carriedOut _ _ _

/-- A web application with four applications.  One has neither a servlet nor a mapping, one does
not count, the servlet of one runs on a class of its own under three URL patterns, and one is
served already. -/
def mixedShop : WebState where
  metadata := (((({} : Metadata).addApplication ⟨"Admin", some "/admin"⟩).addApplication
    ⟨"Idle", none⟩).addApplication ⟨"Shop", some "/shop"⟩).addApplication ⟨"Till", none⟩
  descriptor :=
    { servlets := [{ name := "Shop", servletClass := some "Own" }, applicationDispatcher {} "Till"]
      servletMappings := [⟨"Shop", ["/a", "/b"]⟩, ⟨"Till", ["/till"]⟩, ⟨"Shop", ["/c"]⟩] }

theorem exists_registersAll_mixedShop :
    ¬ Skips mixedShop.metadata ∧ mixedShop.metadata.Keyed ∧
      ∃ names : List String, names.Pairwise (· < ·) ∧ "Shop" ∈ names ∧ "Idle" ∉ names ∧
        RegistersAll {} mixedShop names
          (register {} (({} : ClassTable).loader ["Admin", "Shop", "Till"]) mixedShop) := by
  have hskips : ¬ Skips mixedShop.metadata := by
    rintro (h | h) <;> cases h
  have hkeyed : mixedShop.metadata.Keyed :=
    ((((Metadata.wellSorted_ofPolicy {}).keyed.addApplication _).addApplication _).addApplication
      _).addApplication _
  have hok : ∃ registration, (register {} (({} : ClassTable).loader ["Admin", "Shop", "Till"])
      mixedShop).result = .ok registration := ⟨.applicationServlets ["Admin"] ["Admin"], rfl⟩
  refine ⟨hskips, hkeyed, ?_⟩
  obtain ⟨names, hincreasing, hmem, heffect⟩ :=
    exists_registersAll (ClassTable.keepsNames_loader _ _) hskips hkeyed
      ⟨"Admin", by decide, .inl rfl⟩ hok
  refine ⟨names, hincreasing, (hmem "Shop").mpr ⟨by decide, .inl rfl⟩, fun hidle => ?_, heffect⟩
  rcases ((hmem "Idle").mp hidle).2 with h | h <;> revert h <;> decide

end Registration

end RestDeployment
