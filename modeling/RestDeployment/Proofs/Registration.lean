import RestDeployment.Proofs.Metadata.Merge
import RestDeployment.Proofs.Registration.Plan

/-!
# What a registration does and what it leaves alone

Registering dispatcher servlets extends the descriptor: `extendedBy_register` says that
servlets and mappings are appended and that everything else stays as it is.  Of the
metadata it may set one flag, the one that a declared URL pattern takes the place of the
application path; `metadata_register` says that the rest stays as it is.

A registration fails only at an application that counts for the descriptor and cannot be
loaded (`isOk_register_iff`); which applications count is said by `mem_registeredNames`.

It leaves the descriptor as it is if every application that counts has a servlet and a mapping
(`register_unchanged_iff`).  A registration that has added nothing but mappings leads to such a
descriptor (`nothingToAdd_of_register`).
-/

namespace RestDeployment

/-- A descriptor with servlets and mappings appended to those of another. -/
structure WebDescriptor.ExtendedBy (web web' : WebDescriptor) : Prop where
  metadataComplete : web'.metadataComplete = web.metadataComplete
  filters : web'.filters = web.filters
  contextParams : web'.contextParams = web.contextParams
  securityConstraints : web'.securityConstraints = web.securityConstraints
  servlets : web.servlets <+: web'.servlets
  servletMappings : web.servletMappings <+: web'.servletMappings

theorem WebDescriptor.extendedBy_refl (web : WebDescriptor) : web.ExtendedBy web :=
  ⟨rfl, rfl, rfl, rfl, List.prefix_rfl, List.prefix_rfl⟩

namespace Registration

variable {config : Config} {loader : ClassLoader} {w : WebState}

theorem metadata_registerDefault (d : Dispatcher) (w : WebState) :
    (registerDefault d w).state.metadata = w.metadata := by
  unfold registerDefault
  split <;> rfl

theorem metadata_registerApplications (d : Dispatcher) (loader : ClassLoader) (w : WebState)
    (applications : List String) :
    ∃ ignorePath, (registerApplications d loader w applications).state.metadata =
      { w.metadata with ignoreApplicationPath := ignorePath } := by
  cases hplan : (plan d loader w.descriptor applications).value with
  | error fault =>
      refine ⟨w.metadata.ignoreApplicationPath, ?_⟩
      simp only [registerApplications, hplan]
  | ok p =>
      refine ⟨w.metadata.ignoreApplicationPath || p.ignorePath, ?_⟩
      simp only [registerApplications, hplan]

/-- A registration changes one flag of the metadata at most. -/
theorem metadata_register (config : Config) (loader : ClassLoader) (w : WebState) :
    ∃ ignorePath, (register config loader w).state.metadata =
      { w.metadata with ignoreApplicationPath := ignorePath } := by
  unfold register
  split
  · exact ⟨w.metadata.ignoreApplicationPath, rfl⟩
  · split
    · exact ⟨w.metadata.ignoreApplicationPath, rfl⟩
    · split
      · exact ⟨w.metadata.ignoreApplicationPath, metadata_registerDefault _ _⟩
      · exact metadata_registerApplications _ _ _ _

/-! ### When a registration ends well -/

/-- The names that count for a descriptor are those of applications that have a path or
are mapped. -/
theorem mem_registeredNames {m : Metadata} (h : m.Keyed) {web : WebDescriptor} {n : String} :
    n ∈ registeredNames m web ↔
      n ∈ m.applications.keys ∧ ((m.pathOf n).isSome = true ∨ web.isMapped n = true) := by
  have hcounts : ∀ a : Application, a.isRegistered web = true ↔
      a.path.isSome = true ∨ web.isMapped a.name = true := fun a => by
    simp [Application.isRegistered, Application.isAnnotated]
  simp only [registeredNames, NameMap.values, List.mem_map, List.mem_filter, hcounts]
  rw [NameMap.mem_keys, Metadata.pathOf]
  constructor
  · rintro ⟨a, ⟨⟨⟨k, b⟩, hentry, rfl⟩, hregistered⟩, rfl⟩
    have hget : m.applications.get? k = some b := NameMap.mem_entries.mp hentry
    rw [h k b hget, hget]
    exact ⟨rfl, by rwa [h k b hget] at hregistered⟩
  · rintro ⟨hsome, hregistered⟩
    obtain ⟨a, hget⟩ := Option.isSome_iff_exists.mp hsome
    have hname : a.name = n := h n a hget
    rw [hget] at hregistered
    refine ⟨a, ⟨⟨(n, a), NameMap.mem_entries.mpr hget, rfl⟩, ?_⟩, hname⟩
    rwa [hname]

/-- The metadata say that there is nothing to register: the descriptor declares the
dispatcher, or a servlet was adopted. -/
def Skips (m : Metadata) : Prop :=
  (m.hasBootClasses || m.policy.hasBootClasses) = true ∨ m.dispatcherCreated = true

theorem Skips.congr {m m' : Metadata} (h : m.SameFlags m') : Skips m ↔ Skips m' := by
  rw [Skips, Skips, h.policy, h.hasBootClasses, h.dispatcherCreated]

theorem register_of_skips (h : Skips w.metadata) :
    (∃ reason, (register config loader w).result = .ok (.skipped reason)) ∧
      (register config loader w).state = w := by
  unfold register
  split
  · exact ⟨⟨_, rfl⟩, rfl⟩
  · next hboot =>
      rw [if_pos (h.resolve_left hboot)]
      exact ⟨⟨_, rfl⟩, rfl⟩

theorem register_of_registeredNames_eq_nil (h : ¬ Skips w.metadata)
    (hnone : registeredNames w.metadata w.descriptor = []) :
    register config loader w = registerDefault config.dispatcher w := by
  obtain ⟨hboot, hcreated⟩ := not_or.mp h
  rw [register, if_neg hboot, if_neg hcreated, hnone]

theorem register_of_registeredNames_ne_nil (h : ¬ Skips w.metadata)
    (hsome : registeredNames w.metadata w.descriptor ≠ []) :
    register config loader w = registerApplications config.dispatcher loader w
      (registeredNames w.metadata w.descriptor) := by
  obtain ⟨hboot, hcreated⟩ := not_or.mp h
  rw [register, if_neg hboot, if_neg hcreated]
  split
  · next hnone => exact absurd hnone hsome
  · rfl

theorem isOk_registerApplications_iff (d : Dispatcher) (loader : ClassLoader) (w : WebState)
    (applications : List String) :
    (∃ registration, (registerApplications d loader w applications).result = .ok registration) ↔
      ∀ n ∈ applications, ∃ handle, loader.load n = .ok handle := by
  rw [← isOk_plan_iff d loader w.descriptor]
  cases hplan : (plan d loader w.descriptor applications).value with
  | error fault => simp [registerApplications, hplan]
  | ok p => simp [registerApplications, hplan]

/-- A registration ends well exactly if there is nothing to register or all applications
that count can be loaded. -/
theorem isOk_register_iff (config : Config) (loader : ClassLoader) (w : WebState) :
    (∃ registration, (register config loader w).result = .ok registration) ↔
      (¬ Skips w.metadata →
        ∀ n ∈ registeredNames w.metadata w.descriptor, ∃ handle, loader.load n = .ok handle) := by
  by_cases hskips : Skips w.metadata
  · have hresult : ∃ reason, (register config loader w).result = .ok (.skipped reason) :=
      (register_of_skips hskips).1
    obtain ⟨reason, hreason⟩ := hresult
    simp [hreason, hskips]
  · rw [imp_iff_right hskips]
    by_cases hnone : registeredNames w.metadata w.descriptor = []
    · rw [register_of_registeredNames_eq_nil hskips hnone, hnone]
      unfold registerDefault
      split <;> simp
    · rw [register_of_registeredNames_ne_nil hskips hnone, isOk_registerApplications_iff]

/-! ### The descriptor -/

theorem extendedBy_addTo (p : Plan) (web : WebDescriptor) : web.ExtendedBy (p.addTo web) :=
  ⟨rfl, rfl, rfl, rfl, List.prefix_append _ _, List.prefix_append _ _⟩

/-- A registration leaves the descriptor as it is, or adds the default servlet where there
are no applications, or adds what is planned for them. -/
theorem register_descriptor_cases (config : Config) (loader : ClassLoader) (w : WebState) :
    (register config loader w).state.descriptor = w.descriptor ∨
      (w.descriptor.servlet? defaultServletName).isSome = false ∧
        (register config loader w).state.descriptor =
          w.descriptor.addServlet (defaultDispatcher config.dispatcher) ∨
      ∃ p, (plan config.dispatcher loader w.descriptor
          (registeredNames w.metadata w.descriptor)).value = .ok p ∧
        (register config loader w).state.descriptor = p.addTo w.descriptor := by
  by_cases hskips : Skips w.metadata
  · left
    rw [(register_of_skips hskips).2]
  · by_cases hnone : registeredNames w.metadata w.descriptor = []
    · rw [register_of_registeredNames_eq_nil hskips hnone, registerDefault]
      cases hdeclared : (w.descriptor.servlet? defaultServletName).isSome with
      | true => exact .inl rfl
      | false => exact .inr (.inl ⟨rfl, rfl⟩)
    · rw [register_of_registeredNames_ne_nil hskips hnone, registerApplications]
      cases hplan : (plan config.dispatcher loader w.descriptor
          (registeredNames w.metadata w.descriptor)).value with
      | error fault => exact .inl rfl
      | ok p => exact .inr (.inr ⟨p, rfl, rfl⟩)

/-- A registration appends servlets and mappings to the descriptor, if it changes it. -/
theorem extendedBy_register (config : Config) (loader : ClassLoader) (w : WebState) :
    w.descriptor.ExtendedBy (register config loader w).state.descriptor := by
  rcases register_descriptor_cases config loader w with h | ⟨-, h⟩ | ⟨p, -, h⟩
  · rw [h]
    exact w.descriptor.extendedBy_refl
  · rw [h]
    exact ⟨rfl, rfl, rfl, rfl, List.prefix_append _ _, List.prefix_rfl⟩
  · rw [h]
    exact extendedBy_addTo p w.descriptor

/-! ### What is added -/

theorem servletClass_of_mem_planOf {d : Dispatcher} {web : WebDescriptor} {n : String}
    {s : Servlet} (h : s ∈ (planOf d web n).servlets) : s.servletClass = some d.servletClass := by
  unfold planOf plannedServlets at h
  split at h
  · cases h
  · dsimp only at h
    split at h
    · cases h
    · rw [List.mem_singleton.mp h]
      rfl

theorem servletName_of_mem_planOf {d : Dispatcher} {web : WebDescriptor} {n : String}
    {x : ServletMapping} (h : x ∈ (planOf d web n).mappings) : x.servletName = n := by
  unfold planOf plannedMappings at h
  split at h
  · cases h
  · dsimp only at h
    split at h
    · cases h
    · rw [List.mem_singleton.mp h]

/-- What a registration may add to a descriptor. -/
inductive Adds (config : Config) (w : WebState) : Plan → Prop where
  | nothing : Adds config w {}
  | default (hnone : (w.descriptor.servlet? defaultServletName).isSome = false) :
      Adds config w { servlets := [defaultDispatcher config.dispatcher] }
  | planned {p : Plan}
      (hservlets : p.servlets = (registeredNames w.metadata w.descriptor).flatMap
        (fun n => (planOf config.dispatcher w.descriptor n).servlets))
      (hmappings : p.mappings = (registeredNames w.metadata w.descriptor).flatMap
        (fun n => (planOf config.dispatcher w.descriptor n).mappings)) : Adds config w p

theorem addTo_empty (web : WebDescriptor) : ({} : Plan).addTo web = web := by
  rw [Plan.addTo, List.append_nil, List.append_nil]

/-- Every registration adds something of this kind, and nothing if it is skipped. -/
theorem exists_adds (hnames : loader.KeepsNames) (config : Config) (w : WebState) :
    ∃ p, Adds config w p ∧ (register config loader w).state.descriptor = p.addTo w.descriptor ∧
      (Skips w.metadata → p = {}) := by
  by_cases hskips : Skips w.metadata
  · refine ⟨{}, .nothing, ?_, fun _ => rfl⟩
    rw [(register_of_skips hskips).2, addTo_empty]
  · rcases register_descriptor_cases config loader w with h | ⟨hnone, h⟩ | ⟨p, hplan, h⟩
    · exact ⟨{}, .nothing, by rw [h, addTo_empty], fun _ => rfl⟩
    · refine ⟨_, .default hnone, ?_, fun hskips' => absurd hskips' hskips⟩
      rw [h, Plan.addTo, List.append_nil, WebDescriptor.addServlet]
    · obtain rfl := plan_value_eq_ok hnames hplan
      exact ⟨_, .planned rfl rfl, h, fun hskips' => absurd hskips' hskips⟩

/-- All servlets that a registration adds run on the dispatcher class, and all mappings are
for applications that count. -/
theorem exists_added (hnames : loader.KeepsNames) (config : Config) (w : WebState) :
    ∃ p : Plan, (register config loader w).state.descriptor = p.addTo w.descriptor ∧
      (∀ s ∈ p.servlets, s.servletClass = some config.dispatcher.servletClass) ∧
      ∀ x ∈ p.mappings, x.servletName ∈ registeredNames w.metadata w.descriptor := by
  obtain ⟨p, hadds, hdescriptor, -⟩ := exists_adds hnames config w
  refine ⟨p, hdescriptor, ?_⟩
  cases hadds with
  | nothing =>
      exact ⟨fun s hs => absurd hs List.not_mem_nil, fun x hx => absurd hx List.not_mem_nil⟩
  | default hnone =>
      refine ⟨fun s hs => ?_, fun x hx => absurd hx List.not_mem_nil⟩
      rw [List.mem_singleton.mp hs]
      rfl
  | planned hservlets hmappings =>
      refine ⟨fun s hs => ?_, fun x hx => ?_⟩
      · rw [hservlets] at hs
        obtain ⟨n, -, hs⟩ := List.mem_flatMap.mp hs
        exact servletClass_of_mem_planOf hs
      · rw [hmappings] at hx
        obtain ⟨n, hn, hx⟩ := List.mem_flatMap.mp hx
        rw [servletName_of_mem_planOf hx]
        exact hn

/-! ### When nothing is added -/

/-- Every application that counts can be loaded and has a servlet and a mapping; where
there is none, the default servlet is declared. -/
structure NothingToAdd (loader : ClassLoader) (w : WebState) : Prop where
  applications : ∀ n ∈ registeredNames w.metadata w.descriptor,
    (∃ handle, loader.load n = .ok handle) ∧ (w.descriptor.servlet? n).isSome = true ∧
      w.descriptor.isMapped n = true
  default_declared : registeredNames w.metadata w.descriptor = [] →
    (w.descriptor.servlet? defaultServletName).isSome = true

theorem isServed_eq_false {d : Dispatcher} {web : WebDescriptor}
    (hnone : ∀ s ∈ web.servlets, s.servletClass ≠ some d.servletClass) (n : String) :
    isServed d web n = false := by
  unfold isServed
  cases hs : web.servlet? n with
  | none => rfl
  | some s =>
      have hclass : s.servletClass ≠ some d.servletClass := hnone s (List.mem_of_find?_eq_some hs)
      simp [hclass]

theorem planOf_of_not_isServed {d : Dispatcher} {web : WebDescriptor} {n : String}
    (h : isServed d web n = false) :
    (planOf d web n).servlets = plannedServlets d web n ∧
      (planOf d web n).mappings = plannedMappings web n := by
  simp [planOf, h]

theorem plannedServlets_eq_nil_iff {d : Dispatcher} {web : WebDescriptor} {n : String} :
    plannedServlets d web n = [] ↔ (web.servlet? n).isSome = true := by
  unfold plannedServlets
  split
  · next h => exact iff_of_true rfl h
  · next h => exact iff_of_false (List.cons_ne_nil _ _) h

theorem plannedMappings_eq_nil_iff {web : WebDescriptor} {n : String} :
    plannedMappings web n = [] ↔ web.isMapped n = true := by
  simp [plannedMappings]

theorem addTo_eq_self_iff {p : Plan} {web : WebDescriptor} :
    p.addTo web = web ↔ p.servlets = [] ∧ p.mappings = [] := by
  constructor
  · intro h
    exact ⟨List.append_right_eq_self.mp (congrArg WebDescriptor.servlets h),
      List.append_right_eq_self.mp (congrArg WebDescriptor.servletMappings h)⟩
  · rintro ⟨hservlets, hmappings⟩
    rw [Plan.addTo, hservlets, hmappings, List.append_nil, List.append_nil]

theorem planOf_eq_nil_iff {d : Dispatcher} {web : WebDescriptor}
    (hnone : ∀ s ∈ web.servlets, s.servletClass ≠ some d.servletClass) (n : String) :
    (planOf d web n).servlets = [] ∧ (planOf d web n).mappings = [] ↔
      (web.servlet? n).isSome = true ∧ web.isMapped n = true := by
  obtain ⟨hservlets, hmappings⟩ := planOf_of_not_isServed (isServed_eq_false hnone n)
  rw [hservlets, hmappings, plannedServlets_eq_nil_iff, plannedMappings_eq_nil_iff]

theorem registerDefault_of_declared {d : Dispatcher}
    (h : (w.descriptor.servlet? defaultServletName).isSome = true) :
    (registerDefault d w).state.descriptor = w.descriptor := by
  rw [registerDefault, if_pos h]

/-- The default servlet is the only one that can be missing where no application counts. -/
theorem registerDefault_servlets_eq_iff {d : Dispatcher} :
    (registerDefault d w).state.descriptor.servlets = w.descriptor.servlets ↔
      (w.descriptor.servlet? defaultServletName).isSome = true := by
  by_cases hdeclared : (w.descriptor.servlet? defaultServletName).isSome = true
  · exact iff_of_true (by rw [registerDefault_of_declared hdeclared]) hdeclared
  · refine iff_of_false (fun hsame => ?_) hdeclared
    rw [registerDefault, if_neg hdeclared] at hsame
    exact absurd (List.append_right_eq_self.mp hsame) (List.cons_ne_nil _ _)

/-- Where applications count and all of them can be loaded, the plan for them is added. -/
theorem descriptor_register_of_loads (hnames : loader.KeepsNames) (config : Config)
    (hskips : ¬ Skips w.metadata) (hsome : registeredNames w.metadata w.descriptor ≠ [])
    (hloads : ∀ n ∈ registeredNames w.metadata w.descriptor, ∃ handle, loader.load n = .ok handle) :
    (register config loader w).state.descriptor =
      (planFor config.dispatcher w.descriptor (registeredNames w.metadata w.descriptor)).addTo
        w.descriptor := by
  rw [register_of_registeredNames_ne_nil hskips hsome, registerApplications,
    plan_eq_of_loads config.dispatcher w.descriptor hloads, loadedNames_eq hnames hloads]

theorem nothingToAdd_iff_of_eq_nil (h : registeredNames w.metadata w.descriptor = []) :
    NothingToAdd loader w ↔ (w.descriptor.servlet? defaultServletName).isSome = true := by
  refine ⟨fun hnothing => hnothing.default_declared h, fun hdeclared => ⟨fun n hn => ?_, ?_⟩⟩
  · rw [h] at hn
    exact absurd hn List.not_mem_nil
  · exact fun _ => hdeclared

theorem nothingToAdd_iff_of_ne_nil (h : registeredNames w.metadata w.descriptor ≠ []) :
    NothingToAdd loader w ↔ ∀ n ∈ registeredNames w.metadata w.descriptor,
      (∃ handle, loader.load n = .ok handle) ∧ (w.descriptor.servlet? n).isSome = true ∧
        w.descriptor.isMapped n = true :=
  ⟨fun hnothing => hnothing.applications, fun hall => ⟨hall, fun hnil => absurd hnil h⟩⟩

private theorem register_unchanged_iff_of_not_skips (hnames : loader.KeepsNames)
    (hskips : ¬ Skips w.metadata)
    (hnone : ∀ s ∈ w.descriptor.servlets, s.servletClass ≠ some config.dispatcher.servletClass) :
    (∃ registration, (register config loader w).result = .ok registration) ∧
        (register config loader w).state.descriptor = w.descriptor ↔
      NothingToAdd loader w := by
  rw [isOk_register_iff, imp_iff_right hskips]
  by_cases hempty : registeredNames w.metadata w.descriptor = []
  · rw [nothingToAdd_iff_of_eq_nil hempty, register_of_registeredNames_eq_nil hskips hempty, hempty]
    constructor
    · rintro ⟨-, hsame⟩
      exact registerDefault_servlets_eq_iff.mp (congrArg WebDescriptor.servlets hsame)
    · intro hdeclared
      exact ⟨fun n hn => absurd hn List.not_mem_nil, registerDefault_of_declared hdeclared⟩
  · simp only [nothingToAdd_iff_of_ne_nil hempty, imp_and, forall_and]
    refine and_congr_right fun hloads => ?_
    -- what is added is empty if it is so for every application
    rw [descriptor_register_of_loads hnames config hskips hempty hloads, addTo_eq_self_iff, planFor,
      List.flatMap_eq_nil_iff, List.flatMap_eq_nil_iff]
    simp only [← forall_and, planOf_eq_nil_iff hnone]

/-- A registration ends well and leaves the descriptor as it is exactly if there is nothing
to register or nothing to add, where no servlet runs on the dispatcher class yet. -/
theorem register_unchanged_iff (hnames : loader.KeepsNames) (hnone : ¬ Skips w.metadata →
      ∀ s ∈ w.descriptor.servlets, s.servletClass ≠ some config.dispatcher.servletClass) :
    (∃ registration, (register config loader w).result = .ok registration) ∧
        (register config loader w).state.descriptor = w.descriptor ↔
      (¬ Skips w.metadata → NothingToAdd loader w) := by
  by_cases hskips : Skips w.metadata
  · have hskipped : (∃ reason, (register config loader w).result = .ok (.skipped reason)) ∧
        (register config loader w).state = w := register_of_skips hskips
    obtain ⟨⟨reason, hreason⟩, hstate⟩ := hskipped
    exact iff_of_true ⟨⟨_, hreason⟩, congrArg WebState.descriptor hstate⟩ fun h => absurd hskips h
  · rw [imp_iff_right hskips]
    exact register_unchanged_iff_of_not_skips hnames hskips (hnone hskips)

theorem isMapped_addTo {p : Plan} {web : WebDescriptor} {n : String} :
    (p.addTo web).isMapped n = true ↔
      web.isMapped n = true ∨ ∃ x ∈ p.mappings, x.servletName = n := by
  simp [Plan.addTo, WebDescriptor.isMapped]

/-- Every application that is planned for has a mapping afterwards, unless it was served. -/
theorem isMapped_addTo_of_planned {d : Dispatcher} {p : Plan} {web : WebDescriptor}
    {names : List String} {n : String} (hserved : isServed d web n = false)
    (hmappings : p.mappings = names.flatMap fun n => (planOf d web n).mappings)
    (hn : n ∈ names) : (p.addTo web).isMapped n = true := by
  rw [isMapped_addTo]
  by_cases hbefore : web.isMapped n = true
  · exact .inl hbefore
  · refine .inr ⟨⟨n, ["/*"]⟩, ?_, rfl⟩
    rw [hmappings, List.mem_flatMap]
    refine ⟨n, hn, ?_⟩
    rw [(planOf_of_not_isServed hserved).2, plannedMappings, if_neg hbefore]
    exact List.mem_singleton_self _

/-- Where no servlet runs on the dispatcher class in the end, only mappings were added. -/
theorem exists_mappings_of_register (hnames : loader.KeepsNames)
    (hnone : ∀ s ∈ (register config loader w).state.descriptor.servlets,
      s.servletClass ≠ some config.dispatcher.servletClass) :
    ∃ p : Plan, p.servlets = [] ∧
      (register config loader w).state.descriptor = p.addTo w.descriptor ∧
      ∀ x ∈ p.mappings, x.servletName ∈ registeredNames w.metadata w.descriptor := by
  obtain ⟨p, hdescriptor, hclass, hmappings⟩ := exists_added hnames config w
  refine ⟨p, ?_, hdescriptor, hmappings⟩
  rw [hdescriptor] at hnone
  refine List.eq_nil_iff_forall_not_mem.mpr fun s hs => ?_
  exact hnone s (List.mem_append_right _ hs) (hclass s hs)

/-- **Nothing is left to add after a registration** that has added no servlet, as long as
the same applications count. -/
theorem nothingToAdd_of_register (hnames : loader.KeepsNames) (hskips : ¬ Skips w.metadata)
    (hok : ∃ registration, (register config loader w).result = .ok registration)
    (hnone : ∀ s ∈ (register config loader w).state.descriptor.servlets,
      s.servletClass ≠ some config.dispatcher.servletClass)
    {m : Metadata} (hsame : ∀ n,
      n ∈ registeredNames m (register config loader w).state.descriptor ↔
        n ∈ registeredNames w.metadata w.descriptor) :
    NothingToAdd loader ⟨m, (register config loader w).state.descriptor⟩ := by
  have hservlets : (register config loader w).state.descriptor.servlets =
      w.descriptor.servlets := by
    obtain ⟨p, hnil, hdescriptor, -⟩ := exists_mappings_of_register hnames hnone
    rw [hdescriptor, Plan.addTo, hnil, List.append_nil]
  have hloads := (isOk_register_iff config loader w).mp hok hskips
  rw [hservlets] at hnone
  by_cases hempty : registeredNames w.metadata w.descriptor = []
  · have hagain : registeredNames m (register config loader w).state.descriptor = [] :=
      List.eq_nil_iff_forall_not_mem.mpr fun n hn => by simp [hsame, hempty] at hn
    rw [nothingToAdd_iff_of_eq_nil hagain]
    -- the default servlet was not added, so it was declared before
    rw [register_of_registeredNames_eq_nil hskips hempty] at hservlets ⊢
    have hdeclared := registerDefault_servlets_eq_iff.mp hservlets
    simpa only [registerDefault_of_declared hdeclared] using hdeclared
  · have hadded := descriptor_register_of_loads hnames config hskips hempty hloads
    have hnil : (planFor config.dispatcher w.descriptor
        (registeredNames w.metadata w.descriptor)).servlets = [] := by
      rw [hadded] at hservlets
      exact List.append_right_eq_self.mp hservlets
    rw [planFor, List.flatMap_eq_nil_iff] at hnil
    refine ⟨fun n hn => ?_, fun h => ?_⟩
    · rw [hsame] at hn
      refine ⟨hloads n hn, ?_, ?_⟩
      · have hdeclared := hnil n hn
        rw [(planOf_of_not_isServed (isServed_eq_false hnone n)).1,
          plannedServlets_eq_nil_iff] at hdeclared
        simpa only [WebDescriptor.servlet?, hservlets] using hdeclared
      · rw [hadded]
        exact isMapped_addTo_of_planned (isServed_eq_false hnone n) rfl hn
    · obtain ⟨n, hn⟩ := List.exists_mem_of_ne_nil _ hempty
      rw [← hsame, h] at hn
      exact absurd hn List.not_mem_nil

end Registration

end RestDeployment
