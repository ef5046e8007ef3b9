import RestDeployment.Proofs.Registration

/-!
# What exactly a registration adds

The plan of a registration is made against the descriptor as it was, one application after
the other.  Because the applications of the metadata go by distinct names, it comes down to
two lists in name order: a servlet for every name that no servlet bears, and a mapping for
every name that is not mapped and whose servlet does not run the dispatcher for it already
(`planned_servlets`, `planned_mappings`).

Two results follow.  What a registration adds is new to the descriptor and added once
(`exists_fresh_plan`).  And an application that counts has what it takes to be reached
afterwards, as far as the descriptor did not declare a servlet in its place
(`served_of_accepted`).
-/

namespace RestDeployment

/-- A look-up among servlets with others appended. -/
theorem WebDescriptor.servlet?_addTo (p : Registration.Plan) (web : WebDescriptor) (n : String) :
    (p.addTo web).servlet? n = (web.servlet? n).or (p.servlets.find? fun s => s.name == n) :=
  List.find?_append

namespace Registration

variable {config : Config} {loader : ClassLoader} {w : WebState} {m : Metadata}
  {d : Dispatcher} {web : WebDescriptor} {names : List String} {n : String} {p : Plan}

/-! ### The names that count -/

theorem map_name_values (h : m.Keyed) :
    m.applications.values.map (·.name) = m.applications.keys.toList :=
  NameMap.map_key_values h

/-- The applications that count are listed in name order. -/
theorem pairwise_registeredNames (h : m.Keyed) (web : WebDescriptor) :
    (registeredNames m web).Pairwise (· < ·) := by
  have hkeys : (m.applications.values.map (·.name)).Pairwise (· < ·) := by
    rw [map_name_values h]
    exact m.applications.keys.increasing
  have hsub : (registeredNames m web).Sublist (m.applications.values.map (·.name)) :=
    List.filter_sublist.map _
  exact hkeys.sublist hsub

/-- An application counts once. -/
theorem nodup_registeredNames (h : m.Keyed) (web : WebDescriptor) :
    (registeredNames m web).Nodup := by
  refine (pairwise_registeredNames h web).imp fun {a b} hlt heq => ?_
  rw [heq] at hlt
  exact String.lt_irrefl b hlt

/-! ### The plan as two lists -/

theorem isSome_servlet?_of_isServed (h : isServed d web n = true) :
    (web.servlet? n).isSome = true := by
  unfold isServed at h
  cases hs : web.servlet? n with
  | none => simp [hs] at h
  | some s => rfl

theorem planOf_servlets (d : Dispatcher) (web : WebDescriptor) (n : String) :
    (planOf d web n).servlets = plannedServlets d web n := by
  cases hserved : isServed d web n with
  | false => exact (planOf_of_not_isServed hserved).1
  | true =>
      rw [planOf, if_pos hserved]
      exact (plannedServlets_eq_nil_iff.mpr (isSome_servlet?_of_isServed hserved)).symm

theorem planOf_mappings (d : Dispatcher) (web : WebDescriptor) (n : String) :
    (planOf d web n).mappings = if isServed d web n then [] else plannedMappings web n := by
  cases hserved : isServed d web n with
  | false => exact (planOf_of_not_isServed hserved).2
  | true => rw [planOf, if_pos hserved, if_pos rfl]

/-- The names for which a servlet is planned. -/
def unnamed (web : WebDescriptor) (names : List String) : List String :=
  names.filter fun n => (web.servlet? n).isNone

/-- The names for which a mapping is planned. -/
def unmapped (d : Dispatcher) (web : WebDescriptor) (names : List String) : List String :=
  names.filter fun n => !isServed d web n && !web.isMapped n

theorem mem_unnamed : n ∈ unnamed web names ↔ n ∈ names ∧ web.servlet? n = none := by
  rw [unnamed, List.mem_filter, Option.isNone_iff_eq_none]

theorem mem_unmapped :
    n ∈ unmapped d web names ↔ n ∈ names ∧ isServed d web n = false ∧ web.isMapped n = false := by
  rw [unmapped, List.mem_filter, Bool.and_eq_true, Bool.not_eq_true', Bool.not_eq_true']

@[simp] theorem applicationDispatcher_name (d : Dispatcher) (n : String) :
    (applicationDispatcher d n).name = n := rfl

theorem planned_servlets (d : Dispatcher) (web : WebDescriptor) (names : List String) :
    names.flatMap (fun n => (planOf d web n).servlets) =
      (unnamed web names).map (applicationDispatcher d) := by
  induction names with
  | nil => rfl
  | cons n names ih =>
      rw [List.flatMap_cons, ih, planOf_servlets, plannedServlets, unnamed, unnamed,
        List.filter_cons]
      cases web.servlet? n <;> rfl

theorem planned_mappings (d : Dispatcher) (web : WebDescriptor) (names : List String) :
    names.flatMap (fun n => (planOf d web n).mappings) =
      (unmapped d web names).map fun n => ⟨n, ["/*"]⟩ := by
  induction names with
  | nil => rfl
  | cons n names ih =>
      rw [List.flatMap_cons, ih, planOf_mappings, plannedMappings, unmapped, unmapped,
        List.filter_cons]
      cases isServed d web n
      · cases web.isMapped n <;> rfl
      · rfl

/-! ### Nothing is added twice -/

/-- No servlet and no mapping of a plan is for a name that has one already, and no two are
for the same name. -/
structure Plan.FreshFor (p : Plan) (web : WebDescriptor) : Prop where
  servlets_new : ∀ s ∈ p.servlets, web.servlet? s.name = none
  mappings_new : ∀ x ∈ p.mappings, web.isMapped x.servletName = false
  servlets_nodup : (p.servlets.map (·.name)).Nodup
  mappings_nodup : (p.mappings.map (·.servletName)).Nodup

theorem freshFor_empty (web : WebDescriptor) : ({} : Plan).FreshFor web where
  servlets_new _ hs := absurd hs List.not_mem_nil
  mappings_new _ hx := absurd hx List.not_mem_nil
  servlets_nodup := List.nodup_nil
  mappings_nodup := List.nodup_nil

theorem freshFor_default (h : (web.servlet? defaultServletName).isSome = false) :
    ({ servlets := [defaultDispatcher d] } : Plan).FreshFor web where
  servlets_new s hs := by
    rw [List.mem_singleton.mp hs]
    exact Option.not_isSome_iff_eq_none.mp (Bool.not_eq_true _ ▸ h)
  mappings_new _ hx := absurd hx List.not_mem_nil
  servlets_nodup := List.pairwise_singleton _ _
  mappings_nodup := List.nodup_nil

theorem freshFor_planned (hnodup : names.Nodup)
    (hservlets : p.servlets = names.flatMap fun n => (planOf d web n).servlets)
    (hmappings : p.mappings = names.flatMap fun n => (planOf d web n).mappings) :
    p.FreshFor web := by
  rw [planned_servlets] at hservlets
  rw [planned_mappings] at hmappings
  -- the names were taken from a list without duplicates, as far as they were free
  refine ⟨fun s hs => ?_, fun x hx => ?_, ?_, ?_⟩
  · rw [hservlets] at hs
    obtain ⟨n, hn, rfl⟩ := List.mem_map.mp hs
    exact (mem_unnamed.mp hn).2
  · rw [hmappings] at hx
    obtain ⟨n, hn, rfl⟩ := List.mem_map.mp hx
    exact (mem_unmapped.mp hn).2.2
  · have hnames : (unnamed web names).map ((·.name) ∘ applicationDispatcher d) =
        unnamed web names := List.map_id' _
    rw [hservlets, List.map_map, hnames]
    exact hnodup.filter _
  · rw [hmappings, List.map_map]
    exact (List.map_id' (unmapped d web names)).symm ▸ hnodup.filter _

/-- **What a registration adds is new**, and a registration that is skipped adds nothing. -/
theorem exists_fresh_plan (hnames : loader.KeepsNames) (hkeyed : w.metadata.Keyed)
    (config : Config) :
    ∃ p : Plan, (register config loader w).state.descriptor = p.addTo w.descriptor ∧
      p.FreshFor w.descriptor ∧ (Skips w.metadata → p = {}) := by
  obtain ⟨p, hadds, hdescriptor, hskipped⟩ := exists_adds hnames config w
  refine ⟨p, hdescriptor, ?_, hskipped⟩
  cases hadds with
  | nothing => exact freshFor_empty _
  | default hnone => exact freshFor_default hnone
  | planned hservlets hmappings =>
      exact freshFor_planned (nodup_registeredNames hkeyed _) hservlets hmappings

/-- Distinct servlet names stay distinct where fresh servlets are added. -/
theorem Plan.FreshFor.nodup_addTo (h : p.FreshFor web)
    (hnodup : (web.servlets.map (·.name)).Nodup) :
    ((p.addTo web).servlets.map (·.name)).Nodup := by
  rw [Plan.addTo, List.map_append, List.nodup_append]
  refine ⟨hnodup, h.servlets_nodup, ?_⟩
  intro a ha b hb heq
  obtain ⟨s, hs, rfl⟩ := List.mem_map.mp ha
  obtain ⟨t, ht, rfl⟩ := List.mem_map.mp hb
  have hnone := List.find?_eq_none.mp (h.servlets_new t ht) s hs
  simp [heq] at hnone

/-! ### Applications that are served -/

/-- A servlet runs the dispatcher for an application. -/
def Dispatches (d : Dispatcher) (s : Servlet) (application : String) : Prop :=
  s.servletClass = some d.servletClass ∧
    (s.initParam? applicationInitParam).bind (·.value) = some application

theorem isServed_of_servlet? {s : Servlet} (hs : web.servlet? n = some s) :
    isServed d web n = true ↔ Dispatches d s n := by
  simp [isServed, hs, Dispatches]

theorem dispatches_applicationDispatcher (n : String) :
    Dispatches {} (applicationDispatcher {} n) n := by
  refine ⟨rfl, ?_⟩
  -- the parameters of every dispatcher servlet come first, under other names
  have hmode : (({} : Dispatcher).servletModeParam == applicationInitParam) = false := by decide
  have hdelegate : (({} : Dispatcher).delegateParam == applicationInitParam) = false := by decide
  simp [applicationDispatcher, Dispatcher.install, Servlet.addInitParam, Servlet.initParam?,
    hmode, hdelegate]

/-- An application that a registration accepts: it counts for the descriptor, there is
something to register, and all goes well. -/
structure Accepted (config : Config) (loader : ClassLoader) (w : WebState) (n : String) :
    Prop where
  keepsNames : loader.KeepsNames
  not_skipped : ¬ Skips w.metadata
  keyed : w.metadata.Keyed
  ends_well : ∃ registration, (register config loader w).result = .ok registration
  found : n ∈ w.metadata.applications.keys
  counts : (w.metadata.pathOf n).isSome = true ∨ w.descriptor.isMapped n = true

theorem Accepted.exists_plan (h : Accepted config loader w n) :
    ∃ p : Plan, (register config loader w).state.descriptor = p.addTo w.descriptor ∧
      n ∈ registeredNames w.metadata w.descriptor ∧
      p.servlets = (unnamed w.descriptor (registeredNames w.metadata w.descriptor)).map
        (applicationDispatcher config.dispatcher) ∧
      p.mappings = (registeredNames w.metadata w.descriptor).flatMap
        (fun n => (planOf config.dispatcher w.descriptor n).mappings) := by
  have hn : n ∈ registeredNames w.metadata w.descriptor :=
    (mem_registeredNames h.keyed).mpr ⟨h.found, h.counts⟩
  have hloads := (isOk_register_iff config loader w).mp h.ends_well h.not_skipped
  have hadded := descriptor_register_of_loads h.keepsNames config h.not_skipped
    (List.ne_nil_of_mem hn) hloads
  exact ⟨_, hadded, hn, planned_servlets _ _ _, rfl⟩

/-- A name without servlet gets the one that is planned for it. -/
theorem servlet?_addTo_of_planned (hnone : web.servlet? n = none) (hn : n ∈ names)
    (hservlets : p.servlets = (unnamed web names).map (applicationDispatcher d)) :
    (p.addTo web).servlet? n = some (applicationDispatcher d n) := by
  have hplanned : applicationDispatcher d n ∈ p.servlets := by
    rw [hservlets]
    exact List.mem_map_of_mem (mem_unnamed.mpr ⟨hn, hnone⟩)
  rw [WebDescriptor.servlet?_addTo, hnone, Option.none_or]
  cases hfind : p.servlets.find? fun s => s.name == n with
  | none => exact absurd (List.find?_eq_none.mp hfind _ hplanned) (by simp)
  | some s =>
      have hs := List.mem_of_find?_eq_some hfind
      rw [hservlets] at hs
      obtain ⟨k, -, rfl⟩ := List.mem_map.mp hs
      have hk : k = n := by simpa using List.find?_some hfind
      rw [hk]

/-- **Every application that is accepted is served, as far as it was left to the registration.**
If the descriptor declares no servlet of its name, there is one afterwards that runs the
dispatcher for it, and a mapping.  A declared servlet of its name stays as it is and in
force, and unless it runs the dispatcher for the application already, there is a mapping. -/
theorem served_of_accepted (h : Accepted {} loader w n) :
    (w.descriptor.servlet? n = none →
      (∃ s, (register {} loader w).state.descriptor.servlet? n = some s ∧ Dispatches {} s n) ∧
        (register {} loader w).state.descriptor.isMapped n = true) ∧
    ∀ s, w.descriptor.servlet? n = some s →
      (register {} loader w).state.descriptor.servlet? n = some s ∧
        (¬ Dispatches {} s n → (register {} loader w).state.descriptor.isMapped n = true) := by
  obtain ⟨p, hadded, hn, hservlets, hmappings⟩ := h.exists_plan
  rw [hadded]
  constructor
  · intro hnone
    have hserved : isServed ({} : Config).dispatcher w.descriptor n = false := by
      simp [isServed, hnone]
    exact ⟨⟨_, servlet?_addTo_of_planned hnone hn hservlets, dispatches_applicationDispatcher n⟩,
      isMapped_addTo_of_planned hserved hmappings hn⟩
  · intro s hs
    constructor
    · rw [WebDescriptor.servlet?_addTo, hs, Option.some_or]
    · intro hother
      have hserved : isServed ({} : Config).dispatcher w.descriptor n = false := by
        rw [← Bool.not_eq_true, isServed_of_servlet? hs]
        exact hother
      exact isMapped_addTo_of_planned hserved hmappings hn

/-- A web application with one application, whose descriptor declares some servlets. -/
def shopDeclaring (servlets : List Servlet) : WebState where
  metadata := Metadata.addApplication {} ⟨"Shop", some "/shop"⟩
  descriptor := { servlets := servlets }

/-- A loader that knows the application. -/
def shopLoader : ClassLoader := ({} : ClassTable).loader ["Shop"]

theorem accepted_shopDeclaring (servlets : List Servlet) :
    Accepted {} shopLoader (shopDeclaring servlets) "Shop" := by
  have hnone : ¬ Skips (shopDeclaring servlets).metadata := by
    rintro (h | h) <;> cases h
  have hkeyed : (shopDeclaring servlets).metadata.Keyed :=
    (Metadata.wellSorted_ofPolicy {}).keyed.addApplication _
  have hkeys : ∀ n, n ∈ (shopDeclaring servlets).metadata.applications.keys ↔ n = "Shop" := by
    intro n
    rw [NameMap.mem_keys, shopDeclaring, Metadata.addApplication, NameMap.get?_insert]
    split
    · next hn => exact iff_of_true rfl hn
    · next hn => exact iff_of_false Bool.false_ne_true hn
  refine ⟨ClassTable.keepsNames_loader _ _, hnone, hkeyed, ?_, (hkeys "Shop").mpr rfl, .inl rfl⟩
  refine (isOk_register_iff _ _ _).mpr fun _ n hn => ?_
  rw [(hkeys n).mp ((mem_registeredNames hkeyed).mp hn).1]
  exact ⟨_, rfl⟩

/-- Without servlets the application gets one and a mapping; a declared servlet that runs on
another class gets a mapping. -/
theorem served_of_accepted_shop :
    (Accepted {} shopLoader (shopDeclaring []) "Shop" ∧
      ∃ s, (register {} shopLoader (shopDeclaring [])).state.descriptor.servlet? "Shop" = some s ∧
        Dispatches {} s "Shop") ∧
    (Accepted {} shopLoader (shopDeclaring [{ name := "Shop", servletClass := some "Own" }])
        "Shop" ∧
      (register {} shopLoader (shopDeclaring [{ name := "Shop", servletClass := some "Own" }])
        ).state.descriptor.isMapped "Shop" = true) := by
  have hbare := accepted_shopDeclaring []
  have hdeclared := accepted_shopDeclaring [{ name := "Shop", servletClass := some "Own" }]
  obtain ⟨hserved, -⟩ := (served_of_accepted hbare).1 rfl
  obtain ⟨-, hmapped⟩ := (served_of_accepted hdeclared).2 _ rfl
  refine ⟨⟨hbare, hserved⟩, hdeclared, hmapped ?_⟩
  rintro ⟨hclass, -⟩
  exact absurd hclass (by decide)

/-- **Not every application that is accepted is served.**  A declared servlet of its name keeps
its class, and where that class is the dispatcher class no mapping is added. -/
theorem not_served_of_accepted :
    (Accepted {} shopLoader (shopDeclaring [{ name := "Shop" }]) "Shop" ∧
      ∃ s, (register {} shopLoader (shopDeclaring [{ name := "Shop" }])).state.descriptor.servlet?
        "Shop" = some s ∧ ¬ Dispatches {} s "Shop") ∧
    (Accepted {} shopLoader (shopDeclaring [applicationDispatcher {} "Shop"]) "Shop" ∧
      (register {} shopLoader (shopDeclaring [applicationDispatcher {} "Shop"])
        ).state.descriptor.isMapped "Shop" = false) := by
  have hdeclared : (register {} shopLoader (shopDeclaring [{ name := "Shop" }])
      ).state.descriptor.servlet? "Shop" = some { name := "Shop" } := by decide +kernel
  refine ⟨⟨accepted_shopDeclaring _, _, hdeclared, ?_⟩, accepted_shopDeclaring _, by decide +kernel⟩
  rintro ⟨hclass, -⟩
  cases hclass

end Registration

end RestDeployment
