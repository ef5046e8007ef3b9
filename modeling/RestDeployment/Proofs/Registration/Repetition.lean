import RestDeployment.Proofs.Registration.Effect

/-!
# A registration made twice

A second registration on what the first one left finds the same applications
(`registeredNames_again`), each of them with a servlet and a mapping or with its dispatcher
servlet.  So it adds nothing and leaves the descriptor as it is (`carriedOut_again`).

The flag that a declared URL pattern takes the place of the application path is another matter.
A mapping that the first registration added looks to the second one like a declared pattern.
For an application whose servlet was added too, this does no harm, because its servlet is known
to be its dispatcher.  For an application whose servlet was declared and runs something else
(`Overlooked`), the second registration sets the flag although the first one did not.  These
are the only applications for which a repetition makes a difference
(`register_twice_unchanged_iff`).
-/

namespace RestDeployment

namespace Registration

variable {config : Config} {loader : ClassLoader} {w : WebState} {d : Dispatcher}
  {web : WebDescriptor} {names : List String} {n : String}

/-- Registrations that have added nothing. -/
inductive AddedNothing : Registration → Prop where
  | skipped (reason : SkipReason) : AddedNothing (.skipped reason)
  | defaultDeclared : AddedNothing (.defaultServlet false)
  | allPresent : AddedNothing (.applicationServlets [] [])

/-- An application with a path for which the descriptor declares a servlet of its name that
does not run the dispatcher for it, and no mapping. -/
structure Overlooked (d : Dispatcher) (w : WebState) (n : String) : Prop where
  has_path : (w.metadata.pathOf n).isSome = true
  declared : ∃ s, w.descriptor.servlet? n = some s ∧ ¬ Dispatches d s n
  not_mapped : w.descriptor.isMapped n = false

theorem Overlooked.not_served (h : Overlooked d w n) : isServed d w.descriptor n = false := by
  obtain ⟨s, hs, hother⟩ := h.declared
  rw [← Bool.not_eq_true, isServed_of_servlet? hs]
  exact hother

theorem Overlooked.mem_registeredNames (h : Overlooked d w n) (hkeyed : w.metadata.Keyed) :
    n ∈ registeredNames w.metadata w.descriptor := by
  refine (Registration.mem_registeredNames hkeyed).mpr ⟨NameMap.mem_keys.mpr ?_, .inl h.has_path⟩
  have hpath := h.has_path
  unfold Metadata.pathOf at hpath
  cases hget : w.metadata.applications.get? n with
  | none => simp [hget] at hpath
  | some a => rfl

/-! ### What the second registration finds -/

/-- Mappings for applications that count make no others count. -/
theorem registeredNames_addTo {m : Metadata} {p : Plan} (hkeyed : m.Keyed)
    (hmappings : ∀ x ∈ p.mappings, x.servletName ∈ registeredNames m web) :
    registeredNames m (p.addTo web) = registeredNames m web := by
  have hsame : ∀ a ∈ m.applications.values, a.isRegistered (p.addTo web) = a.isRegistered web := by
    intro a ha
    obtain ⟨⟨k, a⟩, hentry, rfl⟩ := List.mem_map.mp ha
    have hget : m.applications.get? a.name = some a := by
      rw [hkeyed k a (NameMap.mem_entries.mp hentry)]
      exact NameMap.mem_entries.mp hentry
    rw [Bool.eq_iff_iff, Application.isRegistered, Application.isRegistered, Bool.or_eq_true,
      Bool.or_eq_true, isMapped_addTo]
    constructor
    · rintro (hpath | hmapped | ⟨x, hx, hname⟩)
      · exact .inl hpath
      · exact .inr hmapped
      · -- a name that gets a mapping counted before
        have hcounts := (mem_registeredNames hkeyed).mp (hname ▸ hmappings x hx)
        rw [Metadata.pathOf, hget] at hcounts
        exact hcounts.2
    · rintro (hpath | hmapped)
      · exact .inl hpath
      · exact .inr (.inl hmapped)
  rw [registeredNames, List.filter_congr hsame, registeredNames]

theorem registeredNames_again {m : Metadata} (hkeyed : m.Keyed) (d : Dispatcher)
    (hnames : names = registeredNames m web) :
    registeredNames m ((planFor d web names).addTo web) = names := by
  rw [registeredNames_addTo hkeyed, hnames]
  intro x hx
  rw [planFor_mappings] at hx
  obtain ⟨n, hn, rfl⟩ := List.mem_map.mp hx
  exact hnames ▸ (mem_unmapped.mp hn).1

theorem isServed_addTo_of_some {s : Servlet} {p : Plan} (hs : web.servlet? n = some s) :
    isServed d (p.addTo web) n = isServed d web n := by
  rw [isServed, isServed, servlet?_addTo_of_some hs, hs]

/-- After a registration a name for which it was made has a servlet. -/
theorem servlet?_addTo_planFor_ne_none (hn : n ∈ names) :
    ((planFor d web names).addTo web).servlet? n ≠ none := by
  cases hs : web.servlet? n with
  | some s => simp [servlet?_addTo_of_some hs]
  | none => simp [servlet?_addTo_of_planned hs hn (planFor_servlets d web names)]

theorem unnamed_again : unnamed ((planFor d web names).addTo web) names = [] := by
  refine List.eq_nil_iff_forall_not_mem.mpr fun n hn => ?_
  obtain ⟨hmem, hnone⟩ := mem_unnamed.mp hn
  exact servlet?_addTo_planFor_ne_none hmem hnone

/-- Nothing is overlooked where no application counts. -/
theorem not_overlooked_of_eq_nil (hkeyed : w.metadata.Keyed)
    (hnone : registeredNames w.metadata w.descriptor = []) (n : String) : ¬ Overlooked d w n := by
  intro h
  have hn := h.mem_registeredNames hkeyed
  rw [hnone] at hn
  exact List.not_mem_nil hn

theorem Overlooked.isOverridden_again (h : Overlooked d w n) (hn : n ∈ names) :
    isOverridden d ((planFor d w.descriptor names).addTo w.descriptor) n = true := by
  obtain ⟨s, hs, -⟩ := h.declared
  refine isOverridden_iff.mpr ⟨?_, urlPatterns_addTo_planFor_ne_nil_iff.mpr (.inr ?_)⟩
  · rw [isServed_addTo_of_some hs]
    exact h.not_served
  · exact mem_unmapped.mpr ⟨hn, h.not_served, h.not_mapped⟩

/-! ### What the second registration does for applications

A servlet that was added is known to be the dispatcher of its application as long as none of
the parameters that every dispatcher servlet has takes the place of the application's. -/

section Applications

variable (hinstalls : ∀ n, Dispatches d (applicationDispatcher d n) n)

include hinstalls

/-- A name whose servlet does not run the dispatcher for it afterwards had a servlet before. -/
theorem exists_servlet?_of_not_served_again (hn : n ∈ names)
    (hserved : isServed d ((planFor d web names).addTo web) n = false) :
    ∃ s, web.servlet? n = some s ∧ isServed d web n = false := by
  cases hs : web.servlet? n with
  | some s => exact ⟨s, rfl, isServed_addTo_of_some hs ▸ hserved⟩
  | none =>
      have hadded := servlet?_addTo_of_planned hs hn (planFor_servlets d web names)
      rw [(isServed_of_servlet? hadded).mpr (hinstalls n)] at hserved
      cases hserved

theorem unmapped_again : unmapped d ((planFor d web names).addTo web) names = [] := by
  refine List.eq_nil_iff_forall_not_mem.mpr fun n hn => ?_
  obtain ⟨hmem, hserved, hmapped⟩ := mem_unmapped.mp hn
  obtain ⟨s, -, hbefore⟩ := exists_servlet?_of_not_served_again hinstalls hmem hserved
  -- such a name was mapped before, or the plan has a mapping for it
  rw [← Bool.not_eq_true, isMapped_addTo_planFor, not_or] at hmapped
  exact hmapped.2 (mem_unmapped.mpr ⟨hmem, hbefore, Bool.eq_false_iff.mpr hmapped.1⟩)

/-- Carrying out the plan for the same names again adds nothing. -/
theorem carriedOut_again (w : WebState) (names : List String) :
    (carriedOut d (carriedOut d w names).state names).result = .ok (.applicationServlets [] []) ∧
      (carriedOut d (carriedOut d w names).state names).state.descriptor =
        (carriedOut d w names).state.descriptor := by
  have hunnamed : unnamed (carriedOut d w names).state.descriptor names = [] := unnamed_again
  have hunmapped : unmapped d (carriedOut d w names).state.descriptor names = [] :=
    unmapped_again hinstalls
  constructor
  · rw [carriedOut, hunnamed, hunmapped]
  · refine addTo_eq_self_iff.mpr ⟨?_, ?_⟩
    · rw [planFor_servlets, hunnamed, List.map_nil]
    · rw [planFor_mappings, hunmapped, List.map_nil]

/-- The second registration lets a URL pattern take the place of the path of an application
for which the first one did so, or of an application that was overlooked. -/
theorem isOverridden_again (hkeyed : w.metadata.Keyed)
    (hn : n ∈ registeredNames w.metadata w.descriptor)
    (h : isOverridden d ((planFor d w.descriptor
      (registeredNames w.metadata w.descriptor)).addTo w.descriptor) n = true) :
    isOverridden d w.descriptor n = true ∨ Overlooked d w n := by
  obtain ⟨hserved, hpatterns⟩ := isOverridden_iff.mp h
  obtain ⟨s, hs, hbefore⟩ := exists_servlet?_of_not_served_again hinstalls hn hserved
  rcases urlPatterns_addTo_planFor_ne_nil_iff.mp hpatterns with hpatterns | hadded
  · exact .inl (isOverridden_iff.mpr ⟨hbefore, hpatterns⟩)
  · have hnot := (mem_unmapped.mp hadded).2.2
    have hpath := ((mem_registeredNames hkeyed).mp hn).2.resolve_right (Bool.eq_false_iff.mp hnot)
    refine .inr ⟨hpath, ⟨s, hs, fun hdispatches => ?_⟩, hnot⟩
    rw [(isServed_of_servlet? hs).mpr hdispatches] at hbefore
    cases hbefore

/-- The flag after the second registration. -/
theorem ignoresPath_again_iff (hkeyed : w.metadata.Keyed)
    (hnames : names = registeredNames w.metadata w.descriptor) :
    (carriedOut d (carriedOut d w names).state names).state.metadata.ignoreApplicationPath = true ↔
      (carriedOut d w names).state.metadata.ignoreApplicationPath = true ∨
        ∃ n, Overlooked d w n := by
  subst hnames
  simp only [carriedOut, Bool.or_eq_true, List.any_eq_true]
  constructor
  · rintro (hfirst | ⟨n, hn, hagain⟩)
    · exact .inl hfirst
    · rcases isOverridden_again hinstalls hkeyed hn hagain with hbefore | hoverlooked
      · exact .inl (.inr ⟨n, hn, hbefore⟩)
      · exact .inr ⟨n, hoverlooked⟩
  · rintro (hfirst | ⟨n, hoverlooked⟩)
    · exact .inl hfirst
    · have hn := hoverlooked.mem_registeredNames hkeyed
      exact .inr ⟨n, hn, hoverlooked.isOverridden_again hn⟩

end Applications

/-! ### Two registrations -/

/-- A default servlet that was registered is declared from then on. -/
theorem registerDefault_again (d : Dispatcher) (w : WebState) :
    (registerDefault d (registerDefault d w).state).result = .ok (.defaultServlet false) ∧
      (registerDefault d (registerDefault d w).state).state = (registerDefault d w).state := by
  have hdeclared :
      ((registerDefault d w).state.descriptor.servlet? defaultServletName).isSome = true := by
    unfold registerDefault
    split
    · next h => exact h
    · simp [WebDescriptor.addServlet, WebDescriptor.servlet?, defaultDispatcher,
        Dispatcher.install, Servlet.addInitParam]
  rw [registerDefault.eq_def d (registerDefault d w).state, if_pos hdeclared]
  exact ⟨rfl, rfl⟩

/-- Where no application counts, none counts for the second registration. -/
theorem register_again_of_eq_nil (config : Config) (loader : ClassLoader)
    (hskips : ¬ Skips w.metadata) (hnone : registeredNames w.metadata w.descriptor = []) :
    (register config loader (register config loader w).state).result =
        .ok (.defaultServlet false) ∧
      (register config loader (register config loader w).state).state =
        (register config loader w).state := by
  rw [register_of_registeredNames_eq_nil hskips hnone]
  have hmetadata := metadata_registerDefault config.dispatcher w
  have hagain : registeredNames (registerDefault config.dispatcher w).state.metadata
      (registerDefault config.dispatcher w).state.descriptor = [] := by
    rw [hmetadata, ← hnone, registerDefault]
    split <;> rfl
  rw [register_of_registeredNames_eq_nil (hmetadata ▸ hskips) hagain]
  exact registerDefault_again config.dispatcher w

/-- The second registration is for the applications of the first one. -/
theorem register_again_of_ne_nil (config : Config) (hnames : loader.KeepsNames)
    (hkeyed : w.metadata.Keyed) (hskips : ¬ Skips w.metadata)
    (hn : names = registeredNames w.metadata w.descriptor)
    (hsome : names ≠ []) (hloads : ∀ n ∈ names, ∃ handle, loader.load n = .ok handle) :
    register config loader (carriedOut config.dispatcher w names).state =
      carriedOut config.dispatcher (carriedOut config.dispatcher w names).state names := by
  have hagain : registeredNames (carriedOut config.dispatcher w names).state.metadata
      (carriedOut config.dispatcher w names).state.descriptor = names :=
    registeredNames_again (m := w.metadata) hkeyed config.dispatcher hn
  exact register_eq_carriedOut config hnames hskips hagain hsome hloads

/-- **A registration made twice.**  Under the default configuration a second registration on
what a successful one left ends well, adds no servlet and no mapping, and leaves the descriptor
as it is.  It leaves the metadata as they are exactly if there was nothing to register, or
the first registration already let a declared URL pattern take the place of an application
path, or no application was overlooked. -/
theorem register_twice_unchanged_iff (hnames : loader.KeepsNames) (hkeyed : w.metadata.Keyed)
    (hok : ∃ registration, (register {} loader w).result = .ok registration) :
    (∃ registration, (register {} loader (register {} loader w).state).result = .ok registration ∧
      AddedNothing registration) ∧
    (register {} loader (register {} loader w).state).state.descriptor =
      (register {} loader w).state.descriptor ∧
    ((register {} loader (register {} loader w).state).state.metadata =
        (register {} loader w).state.metadata ↔
      Skips w.metadata ∨ (register {} loader w).state.metadata.ignoreApplicationPath = true ∨
        ∀ n, ¬ Overlooked {} w n) := by
  by_cases hskips : Skips w.metadata
  · have hskipped : (∃ reason, (register {} loader w).result = .ok (.skipped reason)) ∧
        (register {} loader w).state = w := register_of_skips hskips
    obtain ⟨⟨reason, hreason⟩, hstate⟩ := hskipped
    rw [hstate]
    exact ⟨⟨_, hreason, .skipped reason⟩, by rw [hstate],
      iff_of_true (by rw [hstate]) (.inl hskips)⟩
  · by_cases hnone : registeredNames w.metadata w.descriptor = []
    · obtain ⟨hresult, hstate⟩ := register_again_of_eq_nil {} loader hskips hnone
      rw [hresult, hstate]
      exact ⟨⟨_, rfl, .defaultDeclared⟩, rfl,
        iff_of_true rfl (.inr (.inr (not_overlooked_of_eq_nil hkeyed hnone)))⟩
    · have hloads := (isOk_register_iff _ _ _).mp hok hskips
      have hfirst := register_eq_carriedOut {} hnames hskips rfl hnone hloads
      have hsecond := register_again_of_ne_nil {} hnames hkeyed hskips rfl hnone hloads
      obtain ⟨hresult, hdescriptor⟩ :=
        carriedOut_again dispatches_applicationDispatcher w
          (registeredNames w.metadata w.descriptor)
      have hflag := ignoresPath_again_iff dispatches_applicationDispatcher hkeyed rfl
      rw [hfirst, hsecond]
      refine ⟨⟨_, hresult, .allPresent⟩, hdescriptor, ?_⟩
      -- the flag is the only thing that can differ, and it can only be set
      rw [metadata_carriedOut_eq_iff, Bool.eq_iff_iff, hflag, or_iff_left_iff_imp, imp_iff_or_not,
        not_exists, or_iff_right hskips]

/-- The servlet of an application that runs on a class of its own. -/
def ownShop : Servlet := { name := "Shop", servletClass := some "Own" }

/-- Without a declared servlet the second registration changes nothing.  With one that runs on
a class of its own it sets the flag. -/
theorem register_twice_unchanged_iff_shop :
    (Accepted {} shopLoader (shopDeclaring []) "Shop" ∧
      (register {} shopLoader (register {} shopLoader (shopDeclaring [])).state).state.metadata =
        (register {} shopLoader (shopDeclaring [])).state.metadata) ∧
    (Accepted {} shopLoader (shopDeclaring [ownShop]) "Shop" ∧
      (register {} shopLoader
          (register {} shopLoader (shopDeclaring [ownShop])).state).state.metadata ≠
        (register {} shopLoader (shopDeclaring [ownShop])).state.metadata) := by
  have hbare := accepted_shopDeclaring []
  have hown := accepted_shopDeclaring [ownShop]
  have hoverlooked : Overlooked {} (shopDeclaring [ownShop]) "Shop" := by
    refine ⟨rfl, ⟨ownShop, rfl, ?_⟩, rfl⟩
    rintro ⟨hclass, -⟩
    exact absurd hclass (by decide)
  obtain ⟨-, -, hbareUnchanged⟩ :=
    register_twice_unchanged_iff hbare.keepsNames hbare.keyed hbare.ends_well
  obtain ⟨-, -, hownUnchanged⟩ :=
    register_twice_unchanged_iff hown.keepsNames hown.keyed hown.ends_well
  refine ⟨⟨hbare, hbareUnchanged.mpr (.inr (.inr fun n h => ?_))⟩, hown, fun hsame => ?_⟩
  · obtain ⟨s, hs, -⟩ := h.declared
    cases hs
  · rcases hownUnchanged.mp hsame with hskips | hflag | hnone
    · exact hown.not_skipped hskips
    · revert hflag
      decide +kernel
    · exact hnone "Shop" hoverlooked

/-- **A second registration does not always leave the metadata as they are.**  A declared
servlet of the application's name gets a mapping by the first one; the second one takes this
mapping for a declared one and sets the flag. -/
theorem not_register_twice_unchanged :
    shopLoader.KeepsNames ∧ (shopDeclaring [ownShop]).metadata.Keyed ∧
    (∃ registration, (register {} shopLoader (shopDeclaring [ownShop])).result =
      .ok registration) ∧
    (register {} shopLoader (shopDeclaring [ownShop])).state.metadata.ignoreApplicationPath =
      false ∧
    (register {} shopLoader (register {} shopLoader (shopDeclaring [ownShop])).state
      ).state.metadata.ignoreApplicationPath = true := by
  have hown := accepted_shopDeclaring [ownShop]
  exact ⟨hown.keepsNames, hown.keyed, hown.ends_well, by decide +kernel, by decide +kernel⟩

end Registration

end RestDeployment
