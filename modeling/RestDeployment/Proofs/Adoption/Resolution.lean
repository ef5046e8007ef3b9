import RestDeployment.Proofs.Adoption.Effect

/-!
# Which servlet classes an inspection resolves

An inspection loads the classes of the declared servlets one after the other, and at the first
application it is done.  What stands before that has to be loadable, what stands behind it is
never asked for: a loader that knows more or less of the classes there leads to the very same
inspection.  So an inspection that ends well has resolved all classes exactly if those behind the
adopted servlet happen to be loadable (`resolves_up_to_application`).

## Strategy

A search ends in one of three ways: at the end of the list, at an application or at a class that
is missing.  The first two are told apart in `isOk_candidate?_iff_loadable`, the third is named by
its position in `FirstMissing`, as `FirstServing` names the second.  That the rest of the list is
not read (`candidate?_congr_loader`) is an induction on what stands before the application.
-/

namespace RestDeployment.Adoption

variable {config : Config} {h : Hierarchy} {loader loader' : ClassLoader}
  {servlets before after : List Servlet} {s : Servlet} {web : WebDescriptor} {n : String} {p : Nat}

/-- Every declared class that looks like a dispatcher is an allowed one. -/
def NoConflict (config : Config) (web : WebDescriptor) : Prop :=
  ∀ n, web.DeclaresClass n →
    simpleName n ∈ config.dispatcher.recognizedNames → n ∈ config.dispatcher.allowedClasses

/-- The class of every servlet that has one can be loaded. -/
def Loadable (loader : ClassLoader) (servlets : List Servlet) : Prop :=
  ∀ s ∈ servlets, ∀ n, s.servletClass = some n → ∃ handle, loader.load n = .ok handle

theorem loadable_of_passedOver (hpassed : ∀ s ∈ servlets, PassedOver h loader s) :
    Loadable loader servlets := by
  intro s hs n hclass
  obtain ⟨handle, hload, -⟩ := hpassed s hs n hclass
  exact ⟨handle, hload⟩

/-! ### The parts of a list around a servlet -/

theorem split_at_getElem? (hs : servlets[p]? = some s) :
    servlets = servlets.take p ++ s :: servlets.drop (p + 1) := by
  obtain ⟨hp, rfl⟩ := List.getElem?_eq_some_iff.mp hs
  rw [← List.drop_eq_getElem_cons hp, List.take_append_drop]

/-- Around the first servlet of an application all classes can be loaded exactly if those before
and those behind it can. -/
theorem FirstServing.loadable_iff (hfirst : FirstServing h loader servlets p s n) :
    Loadable loader servlets ↔
      Loadable loader (servlets.take p) ∧ Loadable loader (servlets.drop (p + 1)) := by
  have hsplit := split_at_getElem? hfirst.position
  constructor
  · intro hall
    constructor
    · intro t ht
      exact hall t (List.mem_of_mem_take ht)
    · intro t ht
      exact hall t (List.mem_of_mem_drop ht)
  · rintro ⟨hbefore, hbehind⟩ t ht m hclass
    rw [hsplit, List.mem_append, List.mem_cons] at ht
    rcases ht with ht | rfl | ht
    · exact hbefore t ht m hclass
    · rw [hfirst.declares, Option.some.injEq] at hclass
      obtain ⟨handle, hload, -⟩ := hfirst.application
      exact ⟨handle, hclass ▸ hload⟩
    · exact hbehind t ht m hclass

/-! ### When the search ends well -/

theorem resolvedThrough_of_firstServing (hfirst : FirstServing h loader servlets p s n)
    (hbefore : Loadable loader (servlets.take p)) :
    ResolvedThrough (LoadsApplication h loader) (fun m => ∃ handle, loader.load m = .ok handle)
      servlets := by
  intro before t after m hsplit hclass hno
  have ht : servlets[before.length]? = some t := by rw [hsplit, getElem?_length_append_cons]
  rcases Nat.lt_trichotomy before.length p with hlt | heq | hgt
  · refine hbefore t (List.mem_of_getElem? (i := before.length) ?_) m hclass
    rw [List.getElem?_take_of_lt hlt, ht]
  · rw [heq, hfirst.position, Option.some.injEq] at ht
    rw [← ht, hfirst.declares, Option.some.injEq] at hclass
    obtain ⟨handle, hload, -⟩ := hfirst.application
    exact ⟨handle, hclass ▸ hload⟩
  · -- the application stands before this servlet, where there is none
    have hs : before[p]? = some s := by
      rw [← List.getElem?_append_left hgt, ← hsplit, hfirst.position]
    exact absurd hfirst.application (hno s (List.mem_of_getElem? hs) n hfirst.declares)

/-- The search ends well exactly if all classes can be loaded, or all before an application. -/
theorem isOk_candidate?_iff_loadable :
    (∃ found, candidate? h loader servlets = .ok found) ↔
      Loadable loader servlets ∨
        ∃ p s n, FirstServing h loader servlets p s n ∧ Loadable loader (servlets.take p) := by
  constructor
  · rintro ⟨found, hfound⟩
    cases found with
    | none => exact .inl (loadable_of_passedOver (candidate?_eq_none_iff.mp hfound))
    | some c =>
        obtain ⟨hsplit, -, hbefore⟩ := candidate?_eq_some_iff.mp hfound
        refine .inr ⟨_, _, _, firstServing_of_candidate? hfound, ?_⟩
        rw [hsplit, List.take_left]
        exact loadable_of_passedOver hbefore
  · intro hloads
    refine (isOk_candidate?_iff fun m handle => descends_iff_loadsApplication).mpr ?_
    rcases hloads with hall | ⟨p, s, n, hfirst, hbefore⟩
    · intro before t after m hsplit hclass _
      refine hall t ?_ m hclass
      rw [hsplit]
      exact List.mem_append_right _ List.mem_cons_self
    · exact resolvedThrough_of_firstServing hfirst hbefore

/-- An inspection ends well exactly if no declared class conflicts with the dispatcher, and all
servlet classes can be loaded, or all before an application. -/
theorem isOk_adopt_iff_loadable :
    (∃ i, (adopt config h loader web).result = .ok i) ↔
      NoConflict config web ∧ (Loadable loader web.servlets ∨
        ∃ p s n, FirstServing h loader web.servlets p s n ∧
          Loadable loader (web.servlets.take p)) := by
  rw [NoConflict, isOk_adopt_iff, ← isOk_candidate?_iff_loadable,
    isOk_candidate?_iff fun m handle => descends_iff_loadsApplication]

/-! ### When the search fails -/

/-- The class of the servlet at a position cannot be loaded, and the search gets there. -/
structure FirstMissing (h : Hierarchy) (loader : ClassLoader) (servlets : List Servlet) (p : Nat)
    (s : Servlet) (n : String) (e : LoadError) : Prop where
  position : servlets[p]? = some s
  declares : s.servletClass = some n
  missing : loader.load n = .error e
  passed : ∀ t ∈ servlets.take p, PassedOver h loader t

theorem candidate?_of_missing {e : LoadError} (hbefore : ∀ t ∈ before, PassedOver h loader t)
    (hclass : s.servletClass = some n) (hload : loader.load n = .error e) :
    candidate? h loader (before ++ s :: after) = .error (.ofLoadError e) := by
  induction before with
  | nil => exact candidate?_of_load_error hclass hload
  | cons t before ih =>
      rw [List.forall_mem_cons] at hbefore
      rw [List.cons_append, candidate?_of_passedOver hbefore.1, ih hbefore.2]
      rfl

theorem exists_firstMissing {fault : Fault}
    (hfault : candidate? h loader servlets = .error fault) :
    ∃ p s n e, FirstMissing h loader servlets p s n e ∧ fault = .ofLoadError e := by
  induction servlets with
  | nil => cases hfault
  | cons s servlets ih =>
      rcases passedOver_or_serves_or_error h loader s with hs | ⟨n, hs⟩ | ⟨n, e, hclass, hload⟩
      · have hrest : candidate? h loader servlets = .error fault := by
          rw [candidate?_of_passedOver hs] at hfault
          cases hrest : candidate? h loader servlets with
          | error fault' =>
              rw [hrest] at hfault
              exact hfault
          | ok found =>
              rw [hrest] at hfault
              cases hfault
        -- the missing class stands one place further back in the whole list
        obtain ⟨p, t, n, e, hmissing, rfl⟩ := ih hrest
        refine ⟨p + 1, t, n, e, ⟨?_, hmissing.declares, hmissing.missing, ?_⟩, rfl⟩
        · rw [List.getElem?_cons_succ, hmissing.position]
        · rw [List.take_succ_cons, List.forall_mem_cons]
          exact ⟨hs, hmissing.passed⟩
      · rw [candidate?_of_serves hs] at hfault
        cases hfault
      · rw [candidate?_of_load_error hclass hload, Except.error.injEq] at hfault
        exact ⟨0, s, n, e, ⟨rfl, hclass, hload, fun t ht => nomatch ht⟩, hfault.symm⟩

/-- Where nothing conflicts, an inspection fails at the first class that is missing. -/
theorem adopt_result_eq_error_iff {fault : Fault} (hallowed : NoConflict config web) :
    (adopt config h loader web).result = .error fault ↔
      ∃ p s n e, FirstMissing h loader web.servlets p s n e ∧ fault = .ofLoadError e := by
  have hconflict : web.conflict? config.dispatcher = none :=
    conflict?_eq_none_iff_declaresClass.mpr hallowed
  constructor
  · intro hfault
    cases hfound : candidate? h loader web.servlets with
    | error missing =>
        rw [(adopt_of_error hconflict hfound).1] at hfault
        cases hfault
        exact exists_firstMissing hfound
    | ok found =>
        have hok := adopt_result_eq_ok_iff.mpr ⟨hconflict, found, hfound, rfl⟩
        rw [hfault] at hok
        cases hok
  · rintro ⟨p, s, n, e, hmissing, rfl⟩
    refine (adopt_of_error hconflict ?_).1
    rw [split_at_getElem? hmissing.position]
    exact candidate?_of_missing hmissing.passed hmissing.declares hmissing.missing

/-! ### Where the search ends -/

/-- Two loaders that agree on the servlets up to an application lead to the same search. -/
theorem candidate?_congr_loader (hserves : Serves h loader s n)
    (hagree : ∀ t ∈ before ++ [s], ∀ m, t.servletClass = some m →
      loader'.load m = loader.load m) :
    candidate? h loader' (before ++ s :: after) = candidate? h loader (before ++ s :: after) := by
  induction before with
  | nil =>
      obtain ⟨hclass, handle, hload, happlication⟩ := id hserves
      have hload' : loader'.load n = .ok handle := by
        rw [hagree s (List.mem_singleton_self s) n hclass, hload]
      rw [List.nil_append, candidate?_of_serves hserves,
        candidate?_of_serves ⟨hclass, handle, hload', happlication⟩]
  | cons t before ih =>
      have hrest := ih fun u hu => hagree u (List.mem_cons_of_mem _ hu)
      cases hclass : t.servletClass with
      | none => simp only [List.cons_append, candidate?, hclass, hrest]
      | some m =>
          have hload := hagree t List.mem_cons_self m hclass
          simp only [List.cons_append, candidate?, hclass, hload, hrest]

theorem adopt_congr_loader (hfirst : FirstServing h loader web.servlets p s n)
    (hagree : ∀ t ∈ web.servlets.take (p + 1), ∀ m, t.servletClass = some m →
      loader'.load m = loader.load m) :
    adopt config h loader' web = adopt config h loader web := by
  have htake : web.servlets.take (p + 1) = web.servlets.take p ++ [s] := by
    rw [List.take_add_one, hfirst.position, Option.toList_some]
  have hsearch : candidate? h loader' web.servlets = candidate? h loader web.servlets := by
    rw [split_at_getElem? hfirst.position]
    refine candidate?_congr_loader (serves_iff.mpr ⟨hfirst.declares, hfirst.application⟩) ?_
    rw [← htake]
    exact hagree
  rw [adopt, adopt, hsearch]

/-- **An inspection resolves the servlet classes up to the first application.**  It ends well
exactly if no declared class conflicts with the dispatcher and all servlet classes can be loaded,
or all those before an application.  If nothing conflicts, what fails it is the first class that
is missing.  If it ends well, all classes can be loaded exactly if those behind the first
application can; but whether they can makes no difference to it. -/
theorem resolves_up_to_application (config : Config) (h : Hierarchy) (loader : ClassLoader)
    (web : WebDescriptor) :
    ((∃ i, (adopt config h loader web).result = .ok i) ↔
      NoConflict config web ∧ (Loadable loader web.servlets ∨
        ∃ p s n, FirstServing h loader web.servlets p s n ∧
          Loadable loader (web.servlets.take p))) ∧
    (NoConflict config web → ∀ fault, (adopt config h loader web).result = .error fault ↔
      ∃ p s n e, FirstMissing h loader web.servlets p s n e ∧ fault = .ofLoadError e) ∧
    (∀ i, (adopt config h loader web).result = .ok i →
      (Loadable loader web.servlets ↔ ∀ p s n, FirstServing h loader web.servlets p s n →
        Loadable loader (web.servlets.drop (p + 1)))) ∧
    ∀ p s n loader', FirstServing h loader web.servlets p s n →
      (∀ t ∈ web.servlets.take (p + 1), ∀ m, t.servletClass = some m →
        loader'.load m = loader.load m) →
      adopt config h loader' web = adopt config h loader web := by
  refine ⟨isOk_adopt_iff_loadable, ?_, ?_, ?_⟩
  · intro hallowed fault
    exact adopt_result_eq_error_iff hallowed
  · intro i hok
    constructor
    · intro hall p s n hfirst
      exact (hfirst.loadable_iff.mp hall).2
    · intro hbehind
      obtain ⟨-, hall | ⟨p, s, n, hfirst, hbefore⟩⟩ := isOk_adopt_iff_loadable.mp ⟨i, hok⟩
      · exact hall
      · exact hfirst.loadable_iff.mpr ⟨hbefore, hbehind p s n hfirst⟩
  · intro p s n loader' hfirst hagree
    exact adopt_congr_loader hfirst hagree

/-- A servlet of the class `Shop`, which extends the application class, with some parameters. -/
def shopServlet (params : List Param) : Servlet where
  name := "shop"
  servletClass := some "Shop"
  initParams := params

/-- A servlet of a class that nobody knows. -/
def lostServlet : Servlet := { name := "lost", servletClass := some "Lost" }

theorem firstServing_shopServlet (params : List Param) (behind : List Servlet) :
    FirstServing declaredHierarchy declaredLoader (shopServlet params :: behind) 0
      (shopServlet params) "Shop" where
  position := rfl
  declares := rfl
  application := ⟨_, rfl, .head ⟨_, rfl, rfl⟩ (.single ⟨_, rfl, rfl⟩)⟩
  first q _ _ hq := absurd hq (Nat.not_lt_zero q)

theorem noConflict_declaring_shopServlet (params : List Param) :
    NoConflict {} (declaring [shopServlet params, lostServlet]) := by
  have hclasses : (declaring [shopServlet params, lostServlet]).declaredClasses =
      ["Shop", "Lost", "org.jboss.wsf.spi.deployment.WSFServlet"] := rfl
  refine conflict?_eq_none_iff_declaresClass.mp ((WebDescriptor.conflict?_eq_none_iff _ _).mpr ?_)
  rw [hclasses]
  decide

/-- The inspection ends well although the class of the second servlet is missing. -/
theorem isOk_adopt_shopServlet (params : List Param) :
    ∃ i, (adopt {} declaredHierarchy declaredLoader
      (declaring [shopServlet params, lostServlet])).result = .ok i := by
  have hfirst := firstServing_shopServlet params [lostServlet]
  exact isOk_adopt_iff_loadable.mpr ⟨noConflict_declaring_shopServlet params,
    .inr ⟨0, _, _, hfirst, fun t ht => nomatch ht⟩⟩

/-- The application stands before the servlet whose class is missing, so the inspection ends well
and is the same for a loader that knows that class.  The other way round it fails. -/
theorem resolves_up_to_application_lostServlet :
    FirstServing declaredHierarchy declaredLoader [shopServlet [], lostServlet] 0 (shopServlet [])
        "Shop" ∧
      NoConflict {} (declaring [shopServlet [], lostServlet]) ∧
      (∃ i, (adopt {} declaredHierarchy declaredLoader
        (declaring [shopServlet [], lostServlet])).result = .ok i) ∧
      adopt {} declaredHierarchy ((ClassTable.ofList declaredClasses).loader ["Lost"])
          (declaring [shopServlet [], lostServlet]) =
        adopt {} declaredHierarchy declaredLoader (declaring [shopServlet [], lostServlet]) ∧
      (adopt {} declaredHierarchy declaredLoader
        (declaring [lostServlet, shopServlet []])).result = .error (.classNotFound "Lost") := by
  have hfirst := firstServing_shopServlet [] [lostServlet]
  obtain ⟨hok, -, -, hsame⟩ := resolves_up_to_application {} declaredHierarchy declaredLoader
    (declaring [shopServlet [], lostServlet])
  obtain ⟨-, hfails, -⟩ := resolves_up_to_application {} declaredHierarchy declaredLoader
    (declaring [lostServlet, shopServlet []])
  have hallowed : NoConflict {} (declaring [lostServlet, shopServlet []]) :=
    conflict?_eq_none_iff_declaresClass.mp rfl
  have hmissing : FirstMissing declaredHierarchy declaredLoader [lostServlet, shopServlet []] 0
      lostServlet "Lost" (.notFound "Lost") := ⟨rfl, rfl, rfl, fun t ht => nomatch ht⟩
  refine ⟨hfirst, noConflict_declaring_shopServlet [], hok.mpr ?_, hsame 0 _ _ _ hfirst ?_,
    (hfails hallowed _).mpr ⟨0, _, _, _, hmissing, rfl⟩⟩
  · exact ⟨noConflict_declaring_shopServlet [], .inr ⟨0, _, _, hfirst, fun t ht => nomatch ht⟩⟩
  · intro t ht m hclass
    obtain rfl : t = shopServlet [] := List.mem_singleton.mp ht
    cases hclass
    rfl

/-- **Not every servlet class is resolved.**  An inspection ends well although the class of a
servlet behind the application cannot be loaded. -/
theorem not_all_resolved :
    (∃ i, (adopt {} declaredHierarchy declaredLoader
        (declaring [shopServlet [], lostServlet])).result = .ok i) ∧
      ∃ s ∈ (declaring [shopServlet [], lostServlet]).servlets, ∃ n,
        s.servletClass = some n ∧ ∀ handle, declaredLoader.load n ≠ .ok handle := by
  constructor
  · exact isOk_adopt_shopServlet []
  · refine ⟨lostServlet, List.mem_cons_of_mem _ (List.mem_singleton_self _), "Lost", rfl, ?_⟩
    intro handle hload
    cases hload

end RestDeployment.Adoption
