import RestDeployment.Adoption

/-!
# When a descriptor passes inspection and which servlet is adopted

The search for a servlet to adopt goes through the declared servlets in order.  It passes
over those without class and those whose class was loaded and is no application
(`PassedOver`), and ends at the first application (`candidate?_eq_some_iff`), at the end of
the list (`candidate?_eq_none_iff`) or at a class that cannot be loaded.  `isOk_candidate?_iff`
says which classes have to be loadable, without mention of the search.

An inspection fails at a conflicting class or where the search fails
(`adopt_result_eq_ok_iff`).
All that it changes in a descriptor is the list of servlets (`adopt_state`).
-/

namespace RestDeployment

namespace WebDescriptor

theorem conflict?_eq_none_iff (web : WebDescriptor) (d : Dispatcher) :
    web.conflict? d = none ↔ ∀ n ∈ web.declaredClasses, d.conflicts n = false := by
  simp only [conflict?, declaredClasses, Option.map_eq_none_iff, List.find?_eq_none,
    List.forall_mem_map, Bool.not_eq_true]

theorem mem_declaredClasses {web : WebDescriptor} {n : String} :
    n ∈ web.declaredClasses ↔
      (∃ s ∈ web.servlets, s.servletClass = some n) ∨
        ∃ f ∈ web.filters, f.filterClass = some n := by
  simp only [declaredClasses, declarations, servletClasses, filterClasses, List.map_append,
    List.mem_append, List.mem_map, List.mem_filterMap, Option.map_eq_some_iff]
  constructor
  · rintro (⟨_, ⟨s, hs, n, hn, rfl⟩, rfl⟩ | ⟨_, ⟨f, hf, n, hn, rfl⟩, rfl⟩)
    · exact .inl ⟨s, hs, hn⟩
    · exact .inr ⟨f, hf, hn⟩
  · rintro (⟨s, hs, hn⟩ | ⟨f, hf, hn⟩)
    · exact .inl ⟨_, ⟨s, hs, n, hn, rfl⟩, rfl⟩
    · exact .inr ⟨_, ⟨f, hf, n, hn, rfl⟩, rfl⟩

theorem declaresBootClass_eq_true_iff {config : Config} {web : WebDescriptor} :
    web.declaresBootClass config = true ↔
      ∃ n ∈ web.declaredClasses, n ∈ config.bootClasses := by
  simp [WebDescriptor.declaresBootClass, Config.isBootClass]

/-- Where the dispatcher class is a boot class, a descriptor without boot classes has no
servlet of the dispatcher class. -/
theorem servletClass_ne_of_no_boot {config : Config} {web : WebDescriptor}
    (hboot : config.dispatcher.servletClass ∈ config.bootClasses)
    (hnone : web.declaresBootClass config = false) :
    ∀ s ∈ web.servlets, s.servletClass ≠ some config.dispatcher.servletClass := by
  intro s hs hclass
  have hdeclared : web.declaresBootClass config = true :=
    declaresBootClass_eq_true_iff.mpr
      ⟨_, mem_declaredClasses.mpr (.inl ⟨s, hs, hclass⟩), hboot⟩
  rw [hnone] at hdeclared
  cases hdeclared

end WebDescriptor

namespace Dispatcher

theorem conflicts_eq_true_iff {d : Dispatcher} {n : String} :
    d.conflicts n = true ↔ simpleName n ∈ d.recognizedNames ∧ n ∉ d.allowedClasses := by
  simp [conflicts]

end Dispatcher

namespace Adoption

variable {config : Config} {h : Hierarchy} {loader : ClassLoader} {servlets : List Servlet}
  {s : Servlet} {web : WebDescriptor} {n : String}

/-- The place behind the first part of a list. -/
theorem getElem?_length_append_cons {α : Type} (before after : List α) (a : α) :
    (before ++ a :: after)[before.length]? = some a := by
  rw [List.getElem?_append_right (Nat.le_refl _), Nat.sub_self, List.getElem?_cons_zero]

/-! ### The search for a servlet -/

/-- A servlet that the search goes past: it has no class, or its class was loaded and is no
application. -/
def PassedOver (h : Hierarchy) (loader : ClassLoader) (s : Servlet) : Prop :=
  ∀ n, s.servletClass = some n →
    ∃ handle, loader.load n = .ok handle ∧ h.descends handle applicationClass = false

/-- A servlet of an application class that was loaded. -/
def Serves (h : Hierarchy) (loader : ClassLoader) (s : Servlet) (n : String) : Prop :=
  s.servletClass = some n ∧
    ∃ handle, loader.load n = .ok handle ∧ h.descends handle applicationClass = true

theorem candidate?_of_passedOver (hs : PassedOver h loader s) :
    candidate? h loader (s :: servlets) =
      (candidate? h loader servlets).map fun found =>
        found.map fun c => { c with before := s :: c.before } := by
  cases hclass : s.servletClass with
  | none => simp [candidate?, hclass]
  | some n =>
      obtain ⟨handle, hload, hno⟩ := hs n hclass
      simp [candidate?, hclass, hload, hno]

theorem candidate?_of_serves (hs : Serves h loader s n) :
    candidate? h loader (s :: servlets) = .ok (some ⟨[], s, n, servlets⟩) := by
  obtain ⟨hclass, handle, hload, happlication⟩ := hs
  simp [candidate?, hclass, hload, happlication]

theorem candidate?_of_load_error {e : LoadError} (hclass : s.servletClass = some n)
    (hload : loader.load n = .error e) :
    candidate? h loader (s :: servlets) = .error (.ofLoadError e) := by
  simp [candidate?, hclass, hload]

/-- A servlet is passed over, or its class is an application, or it cannot be loaded. -/
theorem passedOver_or_serves_or_error (h : Hierarchy) (loader : ClassLoader) (s : Servlet) :
    PassedOver h loader s ∨ (∃ n, Serves h loader s n) ∨
      ∃ n e, s.servletClass = some n ∧ loader.load n = .error e := by
  cases hclass : s.servletClass with
  | none =>
      left
      intro n hn
      rw [hclass] at hn
      cases hn
  | some n =>
      cases hload : loader.load n with
      | error e => exact .inr (.inr ⟨n, e, rfl, hload⟩)
      | ok handle =>
          cases happlication : h.descends handle applicationClass with
          | true => exact .inr (.inl ⟨n, hclass, handle, hload, happlication⟩)
          | false =>
              left
              intro n' hn'
              rw [hclass] at hn'
              cases hn'
              exact ⟨handle, hload, happlication⟩

theorem Serves.not_passedOver (hs : Serves h loader s n) : ¬ PassedOver h loader s := by
  intro hpassed
  obtain ⟨hclass, handle, hload, happlication⟩ := hs
  obtain ⟨handle', hload', hno⟩ := hpassed n hclass
  rw [hload] at hload'
  cases hload'
  rw [happlication] at hno
  cases hno

theorem not_passedOver_of_error {e : LoadError} (hclass : s.servletClass = some n)
    (hload : loader.load n = .error e) : ¬ PassedOver h loader s := by
  intro hpassed
  obtain ⟨handle, hload', -⟩ := hpassed n hclass
  rw [hload] at hload'
  cases hload'

/-- The search finds nothing exactly if it goes past every servlet. -/
theorem candidate?_eq_none_iff :
    candidate? h loader servlets = .ok none ↔ ∀ s ∈ servlets, PassedOver h loader s := by
  induction servlets with
  | nil => simp [candidate?]
  | cons s servlets ih =>
      rw [List.forall_mem_cons, ← ih]
      rcases passedOver_or_serves_or_error h loader s with hs | ⟨n, hs⟩ | ⟨n, e, hclass, hload⟩
      · rw [candidate?_of_passedOver hs]
        cases candidate? h loader servlets with
        | error fault => simp [Except.map]
        | ok found => cases found <;> simp [Except.map, hs]
      · simp [candidate?_of_serves hs, hs.not_passedOver]
      · simp [candidate?_of_load_error hclass hload, not_passedOver_of_error hclass hload]

theorem candidate?_of_split {before after : List Servlet}
    (hbefore : ∀ t ∈ before, PassedOver h loader t) (hs : Serves h loader s n) :
    candidate? h loader (before ++ s :: after) = .ok (some ⟨before, s, n, after⟩) := by
  induction before with
  | nil => exact candidate?_of_serves hs
  | cons t before ih =>
      rw [List.forall_mem_cons] at hbefore
      rw [List.cons_append, candidate?_of_passedOver hbefore.1, ih hbefore.2]
      rfl

theorem split_of_candidate? {c : Candidate} (hc : candidate? h loader servlets = .ok (some c)) :
    servlets = c.before ++ c.servlet :: c.after ∧ Serves h loader c.servlet c.application ∧
      ∀ t ∈ c.before, PassedOver h loader t := by
  induction servlets generalizing c with
  | nil => simp [candidate?] at hc
  | cons s servlets ih =>
      rcases passedOver_or_serves_or_error h loader s with hs | ⟨n, hs⟩ | ⟨n, e, hclass, hload⟩
      · -- the servlet that was found is one of the others
        rw [candidate?_of_passedOver hs] at hc
        cases hrest : candidate? h loader servlets with
        | error fault => simp [hrest, Except.map] at hc
        | ok found =>
            cases found with
            | none => simp [hrest, Except.map] at hc
            | some c' =>
                obtain ⟨hsplit, hserves, hbefore⟩ := ih hrest
                simp only [hrest, Except.map, Option.map_some, Except.ok.injEq,
                  Option.some.injEq] at hc
                rw [← hc]
                exact ⟨by rw [hsplit, List.cons_append], hserves,
                  List.forall_mem_cons.mpr ⟨hs, hbefore⟩⟩
      · rw [candidate?_of_serves hs] at hc
        cases hc
        exact ⟨rfl, hs, fun t ht => absurd ht List.not_mem_nil⟩
      · rw [candidate?_of_load_error hclass hload] at hc
        cases hc

/-- The search finds the first servlet whose class is an application. -/
theorem candidate?_eq_some_iff {c : Candidate} :
    candidate? h loader servlets = .ok (some c) ↔
      servlets = c.before ++ c.servlet :: c.after ∧ Serves h loader c.servlet c.application ∧
        ∀ t ∈ c.before, PassedOver h loader t := by
  constructor
  · exact split_of_candidate?
  · rintro ⟨hsplit, hserves, hbefore⟩
    rw [hsplit]
    exact candidate?_of_split hbefore hserves

theorem exists_of_candidate?_eq_error {fault : Fault}
    (hfault : candidate? h loader servlets = .error fault) : ∃ e, fault = .ofLoadError e := by
  induction servlets with
  | nil => simp [candidate?] at hfault
  | cons s servlets ih =>
      rcases passedOver_or_serves_or_error h loader s with hs | ⟨n, hs⟩ | ⟨n, e, hclass, hload⟩
      · rw [candidate?_of_passedOver hs] at hfault
        cases hrest : candidate? h loader servlets with
        | error fault' =>
            simp only [hrest, Except.map, Except.error.injEq] at hfault
            exact ih (hrest.trans (by rw [hfault]))
        | ok found => simp [hrest, Except.map] at hfault
      · simp [candidate?_of_serves hs] at hfault
      · rw [candidate?_of_load_error hclass hload] at hfault
        exact ⟨e, (Except.error.inj hfault).symm⟩

/-! ### Which classes have to be loadable -/

/-- Every class up to and including the first application has the property `loads`. -/
def ResolvedThrough (application loads : String → Prop) (servlets : List Servlet) : Prop :=
  ∀ before s after n, servlets = before ++ s :: after → s.servletClass = some n →
    (∀ t ∈ before, ∀ m, t.servletClass = some m → ¬ application m) → loads n

theorem resolvedThrough_cons {application loads : String → Prop} :
    ResolvedThrough application loads (s :: servlets) ↔
      (∀ n, s.servletClass = some n → loads n) ∧
        ((∀ n, s.servletClass = some n → ¬ application n) →
          ResolvedThrough application loads servlets) := by
  constructor
  · intro hresolved
    refine ⟨fun n hclass => ?_, fun hno before t after n hsplit hclass hbefore => ?_⟩
    · exact hresolved [] s servlets n rfl hclass fun t ht => absurd ht List.not_mem_nil
    · refine hresolved (s :: before) t after n (by rw [hsplit, List.cons_append]) hclass ?_
      exact List.forall_mem_cons.mpr ⟨hno, hbefore⟩
  · rintro ⟨hfirst, hrest⟩ before t after n hsplit hclass hbefore
    cases before with
    | nil =>
        rw [List.nil_append, List.cons.injEq] at hsplit
        rw [← hsplit.1] at hclass
        exact hfirst n hclass
    | cons b before =>
        rw [List.cons_append, List.cons.injEq] at hsplit
        rw [List.forall_mem_cons, ← hsplit.1] at hbefore
        exact hrest hbefore.1 before t after n hsplit.2 hclass hbefore.2

/-- The search ends well exactly if every class up to and including the first application
can be loaded. -/
theorem isOk_candidate?_iff {application : String → Prop}
    (happlication : ∀ n handle, loader.load n = .ok handle →
      (h.descends handle applicationClass = true ↔ application n)) :
    (∃ found, candidate? h loader servlets = .ok found) ↔
      ResolvedThrough application (fun n => ∃ handle, loader.load n = .ok handle) servlets := by
  induction servlets with
  | nil => simp [candidate?, ResolvedThrough]
  | cons s servlets ih =>
      rw [resolvedThrough_cons, ← ih]
      rcases passedOver_or_serves_or_error h loader s with hs | ⟨n, hs⟩ | ⟨n, e, hclass, hload⟩
      · have hloads : ∀ n, s.servletClass = some n → ∃ handle, loader.load n = .ok handle := by
          intro n hclass
          obtain ⟨handle, hload, -⟩ := hs n hclass
          exact ⟨handle, hload⟩
        have hno : ∀ n, s.servletClass = some n → ¬ application n := by
          intro n hclass
          obtain ⟨handle, hload, hdescends⟩ := hs n hclass
          rw [← happlication n handle hload, hdescends]
          exact Bool.false_ne_true
        rw [and_iff_right hloads, imp_iff_right hno, candidate?_of_passedOver hs]
        cases candidate? h loader servlets with
        | error fault => simp [Except.map]
        | ok found => simp [Except.map]
      · -- the search ends here, and what comes after does not matter
        obtain ⟨hclass, handle, hload, hdescends⟩ := hs
        have happ : application n := (happlication n handle hload).mp hdescends
        simp [candidate?_of_serves ⟨hclass, handle, hload, hdescends⟩, hclass, hload, happ]
      · simp [candidate?_of_load_error hclass hload, hclass, hload]

/-- Whether the search finds a servlet depends on the declared classes alone. -/
theorem isSome_candidate_iff {application : String → Prop}
    (happlication : ∀ n handle, loader.load n = .ok handle →
      (h.descends handle applicationClass = true ↔ application n))
    {found : Option Candidate} (hfound : candidate? h loader servlets = .ok found) :
    found.isSome = true ↔ ∃ s ∈ servlets, ∃ n, s.servletClass = some n ∧ application n := by
  cases found with
  | none =>
      have hpassed := candidate?_eq_none_iff.mp hfound
      refine iff_of_false Bool.false_ne_true ?_
      rintro ⟨s, hs, n, hclass, happ⟩
      obtain ⟨handle, hload, hno⟩ := hpassed s hs n hclass
      rw [← happlication n handle hload, hno] at happ
      cases happ
  | some c =>
      obtain ⟨hsplit, ⟨hclass, handle, hload, hdescends⟩, -⟩ := candidate?_eq_some_iff.mp hfound
      refine iff_of_true rfl ⟨c.servlet, ?_, c.application, hclass, ?_⟩
      · rw [hsplit]
        exact List.mem_append_right _ List.mem_cons_self
      · exact (happlication _ handle hload).mp hdescends

/-! ### The inspection -/

/-- What an inspection says about a descriptor, beside the servlet that it adopted. -/
def inspectionOf (config : Config) (web : WebDescriptor) (application : Option String) :
    Inspection where
  hasBootClasses := web.declaresBootClass config
  declaredApplication := application
  unwrappedExceptionsSet := (web.contextParam? unwrappedExceptionsParam).isSome

theorem adopt_of_conflict {fault : Fault}
    (hconflict : web.conflict? config.dispatcher = some fault) :
    (adopt config h loader web).result = .error fault ∧
      (adopt config h loader web).state = web := by
  simp [adopt, hconflict]

theorem adopt_of_error {fault : Fault} (hconflict : web.conflict? config.dispatcher = none)
    (hfound : candidate? h loader web.servlets = .error fault) :
    (adopt config h loader web).result = .error fault ∧
      (adopt config h loader web).state = web := by
  simp [adopt, hconflict, hfound]

theorem adopt_of_none (hconflict : web.conflict? config.dispatcher = none)
    (hfound : candidate? h loader web.servlets = .ok none) :
    (adopt config h loader web).result = .ok (inspectionOf config web none) ∧
      (adopt config h loader web).state = web := by
  simp [adopt, hconflict, hfound, inspectionOf]

theorem adopt_of_some {c : Candidate} (hconflict : web.conflict? config.dispatcher = none)
    (hfound : candidate? h loader web.servlets = .ok (some c)) :
    (adopt config h loader web).result = .ok (inspectionOf config web (some c.application)) ∧
      (adopt config h loader web).state = { web with
        servlets :=
          c.before ++ dispatching config.dispatcher c.servlet c.application :: c.after } := by
  simp [adopt, hconflict, hfound, inspectionOf]

/-- An inspection ends well exactly if nothing conflicts and the search for a servlet to
adopt ends well; it then tells what the search found. -/
theorem adopt_result_eq_ok_iff {i : Inspection} :
    (adopt config h loader web).result = .ok i ↔
      web.conflict? config.dispatcher = none ∧
        ∃ found, candidate? h loader web.servlets = .ok found ∧
          i = inspectionOf config web (found.map (·.application)) := by
  cases hconflict : web.conflict? config.dispatcher with
  | some fault =>
      have hresult : (adopt config h loader web).result = .error fault :=
        (adopt_of_conflict hconflict).1
      simp [hresult]
  | none =>
      cases hfound : candidate? h loader web.servlets with
      | error fault => simp [(adopt_of_error hconflict hfound).1]
      | ok found =>
          cases found with
          | none => simp [(adopt_of_none hconflict hfound).1, eq_comm]
          | some c => simp [(adopt_of_some hconflict hfound).1, eq_comm]

/-- An inspection fails at a conflicting class or at one that cannot be loaded. -/
theorem exists_of_adopt_result_eq_error {fault : Fault}
    (hfault : (adopt config h loader web).result = .error fault) :
    (∃ name n, fault = .conflictingDispatcher name n) ∨ ∃ e, fault = .ofLoadError e := by
  cases hconflict : web.conflict? config.dispatcher with
  | some conflict =>
      rw [(adopt_of_conflict hconflict).1] at hfault
      obtain ⟨declared, -, rfl⟩ := Option.map_eq_some_iff.mp hconflict
      exact .inl ⟨_, _, (Except.error.inj hfault).symm⟩
  | none =>
      cases hfound : candidate? h loader web.servlets with
      | error missing =>
          rw [(adopt_of_error hconflict hfound).1] at hfault
          cases hfault
          exact .inr (exists_of_candidate?_eq_error hfound)
      | ok found =>
          cases found with
          | none => simp [(adopt_of_none hconflict hfound).1] at hfault
          | some c => simp [(adopt_of_some hconflict hfound).1] at hfault

theorem dispatching_ne (d : Dispatcher) (s : Servlet) (application : String) :
    dispatching d s application ≠ s := by
  intro h
  have hparams := congrArg (fun s : Servlet => s.initParams.length) h
  simp [dispatching, Dispatcher.install, Servlet.addInitParam] at hparams

/-- An inspection changes the servlets of a descriptor, if it changes it.  It adds and
removes none, and those that it changes run on the dispatcher class. -/
theorem adopt_state (config : Config) (h : Hierarchy) (loader : ClassLoader) (web : WebDescriptor) :
    ∃ servlets, (adopt config h loader web).state = { web with servlets := servlets } ∧
      servlets.length = web.servlets.length ∧
      ∀ s ∈ servlets, s ∈ web.servlets ∨ s.servletClass = some config.dispatcher.servletClass := by
  have hkept : (adopt config h loader web).state = web → ∃ servlets,
      (adopt config h loader web).state = { web with servlets := servlets } ∧
        servlets.length = web.servlets.length ∧
        ∀ s ∈ servlets, s ∈ web.servlets ∨
          s.servletClass = some config.dispatcher.servletClass :=
    fun h => ⟨web.servlets, h, rfl, fun s hs => .inl hs⟩
  cases hconflict : web.conflict? config.dispatcher with
  | some fault => exact hkept (adopt_of_conflict hconflict).2
  | none =>
      cases hfound : candidate? h loader web.servlets with
      | error fault => exact hkept (adopt_of_error hconflict hfound).2
      | ok found =>
          cases found with
          | none => exact hkept (adopt_of_none hconflict hfound).2
          | some c =>
              obtain ⟨hsplit, -, -⟩ := candidate?_eq_some_iff.mp hfound
              refine ⟨_, (adopt_of_some hconflict hfound).2, ?_, fun s hs => ?_⟩
              · rw [hsplit, List.length_append, List.length_append, List.length_cons,
                  List.length_cons]
              · rw [hsplit, List.mem_append, List.mem_cons]
                rcases List.mem_append.mp hs with hs | hs
                · exact .inl (.inl hs)
                · rcases List.mem_cons.mp hs with rfl | hs
                  · exact .inr rfl
                  · exact .inl (.inr (.inr hs))

/-- A servlet that was adopted runs on the dispatcher class, and was changed. -/
theorem adopt_state_of_some {c : Candidate} (hconflict : web.conflict? config.dispatcher = none)
    (hfound : candidate? h loader web.servlets = .ok (some c)) :
    (∃ s ∈ (adopt config h loader web).state.servlets,
        s.servletClass = some config.dispatcher.servletClass) ∧
      (adopt config h loader web).state ≠ web := by
  obtain ⟨hsplit, -, -⟩ := candidate?_eq_some_iff.mp hfound
  rw [(adopt_of_some hconflict hfound).2]
  refine ⟨⟨_, List.mem_append_right _ List.mem_cons_self, rfl⟩, fun hsame => ?_⟩
  have hservlets := congrArg WebDescriptor.servlets hsame
  simp only [hsplit, List.append_cancel_left_eq, List.cons.injEq, and_true] at hservlets
  exact dispatching_ne config.dispatcher c.servlet c.application hservlets

end Adoption

end RestDeployment
