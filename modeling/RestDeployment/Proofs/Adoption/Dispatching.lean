import RestDeployment.Proofs.Adoption.Resolution

/-!
# What an adopted servlet says of itself

A dispatcher reads from the parameters of its servlet that it is to run, on which delegate and
for which application.  An adopted servlet gets these three parameters behind the ones that it
declares, while a look-up by name answers the first parameter of that name.  So what a servlet
declares stays in force when it is adopted (`initParam?_dispatching`), and it is set up for its
application exactly if none of its own parameters says otherwise (`adopted_setUp_iff`).

## Strategy

A look-up in two lists put together is a look-up in the first, and only where that finds nothing
one in the second.  Among the three parameters each is found under its name, because the names
differ; this is all that is asked of the dispatcher (`DistinctParams`).
-/

namespace RestDeployment

namespace Dispatcher

/-- The parameters that tell the dispatcher what to do on the servlet of an application. -/
def paramsFor (d : Dispatcher) (application : String) : List Param :=
  [⟨d.servletModeParam, some "true"⟩, ⟨d.delegateParam, some d.delegateClass⟩,
    ⟨applicationInitParam, some application⟩]

/-- The parameters of a dispatcher servlet bear different names. -/
def DistinctParams (d : Dispatcher) : Prop :=
  d.servletModeParam ≠ d.delegateParam ∧ d.servletModeParam ≠ applicationInitParam ∧
    d.delegateParam ≠ applicationInitParam

instance (d : Dispatcher) : Decidable d.DistinctParams := inferInstanceAs (Decidable (_ ∧ _ ∧ _))

end Dispatcher

namespace Servlet

/-- Where the servlet has a parameter of this name, the first one has this value. -/
def Concedes (s : Servlet) (q : Param) : Prop :=
  ∀ declared, s.initParam? q.name = some declared → declared.value = q.value

/-- Looked up by name, the parameters of a servlet set it up for an application: it runs in
servlet mode, on the delegate class, for this application. -/
structure SetUpFor (s : Servlet) (d : Dispatcher) (application : String) : Prop where
  mode : (s.initParam? d.servletModeParam).bind (·.value) = some "true"
  delegate : (s.initParam? d.delegateParam).bind (·.value) = some d.delegateClass
  application : (s.initParam? applicationInitParam).bind (·.value) = some application

end Servlet

namespace Adoption

variable {h : Hierarchy} {loader : ClassLoader} {web : WebDescriptor} {d : Dispatcher}
  {s : Servlet} {q : Param} {m n : String}

/-! ### Look-ups on an adopted servlet -/

/-- A parameter that the servlet declares stays in force.  Other names are looked up among the
parameters that the adoption adds. -/
theorem initParam?_dispatching (d : Dispatcher) (s : Servlet) (n m : String) :
    (dispatching d s n).initParam? m =
      (s.initParam? m).or ((d.paramsFor n).find? fun q => q.name == m) := by
  rw [dispatching_eq]
  exact List.find?_append

theorem find?_paramsFor (hdistinct : d.DistinctParams) (hq : q ∈ d.paramsFor n) :
    ((d.paramsFor n).find? fun r => r.name == q.name) = some q := by
  obtain ⟨hmodeDelegate, hmodeApplication, hdelegateApplication⟩ := hdistinct
  simp only [Dispatcher.paramsFor, List.mem_cons, List.not_mem_nil, or_false] at hq
  rcases hq with rfl | rfl | rfl
  · simp [Dispatcher.paramsFor]
  · simp [Dispatcher.paramsFor, hmodeDelegate]
  · simp [Dispatcher.paramsFor, hmodeApplication, hdelegateApplication]

theorem initParam?_dispatching_of_mem (hdistinct : d.DistinctParams) (hq : q ∈ d.paramsFor n) :
    (dispatching d s n).initParam? q.name = (s.initParam? q.name).or (some q) := by
  rw [initParam?_dispatching, find?_paramsFor hdistinct hq]

/-- The value that an adoption gives a parameter is the one that is read, exactly if the servlet
declares no other. -/
theorem value_dispatching_iff (hdistinct : d.DistinctParams) (hq : q ∈ d.paramsFor n) :
    ((dispatching d s n).initParam? q.name).bind (·.value) = q.value ↔ s.Concedes q := by
  rw [initParam?_dispatching_of_mem hdistinct hq, Servlet.Concedes]
  cases s.initParam? q.name with
  | none => simp
  | some declared => simp

/-! ### Being set up for an application -/

theorem setUpFor_iff_paramsFor :
    s.SetUpFor d n ↔ ∀ q ∈ d.paramsFor n, (s.initParam? q.name).bind (·.value) = q.value := by
  simp only [Dispatcher.paramsFor, List.forall_mem_cons, List.not_mem_nil, false_implies,
    implies_true, and_true]
  constructor
  · intro hs
    exact ⟨hs.mode, hs.delegate, hs.application⟩
  · rintro ⟨hmode, hdelegate, happlication⟩
    exact ⟨hmode, hdelegate, happlication⟩

/-- A servlet that is made a dispatcher servlet is set up for its application exactly if its own
parameters leave it to that. -/
theorem setUpFor_dispatching_iff (hdistinct : d.DistinctParams) :
    (dispatching d s n).SetUpFor d n ↔ ∀ q ∈ d.paramsFor n, s.Concedes q := by
  rw [setUpFor_iff_paramsFor]
  exact forall₂_congr fun q hq => value_dispatching_iff hdistinct hq

/-- An inspection that tells of an application has made the first servlet that declares one a
dispatcher servlet, and changed nothing else. -/
theorem exists_adopted {config : Config} {i : Inspection}
    (hok : (adopt config h loader web).result = .ok i) (hadopted : i.declaredApplication = some n) :
    ∃ p s, FirstServing h loader web.servlets p s n ∧
      (adopt config h loader web).state =
        { web with servlets := web.servlets.set p (dispatching config.dispatcher s n) } := by
  obtain ⟨hconflict, found, hfound, rfl⟩ := adopt_result_eq_ok_iff.mp hok
  obtain ⟨c, rfl, rfl⟩ := Option.map_eq_some_iff.mp hadopted
  have hfirst := firstServing_of_candidate? hfound
  obtain ⟨-, -, hstate⟩ := (inspected_of_adopt hok).adopted _ _ _ hfirst
  refine ⟨_, _, hfirst, ?_⟩
  rw [hstate, dispatching_eq]

/-- **An adopted servlet is set up for its application, unless it declares otherwise.**  Under
the default configuration the servlet that was adopted answers a look-up with what it declares
itself, and where it declares nothing with what the adoption has added.  So a look-up finds the
servlet mode, the delegate class and the application exactly if no parameter of the declared
servlet comes first with another value. -/
theorem adopted_setUp_iff {i : Inspection} (hok : (adopt {} h loader web).result = .ok i)
    (hadopted : i.declaredApplication = some n) :
    ∃ p s s', FirstServing h loader web.servlets p s n ∧
      (adopt {} h loader web).state = { web with servlets := web.servlets.set p s' } ∧
      (∀ q ∈ ({} : Dispatcher).paramsFor n,
        s'.initParam? q.name = (s.initParam? q.name).or (some q)) ∧
      (s'.SetUpFor {} n ↔ ∀ q ∈ ({} : Dispatcher).paramsFor n, s.Concedes q) := by
  have hdistinct : ({} : Dispatcher).DistinctParams := by decide
  obtain ⟨p, s, hfirst, hstate⟩ := exists_adopted hok hadopted
  refine ⟨p, s, dispatching {} s n, hfirst, hstate, ?_, setUpFor_dispatching_iff hdistinct⟩
  intro q hq
  exact initParam?_dispatching_of_mem hdistinct hq

/-- The inspection of a servlet of the class `Shop` adopts it, whatever parameters it declares. -/
theorem exists_adopted_shopServlet (params : List Param) :
    ∃ i, (adopt {} declaredHierarchy declaredLoader
        (declaring [shopServlet params, lostServlet])).result = .ok i ∧
      i.declaredApplication = some "Shop" ∧
      (adopt {} declaredHierarchy declaredLoader
          (declaring [shopServlet params, lostServlet])).state.servlets[0]? =
        some (dispatching {} (shopServlet params) "Shop") := by
  have hfirst := firstServing_shopServlet params [lostServlet]
  obtain ⟨i, hok⟩ := isOk_adopt_shopServlet params
  obtain ⟨-, hadopted, hstate⟩ := (inspected_of_adopt hok).adopted 0 _ _ hfirst
  refine ⟨i, hok, hadopted, ?_⟩
  rw [hstate, dispatching_eq]
  rfl

/-- A servlet that declares a depth and the servlet mode is set up for its application. -/
theorem adopted_setUp_iff_modeDeclared :
    ∃ i, (adopt {} declaredHierarchy declaredLoader (declaring
        [shopServlet [⟨"depth", some "3"⟩, ⟨({} : Dispatcher).servletModeParam, some "true"⟩],
          lostServlet])).result = .ok i ∧
      i.declaredApplication = some "Shop" ∧
      ∃ s', (adopt {} declaredHierarchy declaredLoader (declaring
          [shopServlet [⟨"depth", some "3"⟩, ⟨({} : Dispatcher).servletModeParam, some "true"⟩],
            lostServlet])).state.servlets[0]? = some s' ∧
        s'.SetUpFor {} "Shop" := by
  obtain ⟨i, hok, hadopted, -⟩ := exists_adopted_shopServlet
    [⟨"depth", some "3"⟩, ⟨({} : Dispatcher).servletModeParam, some "true"⟩]
  obtain ⟨p, s, s', hfirst, hstate, -, hsetUp⟩ := adopted_setUp_iff hok hadopted
  obtain ⟨rfl, rfl, -⟩ := hfirst.unique (firstServing_shopServlet _ _)
  refine ⟨i, hok, hadopted, s', ?_, hsetUp.mpr ?_⟩
  · rw [hstate]
    rfl
  · intro q hq declared hdeclared
    simp only [Dispatcher.paramsFor, List.mem_cons, List.not_mem_nil, or_false] at hq
    rcases hq with rfl | rfl | rfl
    · -- the servlet mode is declared, with the value that it is to have
      cases hdeclared
      rfl
    · cases hdeclared
    · cases hdeclared

/-- **Not every adopted servlet is set up for its application.**  One that declares another
application keeps it. -/
theorem not_adopted_setUp :
    ∃ i, (adopt {} declaredHierarchy declaredLoader (declaring
        [shopServlet [⟨applicationInitParam, some "Old"⟩], lostServlet])).result = .ok i ∧
      i.declaredApplication = some "Shop" ∧
      ∃ s', (adopt {} declaredHierarchy declaredLoader (declaring
          [shopServlet [⟨applicationInitParam, some "Old"⟩], lostServlet])).state.servlets[0]? =
            some s' ∧
        (s'.initParam? applicationInitParam).bind (·.value) = some "Old" ∧
        ¬ s'.SetUpFor {} "Shop" := by
  obtain ⟨i, hok, hadopted, hservlet⟩ :=
    exists_adopted_shopServlet [⟨applicationInitParam, some "Old"⟩]
  have hold : ((dispatching {} (shopServlet [⟨applicationInitParam, some "Old"⟩]) "Shop").initParam?
      applicationInitParam).bind (·.value) = some "Old" := rfl
  refine ⟨i, hok, hadopted, _, hservlet, hold, fun hsetUp => ?_⟩
  have happlication := hsetUp.application
  rw [hold] at happlication
  exact absurd happlication (by decide)

end Adoption

end RestDeployment
