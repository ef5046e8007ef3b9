import Mathlib.Data.List.Basic
import RestDeployment.Proofs.Adoption
import RestDeployment.Proofs.ClassTable
import RestDeployment.Proofs.Hierarchy

/-!
# What an inspection does to a descriptor

An inspection that fails leaves the descriptor as it is.  One that ends well has changed at most
one servlet: the first whose class can be loaded and is an application, at the place where it
stands (`adopts_first_application`).

The search for this servlet carries along what it has passed, and the descriptor is put together
from that.  Here the servlet is named by its position, without the search: `FirstServing` says of
a position what the search looks for, and a search that ended well has ended there
(`FirstServing.of_candidate?`).  Whether a loaded class is an application is said by the
superclasses that lead from it to the application class.
-/

namespace RestDeployment

/-- A servlet or a filter is declared with a class. -/
def WebDescriptor.DeclaresClass (web : WebDescriptor) (n : String) : Prop :=
  (∃ s ∈ web.servlets, s.servletClass = some n) ∨ ∃ f ∈ web.filters, f.filterClass = some n

namespace Adoption

variable {config : Config} {h : Hierarchy} {loader : ClassLoader} {servlets : List Servlet}
  {s : Servlet} {web : WebDescriptor} {n : String} {p : Nat}

/-! ### The servlet that is looked for -/

/-- A class that can be loaded and is the application class or extends it. -/
def LoadsApplication (h : Hierarchy) (loader : ClassLoader) (n : String) : Prop :=
  ∃ handle, loader.load n = .ok handle ∧
    (h.withHandle handle).Reaches handle.name applicationClass

theorem descends_iff_loadsApplication {handle : ClassHandle} (hload : loader.load n = .ok handle) :
    h.descends handle applicationClass = true ↔ LoadsApplication h loader n := by
  rw [Hierarchy.descends_eq_true_iff]
  constructor
  · exact fun hreach => ⟨handle, hload, hreach⟩
  · rintro ⟨handle', hload', hreach⟩
    rw [hload] at hload'
    cases hload'
    exact hreach

theorem serves_iff :
    Serves h loader s n ↔ s.servletClass = some n ∧ LoadsApplication h loader n := by
  simp only [Serves, LoadsApplication, Hierarchy.descends_eq_true_iff]

/-- The servlet at a position has an application class, and no servlet before it has one. -/
structure FirstServing (h : Hierarchy) (loader : ClassLoader) (servlets : List Servlet) (p : Nat)
    (s : Servlet) (n : String) : Prop where
  position : servlets[p]? = some s
  declares : s.servletClass = some n
  application : LoadsApplication h loader n
  first : ∀ q t m, q < p → servlets[q]? = some t → t.servletClass = some m →
    ¬ LoadsApplication h loader m

theorem FirstServing.unique {p' : Nat} {s' : Servlet} {n' : String}
    (hfirst : FirstServing h loader servlets p s n)
    (hfirst' : FirstServing h loader servlets p' s' n') : p = p' ∧ s = s' ∧ n = n' := by
  have hp : p = p' := by
    rcases Nat.lt_trichotomy p p' with hlt | heq | hgt
    · exact absurd hfirst.application (hfirst'.first _ _ _ hlt hfirst.position hfirst.declares)
    · exact heq
    · exact absurd hfirst'.application (hfirst.first _ _ _ hgt hfirst'.position hfirst'.declares)
  subst hp
  have hs : s = s' := Option.some.inj (hfirst.position.symm.trans hfirst'.position)
  subst hs
  exact ⟨rfl, rfl, Option.some.inj (hfirst.declares.symm.trans hfirst'.declares)⟩

theorem PassedOver.not_loadsApplication (hs : PassedOver h loader s)
    (hclass : s.servletClass = some n) : ¬ LoadsApplication h loader n := by
  obtain ⟨handle, hload, hno⟩ := hs n hclass
  rw [← descends_iff_loadsApplication hload, hno]
  exact Bool.false_ne_true

/-- Where a search has found a servlet, there stands the one that it looks for. -/
theorem firstServing_of_candidate? {c : Candidate}
    (hfound : candidate? h loader servlets = .ok (some c)) :
    FirstServing h loader servlets c.before.length c.servlet c.application := by
  obtain ⟨hsplit, hserves, hbefore⟩ := candidate?_eq_some_iff.mp hfound
  obtain ⟨hclass, happlication⟩ := serves_iff.mp hserves
  refine ⟨?_, hclass, happlication, fun q t m hq ht hm => ?_⟩
  · rw [hsplit, getElem?_length_append_cons]
  · rw [hsplit, List.getElem?_append_left hq] at ht
    exact (hbefore t (List.mem_of_getElem? ht)).not_loadsApplication hm

/-- A search that ended well has ended at the servlet that it looks for. -/
theorem FirstServing.of_candidate? {found : Option Candidate}
    (hfirst : FirstServing h loader servlets p s n)
    (hfound : candidate? h loader servlets = .ok found) :
    ∃ c, found = some c ∧ c.before.length = p ∧ c.servlet = s ∧ c.application = n := by
  cases found with
  | none =>
      have hpassed := candidate?_eq_none_iff.mp hfound s (List.mem_of_getElem? hfirst.position)
      exact absurd hfirst.application (hpassed.not_loadsApplication hfirst.declares)
  | some c => exact ⟨c, rfl, (firstServing_of_candidate? hfound).unique hfirst⟩

/-! ### The descriptor afterwards -/

/-- An adopted servlet keeps its name and its parameters and gets three more. -/
theorem dispatching_eq (d : Dispatcher) (s : Servlet) (n : String) :
    dispatching d s n = { s with
      servletClass := some d.servletClass
      asyncSupported := true
      initParams := s.initParams ++ [⟨d.servletModeParam, some "true"⟩,
        ⟨d.delegateParam, some d.delegateClass⟩, ⟨applicationInitParam, some n⟩] } := by
  simp [dispatching, Dispatcher.install, Servlet.addInitParam]

/-- What an inspection that ended well has told about a descriptor, and which it has left. -/
structure Inspected (config : Config) (h : Hierarchy) (loader : ClassLoader) (web : WebDescriptor)
    (i : Inspection) (web' : WebDescriptor) : Prop where
  /-- Every declared class that looks like a dispatcher is an allowed one. -/
  no_conflict : ∀ n, web.DeclaresClass n →
    simpleName n ∈ config.dispatcher.recognizedNames → n ∈ config.dispatcher.allowedClasses
  boot : i.hasBootClasses = true ↔ ∃ n, web.DeclaresClass n ∧ n ∈ config.bootClasses
  adopted : ∀ p s n, FirstServing h loader web.servlets p s n →
    (∀ q t m, q < p → web.servlets[q]? = some t → t.servletClass = some m →
      ∃ handle, loader.load m = .ok handle) ∧
    i.declaredApplication = some n ∧
    web' = { web with servlets := web.servlets.set p { s with
      servletClass := some config.dispatcher.servletClass
      asyncSupported := true
      initParams := s.initParams ++ [⟨config.dispatcher.servletModeParam, some "true"⟩,
        ⟨config.dispatcher.delegateParam, some config.dispatcher.delegateClass⟩,
        ⟨applicationInitParam, some n⟩] } }
  not_adopted : (∀ s ∈ web.servlets, ∀ n, s.servletClass = some n →
      ¬ LoadsApplication h loader n) →
    i.declaredApplication = none ∧ web' = web

theorem conflict?_eq_none_iff_declaresClass {d : Dispatcher} :
    web.conflict? d = none ↔
      ∀ n, web.DeclaresClass n → simpleName n ∈ d.recognizedNames → n ∈ d.allowedClasses := by
  rw [WebDescriptor.conflict?_eq_none_iff]
  refine forall_congr' fun n => ?_
  rw [WebDescriptor.mem_declaredClasses, WebDescriptor.DeclaresClass, ← Bool.not_eq_true,
    Dispatcher.conflicts_eq_true_iff, not_and, not_not]

theorem inspected_of_adopt {i : Inspection} (hok : (adopt config h loader web).result = .ok i) :
    Inspected config h loader web i (adopt config h loader web).state := by
  obtain ⟨hconflict, found, hfound, rfl⟩ := adopt_result_eq_ok_iff.mp hok
  refine ⟨conflict?_eq_none_iff_declaresClass.mp hconflict, ?_, fun p s n hfirst => ?_,
    fun hnone => ?_⟩
  · simp only [inspectionOf, WebDescriptor.declaresBootClass_eq_true_iff,
      WebDescriptor.mem_declaredClasses, WebDescriptor.DeclaresClass]
  · obtain ⟨c, rfl, rfl, rfl, rfl⟩ := hfirst.of_candidate? hfound
    obtain ⟨hsplit, -, hbefore⟩ := candidate?_eq_some_iff.mp hfound
    refine ⟨fun q t m hq ht hclass => ?_, rfl, ?_⟩
    · rw [hsplit, List.getElem?_append_left hq] at ht
      obtain ⟨handle, hload, -⟩ := hbefore t (List.mem_of_getElem? ht) m hclass
      exact ⟨handle, hload⟩
    · rw [(adopt_of_some hconflict hfound).2, ← dispatching_eq]
      rw [hsplit, List.set_append_right _ _ (Nat.le_refl _), Nat.sub_self, List.set_cons_zero]
  · cases found with
    | none => exact ⟨rfl, (adopt_of_none hconflict hfound).2⟩
    | some c =>
        obtain ⟨hsplit, hserves, -⟩ := candidate?_eq_some_iff.mp hfound
        obtain ⟨hclass, happlication⟩ := serves_iff.mp hserves
        have hmem : c.servlet ∈ web.servlets := by
          rw [hsplit]
          exact List.mem_append_right _ List.mem_cons_self
        exact absurd happlication (hnone _ hmem _ hclass)

theorem state_of_adopt_eq_error {fault : Fault}
    (hfault : (adopt config h loader web).result = .error fault) :
    (adopt config h loader web).state = web := by
  cases hconflict : web.conflict? config.dispatcher with
  | some conflict => exact (adopt_of_conflict hconflict).2
  | none =>
      cases hfound : candidate? h loader web.servlets with
      | error missing => exact (adopt_of_error hconflict hfound).2
      | ok found =>
          have hok := adopt_result_eq_ok_iff.mpr ⟨hconflict, found, hfound, rfl⟩
          rw [hfault] at hok
          cases hok

/-- An inspection ends well exactly if no declared class conflicts with the dispatcher and the
classes of all servlets up to the first application can be loaded. -/
theorem isOk_adopt_iff :
    (∃ i, (adopt config h loader web).result = .ok i) ↔
      (∀ n, web.DeclaresClass n →
        simpleName n ∈ config.dispatcher.recognizedNames → n ∈ config.dispatcher.allowedClasses) ∧
      ResolvedThrough (LoadsApplication h loader) (fun n => ∃ handle, loader.load n = .ok handle)
        web.servlets := by
  rw [← conflict?_eq_none_iff_declaresClass,
    ← isOk_candidate?_iff fun n handle => descends_iff_loadsApplication]
  constructor
  · rintro ⟨i, hok⟩
    obtain ⟨hconflict, found, hfound, -⟩ := adopt_result_eq_ok_iff.mp hok
    exact ⟨hconflict, found, hfound⟩
  · rintro ⟨hconflict, found, hfound⟩
    exact ⟨_, adopt_result_eq_ok_iff.mpr ⟨hconflict, found, hfound, rfl⟩⟩

/-- **An inspection adopts the first servlet of an application, or changes nothing.**  If it
fails, the descriptor is as before.  If it ends well, which it does exactly if no declared class
conflicts and all classes up to the first application can be loaded, it tells whether there is a
boot class and has changed no servlet but that of the first application. -/
theorem adopts_first_application (config : Config) (h : Hierarchy) (loader : ClassLoader)
    (web : WebDescriptor) :
    ((∃ i, (adopt config h loader web).result = .ok i) ↔
      (∀ n, web.DeclaresClass n →
        simpleName n ∈ config.dispatcher.recognizedNames → n ∈ config.dispatcher.allowedClasses) ∧
      ResolvedThrough (LoadsApplication h loader) (fun n => ∃ handle, loader.load n = .ok handle)
        web.servlets) ∧
    (∀ fault, (adopt config h loader web).result = .error fault →
      (adopt config h loader web).state = web) ∧
    ∀ i, (adopt config h loader web).result = .ok i →
      Inspected config h loader web i (adopt config h loader web).state :=
  ⟨isOk_adopt_iff, fun _ => state_of_adopt_eq_error, fun _ => inspected_of_adopt⟩

/-- A class that extends the application class by way of another, and one that does not. -/
def declaredClasses : List ClassEntry :=
  [plain "Base" (some applicationClass), plain "Shop" (some "Base"), plain "Status" none]
where
  plain (name : String) (superName : Option String) : ClassEntry :=
    ⟨name, .ordinary, [], superName, [], [], [], []⟩

/-- A servlet without class, one of a class that is no application, one of an application, and
one of a class that nobody knows. -/
def declaredServlets : List Servlet :=
  [{ name := "files" }, { name := "status", servletClass := some "Status" },
    { name := "shop", servletClass := some "Shop", initParams := [⟨"depth", some "3"⟩],
      loadOnStartup := some "1" },
    { name := "lost", servletClass := some "Lost" }]

/-- A descriptor with servlets and with a filter of the class of the dispatcher. -/
def declaring (servlets : List Servlet) : WebDescriptor where
  servlets := servlets
  filters := [{ name := "gate", filterClass := some "org.jboss.wsf.spi.deployment.WSFServlet" }]

/-- A hierarchy of these classes alone. -/
def declaredHierarchy : Hierarchy := ⟨[(ClassTable.ofList declaredClasses).toIndex]⟩

/-- A loader of these classes alone. -/
def declaredLoader : ClassLoader := (ClassTable.ofList declaredClasses).loader []

/-- The third servlet is adopted, although the class of the fourth is not known.  Where the
servlets stand in the other order that is the first thing to be found out, and nothing is
changed. -/
theorem adopts_first_application_declaredServlets :
    FirstServing declaredHierarchy declaredLoader declaredServlets 2 declaredServlets[2] "Shop" ∧
      (∃ i, (adopt {} declaredHierarchy declaredLoader (declaring declaredServlets)).result =
          .ok i ∧ i.hasBootClasses = true ∧ i.declaredApplication = some "Shop") ∧
      (adopt {} declaredHierarchy declaredLoader (declaring declaredServlets)).state =
        declaring (declaredServlets.set 2
          { name := "shop"
            servletClass := some "org.jboss.wsf.spi.deployment.WSFServlet"
            initParams := [⟨"depth", some "3"⟩, ⟨"org.jboss.ws.jaxrs.servlet.mode", some "true"⟩,
              ⟨"org.jboss.ws.stack.servlet.delegate.class",
                some "org.jboss.wsf.stack.cxf.JAXRSServletExt"⟩,
              ⟨"javax.ws.rs.Application", some "Shop"⟩]
            asyncSupported := true
            loadOnStartup := some "1" }) ∧
      (adopt {} declaredHierarchy declaredLoader (declaring declaredServlets.reverse)).result =
        .error (.classNotFound "Lost") ∧
      (adopt {} declaredHierarchy declaredLoader (declaring declaredServlets.reverse)).state =
        declaring declaredServlets.reverse := by
  have hshop : LoadsApplication declaredHierarchy declaredLoader "Shop" :=
    ⟨_, rfl, .head ⟨_, rfl, rfl⟩ (.single ⟨_, rfl, rfl⟩)⟩
  have hstatus : ¬ LoadsApplication declaredHierarchy declaredLoader "Status" := by
    rintro ⟨handle, hload, hreach⟩
    cases hload
    rcases hreach.cases_head with heq | ⟨p, ⟨c, hclass, hsuper⟩, -⟩
    · exact absurd heq (by decide)
    · cases hclass
      cases hsuper
  have hfirst : FirstServing declaredHierarchy declaredLoader declaredServlets 2
      declaredServlets[2] "Shop" := by
    refine ⟨rfl, rfl, hshop, fun q t m hq ht hclass => ?_⟩
    match q with
    | 0 =>
        cases ht
        cases hclass
    | 1 =>
        cases ht
        cases hclass
        exact hstatus
  obtain ⟨hok, -, hinspected⟩ := adopts_first_application {} declaredHierarchy declaredLoader
    (declaring declaredServlets)
  have hallowed : ∀ n ∈ (declaring declaredServlets).declaredClasses,
      simpleName n ∈ ({} : Dispatcher).recognizedNames →
        n ∈ ({} : Dispatcher).allowedClasses := by decide
  have hresolved : ResolvedThrough (LoadsApplication declaredHierarchy declaredLoader)
      (fun n => ∃ handle, declaredLoader.load n = .ok handle) declaredServlets := by
    refine resolvedThrough_cons.mpr ⟨fun n hclass => (nomatch hclass), fun _ => ?_⟩
    refine resolvedThrough_cons.mpr ⟨fun n hclass => ?_, fun _ => ?_⟩
    · cases hclass
      exact ⟨_, rfl⟩
    · refine resolvedThrough_cons.mpr ⟨fun n hclass => ?_, fun hno => absurd hshop (hno _ rfl)⟩
      cases hclass
      exact ⟨_, rfl⟩
  obtain ⟨i, hi⟩ := hok.mpr
    ⟨fun n hn => hallowed n (WebDescriptor.mem_declaredClasses.mpr hn), hresolved⟩
  obtain ⟨-, hboot, hadopted, -⟩ := hinspected i hi
  obtain ⟨-, hdeclared, hstate⟩ := hadopted 2 _ _ hfirst
  obtain ⟨-, hfails, -⟩ := adopts_first_application {} declaredHierarchy declaredLoader
    (declaring declaredServlets.reverse)
  have hgate : (declaring declaredServlets).DeclaresClass ({} : Dispatcher).servletClass :=
    .inr ⟨_, List.mem_cons_self, rfl⟩
  exact ⟨hfirst, ⟨i, hi, hboot.mpr ⟨_, hgate, List.mem_cons_self⟩, hdeclared⟩, hstate, rfl,
    hfails _ rfl⟩

end Adoption

end RestDeployment
