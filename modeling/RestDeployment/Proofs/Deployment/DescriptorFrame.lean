import RestDeployment.Proofs.Deployment.Descriptors
import RestDeployment.Proofs.Registration.Additions

/-!
# What a deployment leaves alone in a descriptor

Two steps write to the descriptor of a web application.  The inspection may adopt one
declared servlet, in its place, and the registration may append servlets and mappings.
Never both: where a servlet was adopted the flag that it sets makes the registration skip.
`completedBy_of_deployment` says what this comes to for the descriptor that is reported.
-/

namespace RestDeployment

/-- One servlet of a list was adopted in its place, for the application that it declares. -/
def Adoption.AdoptsOne (d : Dispatcher) (servlets servlets' : List Servlet) : Prop :=
  ∃ before s n after, servlets = before ++ s :: after ∧ s.servletClass = some n ∧
    servlets' = before ++ dispatching d s n :: after

theorem Adoption.dispatching_name (d : Dispatcher) (s : Servlet) (application : String) :
    (dispatching d s application).name = s.name := rfl

/-- The servlets keep their names and places. -/
theorem Adoption.AdoptsOne.map_name {d : Dispatcher} {servlets servlets' : List Servlet}
    (h : AdoptsOne d servlets servlets') : servlets'.map (·.name) = servlets.map (·.name) := by
  obtain ⟨before, s, n, after, rfl, -, rfl⟩ := h
  simp only [List.map_append, List.map_cons, dispatching_name]

/-- A descriptor with additions to another, or with one servlet adopted. -/
structure WebDescriptor.CompletedBy (d : Dispatcher) (web left : WebDescriptor)
    (p : Registration.Plan) : Prop where
  metadataComplete : left.metadataComplete = web.metadataComplete
  filters : left.filters = web.filters
  contextParams : left.contextParams = web.contextParams
  securityConstraints : left.securityConstraints = web.securityConstraints
  servletMappings : left.servletMappings = web.servletMappings ++ p.mappings
  servlets : left.servlets = web.servlets ++ p.servlets ∨
    Adoption.AdoptsOne d web.servlets left.servlets ∧ p.servlets = [] ∧ p.mappings = []
  fresh : p.FreshFor web
  nodup : (web.servlets.map (·.name)).Nodup → (left.servlets.map (·.name)).Nodup

namespace Deployment

variable {config : Config} {m : Manifest} {u : UnitManifest} {web left : WebDescriptor}
  {found : Metadata} {r : Report} {schedules : Schedules}

/-- Without adoption, what is left has the additions of a registration. -/
theorem completedBy_addTo {d : Dispatcher} {p : Registration.Plan} (h : p.FreshFor web) :
    web.CompletedBy d (p.addTo web) p where
  metadataComplete := rfl
  filters := rfl
  contextParams := rfl
  securityConstraints := rfl
  servletMappings := rfl
  servlets := .inl rfl
  fresh := h
  nodup hnodup := h.nodup_addTo hnodup

theorem completedBy_adopted {d : Dispatcher} {servlets : List Servlet}
    (h : Adoption.AdoptsOne d web.servlets servlets) :
    web.CompletedBy d { web with servlets := servlets } {} where
  metadataComplete := rfl
  filters := rfl
  contextParams := rfl
  securityConstraints := rfl
  servletMappings := (List.append_nil _).symm
  servlets := .inr ⟨h, rfl, rfl⟩
  fresh := Registration.freshFor_empty web
  nodup hnodup := by rwa [h.map_name]

/-- A scan that went well has adopted a servlet, and then there is nothing to register, or it
has left the descriptor as it was. -/
theorem registering_descriptor_cases (hweb : u.descriptor = some web)
    (hfound : (surveyOf config m u).metadata = .ok found) :
    (registering config m u web).descriptor = web ∨
      Registration.Skips (registering config m u web).metadata ∧
        ∃ servlets, Adoption.AdoptsOne config.dispatcher web.servlets servlets ∧
          (registering config m u web).descriptor = { web with servlets := servlets } := by
  obtain ⟨hconflict, candidate, hcandidate⟩ := exists_candidate_of_survey hweb hfound
  cases candidate with
  | none => exact .inl (Adoption.adopt_of_none hconflict hcandidate).2
  | some c =>
      obtain ⟨hsplit, ⟨hclass, handle, hload, hdescends⟩, -⟩ :=
        Adoption.candidate?_eq_some_iff.mp hcandidate
      have hdeclares : DeclaresApplication config m u web := by
        refine ⟨c.servlet, ?_, c.application, hclass,
          (descends_iff_seesApplication hload).mp hdescends⟩
        rw [hsplit]
        exact List.mem_append_right _ List.mem_cons_self
      refine .inr ⟨(skips_registering_iff hweb hfound).mpr (.inr hdeclares), _, ?_,
        (Adoption.adopt_of_some hconflict hcandidate).2⟩
      exact ⟨c.before, c.servlet, c.application, c.after, hsplit, hclass, rfl⟩

theorem exists_completedBy (hweb : u.descriptor = some web)
    (hfound : (surveyOf config m u).metadata = .ok found) :
    ∃ left p, leftDescriptor config m u = some left ∧
      web.CompletedBy config.dispatcher left p := by
  have hkeyed : (registering config m u web).metadata.Keyed := (wellSorted_classesOf hfound).keyed
  obtain ⟨p, hadded, hfresh, hnothing⟩ := Registration.exists_fresh_plan
    (UnitManifest.keepsNames_build config u) hkeyed config
  rw [leftDescriptor_of_web hweb]
  rcases registering_descriptor_cases hweb hfound with hsame | ⟨hskips, servlets, hadopts, hone⟩
  · rw [hsame] at hadded hfresh
    refine ⟨_, p, rfl, ?_⟩
    rw [hadded]
    exact completedBy_addTo hfresh
  · -- the registration has nothing to do after an adoption
    refine ⟨_, {}, rfl, ?_⟩
    rw [hadded, hnothing hskips, Registration.addTo_empty, hone]
    exact completedBy_adopted hadopts

/-- **What a deployment makes of a descriptor.**  In a full deployment that ends well, the
descriptor of a web application is reported with additions or with one servlet adopted.
Everything else is as it was submitted, and what is added is new. -/
theorem completedBy_of_deployment (config : Config) {name : String}
    (h : schedules.Complete (m.build config).length)
    (hr : (runAlong config .full schedules { name := name } (m.build config)).result = .ok r)
    (hu : u ∈ m.units) (hweb : u.descriptor = some web) :
    ∃ x left p, r.unit? u.id = some x ∧ x.descriptor = some left ∧
      web.CompletedBy config.dispatcher left p := by
  rw [runAlong_result h] at hr
  obtain ⟨-, hscan, -⟩ := eq_reports_of_resultOf hr
  have hmem : u.build config ∈ m.build config := List.mem_map_of_mem hu
  obtain ⟨found, hfound⟩ := hscan _ hmem
  obtain ⟨left, p, hleft, hcompleted⟩ := exists_completedBy hweb hfound
  exact ⟨_, left, p, unit?_of_resultOf hr hmem, hleft, hcompleted⟩

/-- A descriptor that maps one of two applications. -/
def mappedShop : WebDescriptor where
  servlets := [{ name := "Own" }]
  filters := [{ name := "log" }]
  servletMappings := [⟨"Admin", ["/admin/*"]⟩]

/-- A descriptor with a servlet to adopt. -/
def declaredShop : WebDescriptor where
  servlets := [{ name := "Own" }, { name := "Shop", servletClass := some "Shop" }]

/-- Two web applications with the same classes and these descriptors. -/
def twoShops : Manifest where
  deployment := "shops"
  units := [shop "mapped" mappedShop, shop "declared" declaredShop]
where
  shop (id : String) (web : WebDescriptor) : UnitManifest :=
    { id := id
      classes :=
        [plainClass "Admin" [] (some applicationClass),
          { plainClass "Shop" [] (some applicationClass) with
            annotations := [⟨ applicationPathAnnotation, some "/shop"⟩] }]
      descriptor := some web }

/-- One of them gets two servlets and a mapping, and in the other a servlet is adopted. -/
theorem completedBy_of_deployment_twoShops :
    ∃ r, (runFresh {} .full "shops" (twoShops.build {})).result = .ok r ∧
      (∃ x left p, r.unit? "mapped" = some x ∧ x.descriptor = some left ∧
        mappedShop.CompletedBy {} left p ∧
        left.servlets.map (·.name) = ["Own", "Admin", "Shop"] ∧
        left.servletMappings.map (·.servletName) = ["Admin", "Shop"]) ∧
      ∃ x left p, r.unit? "declared" = some x ∧ x.descriptor = some left ∧
        declaredShop.CompletedBy {} left p ∧ left.servlets ≠ declaredShop.servlets ∧
        left.servlets.map (·.name) = ["Own", "Shop"] ∧ left.servletMappings = [] := by
  obtain ⟨r, x, hr, hx, hmapped⟩ := exists_unit?_of_any
    (runFresh {} .full "shops" (twoShops.build {})).result "mapped"
    (fun x => decide (∀ left ∈ x.descriptor,
      left.servlets.map (·.name) = ["Own", "Admin", "Shop"] ∧
        left.servletMappings.map (·.servletName) = ["Admin", "Shop"])) (by decide +kernel)
  obtain ⟨r', x', hr', hx', hdeclared⟩ := exists_unit?_of_any
    (runFresh {} .full "shops" (twoShops.build {})).result "declared"
    (fun x => decide (∀ left ∈ x.descriptor, left.servlets ≠ declaredShop.servlets ∧
      left.servlets.map (·.name) = ["Own", "Shop"] ∧ left.servletMappings = []))
    (by decide +kernel)
  obtain rfl : r = r' := Except.ok.inj (hr.symm.trans hr')
  obtain ⟨y, left, p, hy, hleft, hcompleted⟩ := completedBy_of_deployment {}
    (complete_inOrder _) hr (List.getElem_mem (Nat.zero_lt_two)) rfl
  obtain ⟨y', left', p', hy', hleft', hcompleted'⟩ := completedBy_of_deployment {}
    (complete_inOrder _) hr (List.getElem_mem (Nat.one_lt_two)) rfl
  obtain rfl : x = y := Option.some.inj (hx.symm.trans hy)
  obtain rfl : x' = y' := Option.some.inj (hx'.symm.trans hy')
  obtain ⟨hservlets, hmappings⟩ := (of_decide_eq_true hmapped) left hleft
  obtain ⟨hadopted, hservlets', hmappings'⟩ := (of_decide_eq_true hdeclared) left' hleft'
  exact ⟨r, hr, ⟨x, left, p, hx, hleft, hcompleted, hservlets, hmappings⟩,
    x', left', p', hx', hleft', hcompleted', hadopted, hservlets', hmappings'⟩

end Deployment

end RestDeployment
