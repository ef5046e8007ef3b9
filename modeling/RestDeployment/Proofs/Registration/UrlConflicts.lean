import RestDeployment.Proofs.Registration.Effect

/-!
# URL patterns that are mapped to two servlets

A registration asks of every application whether its own name is mapped, and maps all URLs to
it if not.  It does not ask who else has that pattern.  So it may map it to several
applications, and to an application beside a declared servlet (`not_conflictFree_register`).

Which servlets have which pattern afterwards is said by `mem_urlPatterns_register`: no other
pattern is given away, and this one goes to the names that await a mapping.  From there it is
clear when a descriptor without conflicts stays without conflicts (`conflictFree_register_iff`).
-/

namespace RestDeployment

/-- No URL pattern is mapped to two servlets. -/
def WebDescriptor.ConflictFree (web : WebDescriptor) : Prop :=
  ∀ pattern m n, pattern ∈ web.urlPatterns m → pattern ∈ web.urlPatterns n → m = n

namespace Registration

variable {config : Config} {loader : ClassLoader} {w : WebState} {n : String}

/-- There is something to register, and an application that counts for the descriptor goes by
this name, which is not mapped and whose servlet does not run the dispatcher for it. -/
structure AwaitsMapping (config : Config) (loader : ClassLoader) (w : WebState) (n : String) :
    Prop where
  not_skipped : ¬ Skips w.metadata
  loaded : ∃ a ∈ w.metadata.applications.values,
    (a.path.isSome = true ∨ w.descriptor.isMapped a.name = true) ∧
      ∃ handle, loader.load a.name = .ok handle ∧ handle.name = n
  not_served : isServed config.dispatcher w.descriptor n = false
  not_mapped : w.descriptor.isMapped n = false

theorem mem_loadedNames_registeredNames :
    n ∈ loadedNames loader (registeredNames w.metadata w.descriptor) ↔
      ∃ a ∈ w.metadata.applications.values,
        (a.path.isSome = true ∨ w.descriptor.isMapped a.name = true) ∧
          ∃ handle, loader.load a.name = .ok handle ∧ handle.name = n := by
  simp only [mem_loadedNames, registeredNames, List.mem_map, List.mem_filter,
    Application.isRegistered, Application.isAnnotated, Bool.or_eq_true]
  constructor
  · rintro ⟨_, ⟨a, ⟨ha, hcounts⟩, rfl⟩, hload⟩
    exact ⟨a, ha, hcounts, hload⟩
  · rintro ⟨a, ha, hcounts, hload⟩
    exact ⟨a.name, ⟨a, ⟨ha, hcounts⟩, rfl⟩, hload⟩

theorem awaitsMapping_iff (hskips : ¬ Skips w.metadata) :
    AwaitsMapping config loader w n ↔ n ∈ unmapped config.dispatcher w.descriptor
      (loadedNames loader (registeredNames w.metadata w.descriptor)) := by
  rw [mem_unmapped, mem_loadedNames_registeredNames]
  constructor
  · intro h
    exact ⟨h.loaded, h.not_served, h.not_mapped⟩
  · rintro ⟨hloaded, hserved, hmapped⟩
    exact ⟨hskips, hloaded, hserved, hmapped⟩

/-- **The URL patterns after a registration** that ends well.  The names that await a mapping
get all URLs, and nothing else is mapped. -/
theorem mem_urlPatterns_register
    (hok : ∃ registration, (register config loader w).result = .ok registration)
    (pattern n : String) :
    pattern ∈ (register config loader w).state.descriptor.urlPatterns n ↔
      pattern ∈ w.descriptor.urlPatterns n ∨
        pattern = "/*" ∧ AwaitsMapping config loader w n := by
  by_cases hskips : Skips w.metadata
  · rw [(register_of_skips hskips).2]
    exact (or_iff_left fun h => h.2.not_skipped hskips).symm
  · rw [awaitsMapping_iff hskips]
    by_cases hnone : registeredNames w.metadata w.descriptor = []
    · have hmappings : ∀ n, (registerDefault config.dispatcher w).state.descriptor.urlPatterns n =
          w.descriptor.urlPatterns n := by
        intro n
        unfold registerDefault
        split <;> rfl
      rw [register_of_registeredNames_eq_nil hskips hnone, hmappings, hnone]
      exact (or_iff_left fun h => List.not_mem_nil (mem_unmapped.mp h.2).1).symm
    · have hloads := (isOk_register_iff config loader w).mp hok hskips
      rw [register_of_loads hskips hnone hloads]
      exact mem_urlPatterns_addTo_planFor

theorem not_mem_urlPatterns_of_not_mapped {web : WebDescriptor} {pattern : String}
    (h : web.isMapped n = false) : pattern ∉ web.urlPatterns n := by
  intro hmem
  obtain ⟨x, hx, hname, -⟩ := mem_urlPatterns.mp hmem
  rw [WebDescriptor.isMapped, List.any_eq_false] at h
  exact h x hx (beq_iff_eq.mpr hname)

/-- **When a registration that ends well leaves no URL pattern to two servlets.**  That is so
exactly if it was so before and, where a name awaits a mapping, it is the only one and no
servlet has all URLs yet.  Apart from that one pattern everything stays mapped as it was. -/
theorem conflictFree_register_iff
    (hok : ∃ registration, (register config loader w).result = .ok registration) :
    ((register config loader w).state.descriptor.ConflictFree ↔
      w.descriptor.ConflictFree ∧ ∀ n, AwaitsMapping config loader w n →
        (∀ m, "/*" ∉ w.descriptor.urlPatterns m) ∧ ∀ m, AwaitsMapping config loader w m → m = n) ∧
    ∀ pattern, pattern ≠ "/*" → ∀ n,
      pattern ∈ (register config loader w).state.descriptor.urlPatterns n ↔
        pattern ∈ w.descriptor.urlPatterns n := by
  have hafter := mem_urlPatterns_register hok
  have hkeeps : ∀ pattern n, pattern ∈ w.descriptor.urlPatterns n →
      pattern ∈ (register config loader w).state.descriptor.urlPatterns n := fun pattern n h =>
    (hafter pattern n).mpr (.inl h)
  have hgets : ∀ n, AwaitsMapping config loader w n →
      "/*" ∈ (register config loader w).state.descriptor.urlPatterns n := fun n h =>
    (hafter "/*" n).mpr (.inr ⟨rfl, h⟩)
  refine ⟨⟨?_, ?_⟩, ?_⟩
  · intro hfree
    refine ⟨fun pattern m n hm hn => ?_, fun n hn => ⟨fun m hm => ?_, fun m hm => ?_⟩⟩
    · exact hfree pattern m n (hkeeps pattern m hm) (hkeeps pattern n hn)
    · -- the servlet would be the name itself, which is not mapped
      obtain rfl := hfree "/*" m n (hkeeps "/*" m hm) (hgets n hn)
      exact not_mem_urlPatterns_of_not_mapped hn.not_mapped hm
    · exact hfree "/*" m n (hgets m hm) (hgets n hn)
  · rintro ⟨hfree, hsingle⟩ pattern m n hm hn
    rcases (hafter pattern m).mp hm with hmBefore | ⟨hm, hmAwaits⟩
    · rcases (hafter pattern n).mp hn with hnBefore | ⟨hn, hnAwaits⟩
      · exact hfree pattern m n hmBefore hnBefore
      · exact absurd (hn ▸ hmBefore) ((hsingle n hnAwaits).1 m)
    · rcases (hafter pattern n).mp hn with hnBefore | ⟨-, hnAwaits⟩
      · exact absurd (hm ▸ hnBefore) ((hsingle m hmAwaits).1 n)
      · exact (hsingle n hnAwaits).2 m hmAwaits
  · intro pattern hother n
    rw [hafter pattern n]
    exact or_iff_left fun h => hother h.1

/-- The metadata of a web application with two applications. -/
def twoApplications : Metadata :=
  (Metadata.addApplication {} ⟨"Admin", some "/admin"⟩).addApplication ⟨"Shop", some "/shop"⟩

/-- A web application with two applications, whose descriptor maps some URLs. -/
def twoShops (mappings : List ServletMapping) : WebState where
  metadata := twoApplications
  descriptor := { servletMappings := mappings }

/-- A loader that knows both applications. -/
def twoShopsLoader : ClassLoader := ({} : ClassTable).loader ["Admin", "Shop"]

theorem mem_values_twoApplications {a : Application} :
    a ∈ twoApplications.applications.values ↔
      a = ⟨"Admin", some "/admin"⟩ ∨ a = ⟨"Shop", some "/shop"⟩ := by
  have hvalues : twoApplications.applications.values =
      [⟨"Admin", some "/admin"⟩, ⟨"Shop", some "/shop"⟩] := by decide +kernel
  simp [hvalues]

theorem isOk_register_twoShops (mappings : List ServletMapping) :
    ∃ registration, (register {} twoShopsLoader (twoShops mappings)).result = .ok registration := by
  refine (isOk_register_iff _ _ _).mpr fun _ n hn => ?_
  obtain ⟨a, ha, rfl⟩ := List.mem_map.mp hn
  rcases mem_values_twoApplications.mp (List.mem_filter.mp ha).1 with rfl | rfl
  · exact ⟨_, rfl⟩
  · exact ⟨_, rfl⟩

theorem AwaitsMapping.of_twoShops {mappings : List ServletMapping}
    (h : AwaitsMapping {} twoShopsLoader (twoShops mappings) n) : n = "Admin" ∨ n = "Shop" := by
  obtain ⟨a, ha, -, handle, hload, rfl⟩ := h.loaded
  rw [ClassTable.keepsNames_loader _ _ a.name handle hload]
  rcases mem_values_twoApplications.mp ha with rfl | rfl
  · exact .inl rfl
  · exact .inr rfl

theorem awaitsMapping_shop {mappings : List ServletMapping}
    (hnot : (twoShops mappings).descriptor.isMapped "Shop" = false) :
    AwaitsMapping {} twoShopsLoader (twoShops mappings) "Shop" := by
  refine ⟨?_, ⟨_, mem_values_twoApplications.mpr (.inr rfl), .inl rfl, _, rfl, rfl⟩, rfl, hnot⟩
  rintro (h | h) <;> cases h

/-- One of the two applications is mapped already.  There is no conflict if it has some URLs,
and one if it has all URLs. -/
theorem conflictFree_register_iff_twoShops :
    ((∃ registration, (register {} twoShopsLoader (twoShops [⟨"Admin", ["/a"]⟩])).result =
        .ok registration) ∧
      (register {} twoShopsLoader (twoShops [⟨"Admin", ["/a"]⟩])).state.descriptor.ConflictFree) ∧
    (∃ registration, (register {} twoShopsLoader (twoShops [⟨"Admin", ["/*"]⟩])).result =
        .ok registration) ∧
      ¬ (register {} twoShopsLoader (twoShops [⟨"Admin", ["/*"]⟩])
        ).state.descriptor.ConflictFree := by
  have hsome := isOk_register_twoShops [⟨"Admin", ["/a"]⟩]
  have hall := isOk_register_twoShops [⟨"Admin", ["/*"]⟩]
  have hpatterns : ∀ pattern n, pattern ∈ (twoShops [⟨"Admin", ["/a"]⟩]).descriptor.urlPatterns n →
      pattern = "/a" ∧ n = "Admin" := by
    intro pattern n h
    obtain ⟨x, hx, hname, hpattern⟩ := mem_urlPatterns.mp h
    obtain rfl := List.mem_singleton.mp hx
    exact ⟨List.mem_singleton.mp hpattern, hname.symm⟩
  refine ⟨⟨hsome, (conflictFree_register_iff hsome).1.mpr ⟨?_, fun n hn => ⟨?_, ?_⟩⟩⟩, hall, ?_⟩
  · intro pattern m n hm hn
    rw [(hpatterns pattern m hm).2, (hpatterns pattern n hn).2]
  · intro m hm
    exact absurd (hpatterns "/*" m hm).1 (by decide)
  · -- the name that is mapped awaits none
    have hshop : ∀ n, AwaitsMapping {} twoShopsLoader (twoShops [⟨"Admin", ["/a"]⟩]) n →
        n = "Shop" := by
      intro n hn
      rcases hn.of_twoShops with rfl | rfl
      · exact absurd hn.not_mapped (by decide)
      · rfl
    intro m hm
    rw [hshop m hm, hshop n hn]
  · intro hfree
    obtain ⟨-, hsingle⟩ := (conflictFree_register_iff hall).1.mp hfree
    exact (hsingle "Shop" (awaitsMapping_shop rfl)).1 "Admin" (by decide)

/-- **A registration may map a URL pattern to two servlets**, to two applications or to an
application beside one that the descriptor maps. -/
theorem not_conflictFree_register :
    ((twoShops []).descriptor.ConflictFree ∧
      (∃ registration, (register {} twoShopsLoader (twoShops [])).result = .ok registration) ∧
      ¬ (register {} twoShopsLoader (twoShops [])).state.descriptor.ConflictFree) ∧
    ((twoShops [⟨"Admin", ["/*"]⟩]).descriptor.ConflictFree ∧
      (∃ registration, (register {} twoShopsLoader (twoShops [⟨"Admin", ["/*"]⟩])).result =
        .ok registration) ∧
      ¬ (register {} twoShopsLoader (twoShops [⟨"Admin", ["/*"]⟩])
        ).state.descriptor.ConflictFree) := by
  refine ⟨⟨?_, isOk_register_twoShops _, fun hfree => ?_⟩, ?_, isOk_register_twoShops _,
    fun hfree => ?_⟩
  · intro pattern m n hm
    exact absurd hm List.not_mem_nil
  · exact absurd (hfree "/*" "Admin" "Shop" (by decide +kernel) (by decide +kernel)) (by decide)
  · intro pattern m n hm hn
    obtain ⟨x, hx, rfl, -⟩ := mem_urlPatterns.mp hm
    obtain ⟨y, hy, rfl, -⟩ := mem_urlPatterns.mp hn
    rw [List.mem_singleton.mp hx, List.mem_singleton.mp hy]
  · exact absurd (hfree "/*" "Admin" "Shop" (by decide +kernel) (by decide +kernel)) (by decide)

end Registration

end RestDeployment
