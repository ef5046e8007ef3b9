import RestDeployment.Config.Codec
import RestDeployment.Manifest
import RestDeployment.Metadata.Codec
import RestDeployment.Occurrence.Codec
import RestDeployment.Proofs.Json.Record

/-!
# JSON forms lose nothing

A value of an exchanged type that is written as JSON and read again is the same value
(`exchangedForms_lossless`).  So every JSON form of a value can be replaced by the one that
is written, whatever fields it leaves out, whatever unknown ones it has and however it
orders and repeats the names of a set.

## Strategy

The statements follow the types: what is read for a record is put together from what is read
for its fields, so the lemma on a type uses those on the types of its fields, lifted to lists
and optional values by `RoundTrips.list` and `RoundTrips.nullable`.  Three forms are not plain
records.

* A set is written as an increasing list and a map as an object with increasing keys.  Reading
  puts them together again by insertion (`NameSet.ofList_toList`, `NameMap.ofList_entries`).
* A site is a record among whose members one tells the kind.  The others can be told apart
  from it (`ClassEntry.filter_members`).
* A site is held as a whole before it is read, so it must not nest too deeply
  (`Site.storable_toJson`).
-/

namespace RestDeployment

open Json (RoundTrips nullable?_of_ne_null)

/-! ### Class entries -/

theorem ClassKind.roundTrips (isNothing : Json → Bool) :
    RoundTrips ClassKind.toJson (ClassKind.ofJson? isNothing) := by
  intro k
  cases k <;> rfl

theorem Modifier.roundTrips (isNothing : Json → Bool) :
    RoundTrips Modifier.toJson (Modifier.ofJson? isNothing) := by
  intro m
  cases m <;> rfl

theorem Annotation.roundTrips : RoundTrips Annotation.toJson Annotation.ofJson? := by
  rintro ⟨name, value⟩
  cases value with
  | none => simp [ Annotation.toJson, Annotation.ofJson?]
  | some value => simp [ Annotation.toJson, Annotation.ofJson?]

theorem Member.roundTrips : RoundTrips Member.toJson Member.ofJson? := by
  rintro ⟨name, annotations⟩
  have hannotations := Annotation.roundTrips.list annotations
  simp [Member.toJson, Member.ofJson?, hannotations]

namespace ClassEntry

/-- The members of a class entry are read back, whatever may stand beside the names of kinds
and modifiers. -/
theorem ofJsonWith?_members (isNothing : Json → Bool) (c : ClassEntry) :
    ofJsonWith? isNothing (.object c.members) = some c := by
  obtain ⟨name, kind, modifiers, superName, interfaces, annotations, methods, fields⟩ := c
  have hkind := ClassKind.roundTrips isNothing kind
  have hmodifiers := (Modifier.roundTrips isNothing).list modifiers
  have hannotations := Annotation.roundTrips.list annotations
  have hmethods := Member.roundTrips.list methods
  have hfields := Member.roundTrips.list fields
  cases superName with
  | none =>
      simp [members, ofJsonWith?, hkind, hmodifiers, hannotations, hmethods, hfields]
  | some superName =>
      simp [members, ofJsonWith?, hkind, hmodifiers, hannotations, hmethods, hfields]

theorem roundTrips : RoundTrips toJson ofJson? :=
  ofJsonWith?_members Json.isNull

end ClassEntry

/-! ### Occurrences -/

namespace Json

/-- A list can be held one level deeper than its items. -/
theorem storable_ofList {α : Type} {write : α → Json} {depth : Nat}
    (h : ∀ a, (write a).storable depth = true) (as : List α) :
    (ofList write as).storable (depth + 1) = true := by
  show storableItems depth (as.map write) = true
  induction as with
  | nil => rfl
  | cons a as ih => rw [List.map_cons, storableItems, h a, ih, Bool.and_self]

end Json

theorem Annotation.storable_toJson (a : Annotation) (depth : Nat) :
    a.toJson.storable (depth + 1) = true := by
  obtain ⟨name, value⟩ := a
  cases value <;> rfl

theorem Member.storable_toJson (m : Member) (depth : Nat) :
    m.toJson.storable (depth + 3) = true := by
  have hannotations := Json.storable_ofList
    (fun a => Annotation.storable_toJson a depth) m.annotations
  simp [Member.toJson, Json.storable, Json.storableMembers, hannotations]

namespace ClassEntry

/-- What stands deepest in a class entry is an annotation of a method: in the list of methods,
in a method, in its list of annotations. -/
theorem storableMembers_members (c : ClassEntry) (depth : Nat) :
    Json.storableMembers (depth + 4) c.members = true := by
  have hmodifiers : (Json.ofList Modifier.toJson c.modifiers).storable (depth + 4) = true :=
    Json.storable_ofList (fun _ => rfl) c.modifiers
  have hinterfaces : (Json.ofList Json.string c.interfaces).storable (depth + 4) = true :=
    Json.storable_ofList (fun _ => rfl) c.interfaces
  have hannotations := Json.storable_ofList
    (fun a => Annotation.storable_toJson a (depth + 2)) c.annotations
  have hmethods := Json.storable_ofList (fun m => Member.storable_toJson m depth) c.methods
  have hfields := Json.storable_ofList (fun m => Member.storable_toJson m depth) c.fields
  cases hsuper : c.superName <;>
    simp [members, hsuper, Json.storableMembers, Json.storable, ClassKind.toJson, Json.ofStrings,
      hmodifiers, hinterfaces, hannotations, hmethods, hfields]

/-- No member of a class entry has the name under which a site tells its kind. -/
theorem filter_members (c : ClassEntry) :
    (c.members.filter fun member => member.1 == "type") = [] ∧
      (c.members.filter fun member => member.1 != "type") = c.members := by
  cases hsuper : c.superName <;> simp [members, hsuper]

end ClassEntry

namespace Site

theorem position?_number (position : UInt16) :
    position? (.number position.toNat) = some position := by
  have hbound : (0 : Int) ≤ position.toNat ∧ (position.toNat : Int) < 65536 := by
    have := position.toNat_lt
    omega
  simp [position?, hbound]

theorem storable_toJson (s : Site) (depth : Nat) : s.toJson.storable (depth + 5) = true := by
  cases s with
  | ofClass c =>
      show Json.storableMembers (depth + 4) (("type", .string "class") :: c.members) = true
      rw [Json.storableMembers, c.storableMembers_members depth]
      rfl
  | method owner name => rfl
  | field owner name => rfl
  | parameter owner ofMethod position => rfl

theorem storable_nestingLimit (s : Site) : s.toJson.storable nestingLimit = true :=
  storable_toJson s 121

/-- What is read once the kind has been told apart.  The fields are arbitrary here, since the
bound on the position of a parameter is not to be computed with. -/
theorem ofJson?_of_split? {j fields : Json} (hstorable : j.storable nestingLimit = true) :
    (split? j = some ("class", fields) →
        ofJson? j = (ClassEntry.ofJsonWith? isNothing fields).map .ofClass) ∧
      (split? j = some ("method", fields) →
        ofJson? j = (ownedName? fields).map fun owned => .method owned.1 owned.2) ∧
      (split? j = some ("field", fields) →
        ofJson? j = (ownedName? fields).map fun owned => .field owned.1 owned.2) ∧
      (split? j = some ("parameter", fields) → ofJson? j = parameter? fields) := by
  unfold ofJson?
  rw [hstorable]
  refine ⟨?_, ?_, ?_, ?_⟩
  all_goals
    intro hsplit
    rw [hsplit]
    rfl

theorem split?_ofClass (c : ClassEntry) :
    split? (toJson (.ofClass c)) = some ("class", .object c.members) := by
  obtain ⟨hnone, hall⟩ := c.filter_members
  have hkind : ((("type", Json.string "class") :: c.members).filter fun member =>
      member.1 == "type") = [("type", .string "class")] := by
    rw [List.filter_cons_of_pos (by rfl), hnone]
  have hrest : ((("type", Json.string "class") :: c.members).filter fun member =>
      member.1 != "type") = c.members := by
    rw [List.filter_cons_of_neg (by decide), hall]
  simp only [toJson, split?, hkind, hrest]

theorem ownedName?_members (owner name : String) :
    ownedName? (.object [("owner", .string owner), ("name", .string name)]) =
      some (owner, name) := by
  simp [ownedName?]

theorem parameter?_members {owner ofMethod : String} {j : Json} {position : UInt16}
    (h : position? j = some position) :
    parameter? (.object [("owner", .string owner), ("method", .string ofMethod),
      ("position", j)]) = some (.parameter owner ofMethod position) := by
  simp [parameter?, h]

theorem roundTrips : RoundTrips toJson ofJson? := by
  intro s
  have hstorable := storable_nestingLimit s
  cases s with
  | ofClass c =>
      rw [(ofJson?_of_split? hstorable).1 (split?_ofClass c), c.ofJsonWith?_members]
      rfl
  | method owner name =>
      have hsplit : split? (toJson (.method owner name)) =
          some ("method", .object [("owner", .string owner), ("name", .string name)]) := by
        simp [toJson, split?]
      rw [(ofJson?_of_split? hstorable).2.1 hsplit, ownedName?_members]
      rfl
  | field owner name =>
      have hsplit : split? (toJson (.field owner name)) =
          some ("field", .object [("owner", .string owner), ("name", .string name)]) := by
        simp [toJson, split?]
      rw [(ofJson?_of_split? hstorable).2.2.1 hsplit, ownedName?_members]
      rfl
  | parameter owner ofMethod position =>
      have hsplit : split? (toJson (.parameter owner ofMethod position)) =
          some ("parameter", .object [("owner", .string owner), ("method", .string ofMethod),
            ("position", .number position.toNat)]) := by
        simp [toJson, split?]
      rw [(ofJson?_of_split? hstorable).2.2.2 hsplit]
      exact parameter?_members (position?_number position)

end Site

theorem Occurrence.roundTrips : RoundTrips Occurrence.toJson Occurrence.ofJson? := by
  rintro ⟨name, site, value⟩
  have hsite := Site.roundTrips site
  cases value with
  | none => simp [Occurrence.toJson, Occurrence.ofJson?, hsite]
  | some value => simp [Occurrence.toJson, Occurrence.ofJson?, hsite]

/-! ### Web descriptors -/

theorem Param.roundTrips : RoundTrips Param.toJson Param.ofJson? := by
  rintro ⟨name, value⟩
  simp [Param.toJson, Param.ofJson?]

theorem Servlet.roundTrips : RoundTrips Servlet.toJson Servlet.ofJson? := by
  rintro ⟨name, servletClass, initParams, asyncSupported, loadOnStartup⟩
  have hparams := Param.roundTrips.list initParams
  cases servletClass <;> cases loadOnStartup <;>
    simp [Servlet.toJson, Servlet.ofJson?, hparams]

theorem Filter.roundTrips : RoundTrips Filter.toJson Filter.ofJson? := by
  rintro ⟨name, filterClass, initParams⟩
  have hparams := Param.roundTrips.list initParams
  cases filterClass with
  | none => simp [Filter.toJson, Filter.ofJson?, hparams]
  | some filterClass => simp [Filter.toJson, Filter.ofJson?, hparams]

theorem ServletMapping.roundTrips : RoundTrips ServletMapping.toJson ServletMapping.ofJson? := by
  rintro ⟨servletName, urlPatterns⟩
  simp [ServletMapping.toJson, ServletMapping.ofJson?]

theorem SecurityConstraint.roundTrips :
    RoundTrips SecurityConstraint.toJson SecurityConstraint.ofJson? := by
  rintro ⟨resourceName, urlPatterns, roles⟩
  simp [SecurityConstraint.toJson, SecurityConstraint.ofJson?]

theorem WebDescriptor.roundTrips : RoundTrips WebDescriptor.toJson WebDescriptor.ofJson? := by
  rintro ⟨metadataComplete, servlets, filters, mappings, contextParams, constraints⟩
  have hservlets := Servlet.roundTrips.list servlets
  have hfilters := Filter.roundTrips.list filters
  have hmappings := ServletMapping.roundTrips.list mappings
  have hparams := Param.roundTrips.list contextParams
  have hconstraints := SecurityConstraint.roundTrips.list constraints
  simp [WebDescriptor.toJson, WebDescriptor.ofJson?, hservlets, hfilters, hmappings,
    hparams, hconstraints]

/-! ### Configurations and manifests -/

theorem Dispatcher.roundTrips : RoundTrips Dispatcher.toJson Dispatcher.ofJson? := by
  rintro ⟨servletClass, modeParam, delegateParam, delegateClass, recognized, allowed⟩
  simp [Dispatcher.toJson, Dispatcher.ofJson?]

theorem Config.roundTrips : RoundTrips Config.toJson Config.ofJson? := by
  rintro ⟨dispatcher, bootClasses, markers, parallel⟩
  have hdispatcher := Dispatcher.roundTrips dispatcher
  simp [Config.toJson, Config.ofJson?, hdispatcher]

theorem UnitManifest.roundTrips : RoundTrips UnitManifest.toJson UnitManifest.ofJson? := by
  rintro ⟨id, parent, dependencies, classes, visible, descriptor⟩
  have hclasses := ClassEntry.roundTrips.list classes
  cases descriptor with
  | none =>
      cases parent <;> simp [UnitManifest.toJson, UnitManifest.ofJson?, hclasses]
  | some web =>
      have hweb : Json.nullable? WebDescriptor.ofJson? web.toJson = some (some web) :=
        nullable?_of_ne_null (WebDescriptor.roundTrips web) fun h => by cases h
      cases parent <;> simp [UnitManifest.toJson, UnitManifest.ofJson?, hclasses, hweb]

theorem Manifest.roundTrips : RoundTrips Manifest.toJson Manifest.ofJson? := by
  rintro ⟨deployment, units⟩
  have hunits := UnitManifest.roundTrips.list units
  simp [Manifest.toJson, Manifest.ofJson?, hunits]

/-! ### Metadata -/

theorem NameSet.roundTrips : RoundTrips NameSet.toJson NameSet.ofJson? := by
  intro s
  rw [NameSet.toJson, NameSet.ofJson?, Json.list?_ofStrings, Option.map_some, NameSet.ofList_toList]

namespace NameMap

variable {α : Type} {write : α → Json} {read? : Json → Option α}

/-- Of the entries that are put into a map under different keys, each is found. -/
theorem get?_foldl_insert {entries : List (String × α)} (h : (entries.map Prod.fst).Nodup)
    (m : NameMap α) (k : String) :
    (entries.foldl (fun m e => m.insert e.1 e.2) m).get? k = (find k entries).or (m.get? k) := by
  induction entries generalizing m with
  | nil => rfl
  | cons e entries ih =>
      obtain ⟨key, a⟩ := e
      rw [List.map_cons, List.nodup_cons] at h
      rw [List.foldl_cons, ih h.2, get?_insert, find]
      by_cases hk : k = key
      · have hnone : find k entries = none := find_eq_none_iff.mpr (hk ▸ h.1)
        rw [if_pos hk, if_pos hk, hnone]
        rfl
      · rw [if_neg hk, if_neg hk]

theorem ofList_entries (m : NameMap α) : ofList m.entries = m := by
  have hkeys : (m.entries.map Prod.fst).Nodup := by
    refine m.increasing.imp fun hlt heq => ?_
    rw [heq] at hlt
    exact String.lt_irrefl _ hlt
  apply ext
  intro k
  rw [ofList, get?_foldl_insert hkeys, get?_empty, Option.or_none]
  rfl

theorem roundTrips (h : RoundTrips write read?) : RoundTrips (toJson write) (ofJson? read?) := by
  intro m
  have hmembers : ∀ entries : List (String × α),
      (entries.map fun e => (e.1, write e.2)).mapM
        (fun member => (read? member.2).map fun a => (member.1, a)) = some entries := by
    intro entries
    induction entries with
    | nil => rfl
    | cons e entries ih =>
        rw [List.map_cons, List.mapM_cons, ih, h e.2]
        rfl
  rw [toJson, ofJson?, hmembers, Option.map_some, ofList_entries]

end NameMap

theorem ScanPolicy.roundTrips : RoundTrips ScanPolicy.toJson ScanPolicy.ofJson? := by
  rintro ⟨scanAll, scanProviders, scanResources, hasBootClasses⟩
  simp [ScanPolicy.toJson, ScanPolicy.ofJson?]

theorem Application.roundTrips : RoundTrips Application.toJson Application.ofJson? := by
  rintro ⟨name, path⟩
  cases path with
  | none => simp [Application.toJson, Application.ofJson?]
  | some path => simp [Application.toJson, Application.ofJson?]

theorem Metadata.roundTrips : RoundTrips Metadata.toJson Metadata.ofJson? := by
  rintro ⟨policy, applications, providers, resources, jndi, boot, created, ignore, unwrapped⟩
  have hpolicy := ScanPolicy.roundTrips policy
  have happlications := NameMap.roundTrips Application.roundTrips applications
  have hproviders := NameSet.roundTrips providers
  have hresources := NameSet.roundTrips resources
  have hjndi := NameSet.roundTrips jndi
  simp [Metadata.toJson, Metadata.ofJson?, Metadata.fieldNames, hpolicy,
    happlications, hproviders, hresources, hjndi]

/-! ### The main statement -/

/-- A JSON form that loses nothing: what is written is read back, and of any JSON value that
stands for something, what is written for it stands for the same. -/
structure Lossless {α : Type} (write : α → Json) (read? : Json → Option α) : Prop where
  reads_back : ∀ a, read? (write a) = some a
  normal_form : ∀ j a, read? j = some a → read? (write a) = some a

theorem Json.RoundTrips.lossless {α : Type} {write : α → Json} {read? : Json → Option α}
    (h : RoundTrips write read?) : Lossless write read? where
  reads_back := h
  normal_form := fun _ a _ => h a

/-- **No exchanged type loses anything in its JSON form.** -/
theorem exchangedForms_lossless :
    Lossless ClassEntry.toJson ClassEntry.ofJson? ∧
      Lossless Occurrence.toJson Occurrence.ofJson? ∧
      Lossless Param.toJson Param.ofJson? ∧
      Lossless Servlet.toJson Servlet.ofJson? ∧
      Lossless Filter.toJson Filter.ofJson? ∧
      Lossless ServletMapping.toJson ServletMapping.ofJson? ∧
      Lossless SecurityConstraint.toJson SecurityConstraint.ofJson? ∧
      Lossless WebDescriptor.toJson WebDescriptor.ofJson? ∧
      Lossless ScanPolicy.toJson ScanPolicy.ofJson? ∧
      Lossless Application.toJson Application.ofJson? ∧
      Lossless Metadata.toJson Metadata.ofJson? ∧
      Lossless Dispatcher.toJson Dispatcher.ofJson? ∧
      Lossless Config.toJson Config.ofJson? ∧
      Lossless Manifest.toJson Manifest.ofJson? :=
  ⟨ClassEntry.roundTrips.lossless, Occurrence.roundTrips.lossless, Param.roundTrips.lossless,
    Servlet.roundTrips.lossless, Filter.roundTrips.lossless, ServletMapping.roundTrips.lossless,
    SecurityConstraint.roundTrips.lossless, WebDescriptor.roundTrips.lossless,
    ScanPolicy.roundTrips.lossless, Application.roundTrips.lossless, Metadata.roundTrips.lossless,
    Dispatcher.roundTrips.lossless, Config.roundTrips.lossless, Manifest.roundTrips.lossless⟩

end RestDeployment
