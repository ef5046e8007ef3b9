import Mathlib.Logic.Relation
import RestDeployment.Proofs.ScanPolicy.Assignment

/-!
# Assignments that can be rearranged

What a list of assignments leads to depends on three things only, the last assignments to the
three flags: the policy follows them (`ScanPolicy.Follows`, `resolve_eq_ok_iff`).  Whether the
other flags are implied is decided by the last assignment to `all`, wherever it stands, and not by
what was known of it on the way.

So a list may be rearranged as long as no flag notices (`Rearranged`): the changes keep what is
last, one by one (`Rearranged.lastValue_iff`), and then in any number.  Only a list that cannot be
read has to be left alone, since dropping the assignment that cannot be read would hide the fault.
-/

namespace RestDeployment

namespace ScanPolicy

open ScanFlag

variable {hasBootClasses metadataComplete : Bool} {assigned : List (String × Option String)}
  {values : List (ScanFlag × Bool)} {fault : Fault} {p p' : ScanPolicy}

/-- The value of a flag. -/
def value (p : ScanPolicy) : ScanFlag → Bool
  | .all => p.scanAll
  | .providers => p.scanProviders
  | .resources => p.scanResources

theorem eq_of_value_eq (hboot : p.hasBootClasses = p'.hasBootClasses)
    (hvalue : ∀ flag, p.value flag = p'.value flag) : p = p' := by
  obtain ⟨all, providers, resources, boot⟩ := p
  obtain ⟨all', providers', resources', boot'⟩ := p'
  cases hboot
  cases hvalue .all
  cases hvalue .providers
  cases hvalue .resources
  rfl

/-- A policy follows assignments: boot classes turn every flag off; otherwise the last assignment
to a flag counts, and a flag without one is on where metadata are incomplete or, `all` itself
apart, where `all` was turned on. -/
structure Follows (hasBootClasses metadataComplete : Bool)
    (assigned : List (String × Option String)) (p : ScanPolicy) : Prop where
  boot : p.hasBootClasses = hasBootClasses
  off : hasBootClasses = true → ∀ flag, p.value flag = false
  last : hasBootClasses = false → ∀ flag b, LastValue assigned flag b → p.value flag = b
  all : hasBootClasses = false → Unassigned assigned .all → p.value .all = !metadataComplete
  implied : hasBootClasses = false → ∀ flag, flag ≠ .all → Unassigned assigned flag →
    (p.value flag = true ↔ metadataComplete = false ∨ LastValue assigned .all true)

theorem value_ofFlags_all :
    (ofFlags false metadataComplete values).value .all =
      (lastAssigned .all values).getD !metadataComplete := rfl

theorem value_ofFlags_of_ne {flag : ScanFlag} (hne : flag ≠ .all) :
    (ofFlags false metadataComplete values).value flag =
      (lastAssigned flag values).getD
        (!metadataComplete || lastAssigned .all values == some true) := by
  cases flag with
  | all => exact absurd rfl hne
  | providers => rfl
  | resources => rfl

theorem follows_ofFlags (hread : assignments assigned = .ok values) :
    Follows hasBootClasses metadataComplete assigned
      (ofFlags hasBootClasses metadataComplete values) := by
  cases hasBootClasses with
  | true =>
      refine ⟨rfl, fun _ flag => ?_, nofun, nofun, nofun⟩
      cases flag <;> rfl
  | false =>
      refine ⟨rfl, nofun, fun _ flag b hlast => ?_, fun _ hnone => ?_, fun _ flag hne hnone => ?_⟩
      · have hvalue := (lastAssigned_eq_some_iff hread).mpr hlast
        by_cases hall : flag = .all
        · rw [hall] at hvalue ⊢
          rw [value_ofFlags_all, hvalue, Option.getD_some]
        · rw [value_ofFlags_of_ne hall, hvalue, Option.getD_some]
      · rw [value_ofFlags_all, (lastAssigned_eq_none_iff hread).mpr hnone, Option.getD_none]
      · rw [value_ofFlags_of_ne hne, (lastAssigned_eq_none_iff hread).mpr hnone, Option.getD_none,
          Bool.or_eq_true, Bool.not_eq_true', beq_iff_eq, lastAssigned_eq_some_iff hread]

/-- Assignments that can be read determine the policy. -/
theorem Follows.unique (hreadable : ∀ a ∈ assigned, ¬ Unreadable a)
    (h : Follows hasBootClasses metadataComplete assigned p)
    (h' : Follows hasBootClasses metadataComplete assigned p') : p = p' := by
  refine eq_of_value_eq (h.boot.trans h'.boot.symm) fun flag => ?_
  cases hasBootClasses with
  | true => rw [h.off rfl, h'.off rfl]
  | false =>
      rcases exists_lastValue_or_unassigned hreadable flag with ⟨b, hlast⟩ | hnone
      · rw [h.last rfl flag b hlast, h'.last rfl flag b hlast]
      · by_cases hall : flag = .all
        · rw [hall] at hnone ⊢
          rw [h.all rfl hnone, h'.all rfl hnone]
        · rw [Bool.eq_iff_iff, h.implied rfl flag hall hnone, h'.implied rfl flag hall hnone]

/-! ### What a list of assignments leads to -/

theorem resolve_eq_error_iff :
    resolve hasBootClasses metadataComplete assigned = .error fault ↔
      ∃ a, FirstUnreadable assigned a ∧ fault = .invalidValue a.1 a.2 := by
  rw [← assignments_eq_error_iff, resolve]
  cases assignments assigned with
  | error fault' => simp [Except.map]
  | ok values => simp [Except.map]

theorem resolve_eq_ok_iff :
    resolve hasBootClasses metadataComplete assigned = .ok p ↔
      (∀ a ∈ assigned, ¬ Unreadable a) ∧
        Follows hasBootClasses metadataComplete assigned p := by
  cases hread : assignments assigned with
  | error fault =>
      obtain ⟨a, hfirst, -⟩ := assignments_eq_error_iff.mp hread
      obtain ⟨a, ha, hbad⟩ := exists_firstUnreadable_iff.mp ⟨a, hfirst⟩
      rw [resolve, hread]
      exact iff_of_false nofun fun h => h.1 a ha hbad
  | ok values =>
      have hreadable : ∀ a ∈ assigned, ¬ Unreadable a := by
        intro a ha hbad
        obtain ⟨a, hfirst⟩ := exists_firstUnreadable_iff.mpr ⟨a, ha, hbad⟩
        rw [assignments_eq_error_iff.mpr ⟨a, hfirst, rfl⟩] at hread
        cases hread
      have hfollows : Follows hasBootClasses metadataComplete assigned
          (ofFlags hasBootClasses metadataComplete values) := follows_ofFlags hread
      rw [resolve, hread, and_iff_right hreadable]
      constructor
      · rintro ⟨⟩
        exact hfollows
      · intro hp
        exact congrArg Except.ok (hfollows.unique hreadable hp)

/-! ### Changes that no flag notices -/

variable {assigned' : List (String × Option String)} {flag : ScanFlag} {b : Bool}

/-- A change to a list of assignments that no flag notices: an assignment to no flag comes in, one
that a later one to the same flag overrides is dropped, or the assignments change places but those
to any one flag keep their order. -/
inductive Rearranged : List (String × Option String) → List (String × Option String) → Prop
  | unrelated {before after : List (String × Option String)} {a : String × Option String}
      (hno : ∀ flag : ScanFlag, a.1 ∉ flag.names) :
      Rearranged (before ++ after) (before ++ a :: after)
  | overridden {before after : List (String × Option String)} {a : String × Option String}
      {flag : ScanFlag} (hflag : a.1 ∈ flag.names) (hlater : ∃ a' ∈ after, a'.1 ∈ flag.names) :
      Rearranged (before ++ a :: after) (before ++ after)
  | reordered {assigned assigned' : List (String × Option String)} (hperm : assigned.Perm assigned')
      (hflags : ∀ flag : ScanFlag, assigned.filter (·.1 ∈ flag.names) =
        assigned'.filter (·.1 ∈ flag.names)) :
      Rearranged assigned assigned'

namespace Rearranged

theorem readable (h : Rearranged assigned assigned') (hreadable : ∀ a ∈ assigned, ¬ Unreadable a) :
    ∀ a ∈ assigned', ¬ Unreadable a := by
  cases h with
  | unrelated hno =>
      intro a ha
      rw [List.mem_append, List.mem_cons] at ha
      rcases ha with hbefore | rfl | hafter
      · exact hreadable a (List.mem_append_left _ hbefore)
      · exact not_unreadable_of_no_flag hno
      · exact hreadable a (List.mem_append_right _ hafter)
  | overridden hflag hlater =>
      intro a ha
      refine hreadable a ?_
      rw [List.mem_append] at ha
      exact List.mem_append.mpr (ha.imp_right (List.mem_cons_of_mem _))
  | reordered hperm hflags => exact fun a ha => hreadable a (hperm.mem_iff.mpr ha)

theorem unassigned_iff (h : Rearranged assigned assigned') :
    Unassigned assigned flag ↔ Unassigned assigned' flag := by
  cases h with
  | unrelated hno =>
      rw [unassigned_append, unassigned_append, unassigned_cons, and_iff_right (hno flag)]
  | @overridden before after a f hflag hlater =>
      rw [unassigned_append, unassigned_append, unassigned_cons]
      refine and_congr_right fun _ => and_iff_right_of_imp fun hafter hsame => ?_
      -- the later assignment is to this flag
      obtain ⟨a', ha', hf⟩ := hlater
      rw [mem_names_iff hflag] at hsame
      exact hafter a' ha' (hsame ▸ hf)
  | reordered hperm hflags => rw [← unassigned_filter, hflags flag, unassigned_filter]

theorem lastValue_iff (h : Rearranged assigned assigned') :
    LastValue assigned flag b ↔ LastValue assigned' flag b := by
  cases h with
  | unrelated hno =>
      rw [lastValue_append, lastValue_append, lastValue_cons, unassigned_cons,
        and_iff_right (hno flag)]
      refine or_congr_left (or_iff_left ?_).symm
      exact fun hlast => hno flag hlast.2.1
  | @overridden before after a f hflag hlater =>
      obtain ⟨a', ha', hf⟩ := hlater
      have hnot : ¬ (Unassigned after flag ∧ a.1 ∈ flag.names) := by
        rintro ⟨hafter, hsame⟩
        rw [mem_names_iff hflag] at hsame
        exact hafter a' ha' (hsame ▸ hf)
      rw [lastValue_append, lastValue_append, lastValue_cons, unassigned_cons]
      tauto
  | reordered hperm hflags => rw [← lastValue_filter, hflags flag, lastValue_filter]

/-- The same policy follows. -/
theorem follows (h : Rearranged assigned assigned')
    (hfollows : Follows hasBootClasses metadataComplete assigned p) :
    Follows hasBootClasses metadataComplete assigned' p where
  boot := hfollows.boot
  off := hfollows.off
  last hno flag b hlast := hfollows.last hno flag b (h.lastValue_iff.mpr hlast)
  all hno hnone := hfollows.all hno (h.unassigned_iff.mpr hnone)
  implied hno flag hne hnone := by
    rw [hfollows.implied hno flag hne (h.unassigned_iff.mpr hnone), h.lastValue_iff]

end Rearranged

/-- Any number of such changes leaves the policy as it is. -/
theorem resolve_of_rearranged (h : Relation.ReflTransGen Rearranged assigned assigned')
    (hok : resolve hasBootClasses metadataComplete assigned = .ok p) :
    resolve hasBootClasses metadataComplete assigned' = .ok p := by
  induction h with
  | refl => exact hok
  | tail _ hstep ih =>
      obtain ⟨hreadable, hfollows⟩ := resolve_eq_ok_iff.mp ih
      exact resolve_eq_ok_iff.mpr ⟨hstep.readable hreadable, hstep.follows hfollows⟩

/-- A list that can be read leads to a policy. -/
theorem exists_resolve_of_readable (hreadable : ∀ a ∈ assigned, ¬ Unreadable a) :
    ∃ p, resolve hasBootClasses metadataComplete assigned = .ok p := by
  cases hresolve : resolve hasBootClasses metadataComplete assigned with
  | ok p => exact ⟨p, rfl⟩
  | error fault =>
      obtain ⟨a, hfirst, -⟩ := resolve_eq_error_iff.mp hresolve
      obtain ⟨a, ha, hbad⟩ := exists_firstUnreadable_iff.mp ⟨a, hfirst⟩
      exact absurd hbad (hreadable a ha)

/-- **Assignments count as they are last.**  A list of assignments fails at the first one to a flag
whose value stands for neither true nor false, if there is one, whether there are boot classes or
not; else it leads to the one policy that follows the last assignment to each flag.  So nothing
comes of changes to the list that no flag notices. -/
theorem resolves_by_last_assignments (hasBootClasses metadataComplete : Bool)
    (assigned : List (String × Option String)) :
    ((∃ fault, resolve hasBootClasses metadataComplete assigned = .error fault) ↔
        ∃ a ∈ assigned, Unreadable a) ∧
      (∀ fault, resolve hasBootClasses metadataComplete assigned = .error fault ↔
        ∃ a, FirstUnreadable assigned a ∧ fault = .invalidValue a.1 a.2) ∧
      (∀ p, resolve hasBootClasses metadataComplete assigned = .ok p ↔
        (∀ a ∈ assigned, ¬ Unreadable a) ∧
          Follows hasBootClasses metadataComplete assigned p) ∧
      ((∀ a ∈ assigned, ¬ Unreadable a) →
        ∀ assigned', Relation.ReflTransGen Rearranged assigned assigned' →
          resolve hasBootClasses metadataComplete assigned' =
            resolve hasBootClasses metadataComplete assigned) := by
  refine ⟨?_, fun fault => resolve_eq_error_iff, fun p => resolve_eq_ok_iff, ?_⟩
  · simp only [resolve_eq_error_iff]
    rw [exists_comm, ← exists_firstUnreadable_iff]
    exact exists_congr fun a => by simp
  · intro hreadable assigned' hchanged
    obtain ⟨p, hok⟩ := exists_resolve_of_readable hreadable
    rw [hok, resolve_of_rearranged hchanged hok]

/-- Assignments under both kinds of names and in any letter case, one of them to no flag. -/
def mixedAssignments : List (String × Option String) :=
  [("jaxrs.scan", some "TRUE"), ("theme", none), ("scan-providers", some "false"),
    ("scan-all", some "False"), ("jaxrs.scan.providers", some "tRue")]

theorem readable_mixedAssignments : ∀ a ∈ mixedAssignments, ¬ Unreadable a := by
  have hcase : ∀ a ∈ mixedAssignments, a = ("theme", none) ∨ ∃ b, StandsFor a.2 b := by
    simp [mixedAssignments, StandsFor, Text.InAnyCase, word]
  intro a ha
  rcases hcase a ha with rfl | ⟨b, hb⟩
  · refine not_unreadable_of_no_flag fun flag => ?_
    cases flag <;> decide
  · exact not_unreadable_of_standsFor hb

theorem lastValue_mixedAssignments :
    LastValue mixedAssignments .all false ∧ LastValue mixedAssignments .providers true ∧
      Unassigned mixedAssignments .resources := by
  refine ⟨?_, ?_, by decide⟩
  · exact ⟨[_, _, _], _, [_], rfl, by decide, ⟨_, rfl, by simp [Text.InAnyCase, word]⟩, by decide⟩
  · exact ⟨[_, _, _, _], _, [], rfl, by decide, ⟨_, rfl, by simp [Text.InAnyCase, word]⟩,
      by decide⟩

/-- Providers are scanned and nothing else: that everything was to be scanned is taken back later
on, and then it is implied for the resources no longer.  The assignment that is taken back may be
dropped and the others change places, but none may be added whose value cannot be read, not even
where there are boot classes. -/
theorem resolves_by_last_assignments_mixedAssignments :
    (∀ a ∈ mixedAssignments, ¬ Unreadable a) ∧
      resolve false true mixedAssignments = .ok { scanProviders := true } ∧
      resolve false true [("scan-providers", some "false"), ("scan-all", some "False"),
        ("jaxrs.scan.providers", some "tRue"), ("theme", none)] =
          .ok { scanProviders := true } ∧
      resolve true true (mixedAssignments ++ [("scan-resources", some "maybe")]) =
        .error (.invalidValue "scan-resources" (some "maybe")) := by
  obtain ⟨-, -, hok, hsame⟩ := resolves_by_last_assignments false true mixedAssignments
  have hscan : resolve false true mixedAssignments = .ok { scanProviders := true } := by
    obtain ⟨p, hp⟩ := exists_resolve_of_readable readable_mixedAssignments
    have hfollows := ((hok p).mp hp).2
    obtain ⟨hall, hproviders, hunassigned⟩ := lastValue_mixedAssignments
    have hresources : p.value .resources = false := by
      rw [Bool.eq_false_iff, Ne, hfollows.implied rfl .resources (by decide) hunassigned]
      rintro (hno | hon)
      · exact absurd hno (by decide)
      · exact absurd ((hfollows.last rfl .all true hon).symm.trans
          (hfollows.last rfl .all false hall)) (by decide)
    rw [hp]
    refine congrArg Except.ok (eq_of_value_eq hfollows.boot fun flag => ?_)
    cases flag with
    | all => exact hfollows.last rfl .all false hall
    | providers => exact hfollows.last rfl .providers true hproviders
    | resources => exact hresources
  refine ⟨readable_mixedAssignments, hscan, ?_, ?_⟩
  · have hdropped : Rearranged mixedAssignments (mixedAssignments.drop 1) :=
      @Rearranged.overridden [] _ _ .all (by decide) (by decide)
    refine (hsame readable_mixedAssignments _ (.tail (.single hdropped) ?_)).trans hscan
    refine .reordered (by decide) fun flag => ?_
    cases flag <;> decide
  · have hbad : Unreadable ("scan-resources", some "maybe") := by
      refine ⟨⟨.resources, by decide⟩, fun b => ?_⟩
      cases b <;> simp [StandsFor, Text.InAnyCase, word]
    obtain ⟨-, herror, -, -⟩ := resolves_by_last_assignments true true
      (mixedAssignments ++ [("scan-resources", some "maybe")])
    exact (herror _).mpr
      ⟨_, ⟨mixedAssignments, [], rfl, hbad, readable_mixedAssignments⟩, rfl⟩

end ScanPolicy

end RestDeployment
