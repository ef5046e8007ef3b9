import RestDeployment.Proofs.Metadata.Exclusivity
import RestDeployment.Proofs.Metadata.MergeOrder

/-!
# Merging in several passes

Merging acts on the metadata of a unit like a union of sets: which dependencies are listed
decides what comes out, lists can be merged one after the other or all at once, and a list that
was merged before adds nothing (`merges_as_union`).

## What is dropped between two passes

Every pass ends by restoring precedence, and may drop a class for which a later pass finds
another place: a provider goes because of a resource of the same name, which a later dependency
turns into an application.  The class does not come back.  It would have been dropped at the end
in any case, because the place that it lost to is taken from then on, by the same class or by one
that comes before it (`exclusive_adding_exclusive`).  So precedence between two passes makes no
difference (`exclusive_foldl_absorb_exclusive`), and the rest is about the metadata that are
absorbed, which count once each in no order.
-/

namespace RestDeployment.Metadata

variable {target : Metadata} {lookup : String → Option Metadata}
  {unit : String} {ds ds' : List String}

/-! ### Precedence between two passes -/

theorem exclusive_absorb_exclusive (m other : Metadata) :
    (m.exclusive.absorb other).exclusive = (m.absorb other).exclusive := by
  rw [absorb_eq_adding, absorb_eq_adding, exclusive_adding_exclusive]

theorem exclusive_foldl_absorb_exclusive (m : Metadata) (others : List Metadata) :
    (others.foldl absorb m.exclusive).exclusive = (others.foldl absorb m).exclusive := by
  induction others generalizing m with
  | nil => exact exclusive_exclusive m
  | cons other others ih =>
      -- precedence is restored once more behind the first, where it makes no difference either
      calc (others.foldl absorb (m.exclusive.absorb other)).exclusive
        _ = (others.foldl absorb (m.exclusive.absorb other).exclusive).exclusive := (ih _).symm
        _ = (others.foldl absorb (m.absorb other).exclusive).exclusive := by
            rw [exclusive_absorb_exclusive]
        _ = (others.foldl absorb (m.absorb other)).exclusive := ih _

/-- Merging two lists one after the other comes to merging them at once. -/
theorem mergeAll_append (unit : String) (htarget : target.Keyed)
    (hlookup : ∀ d c, lookup d = some c → c.Keyed) (ds ds' : List String) :
    ((target.mergeAll lookup unit ds).1.mergeAll lookup unit ds').1 =
      (target.mergeAll lookup unit (ds ++ ds')).1 := by
  rw [mergeAll_fst, mergeAll_fst, mergeAll_fst, exclusive_foldl_absorb_exclusive,
    ← List.foldl_append]
  refine congrArg exclusive (foldl_absorb_congr htarget (fun c hc => ?_) fun c => ?_)
  · rw [← List.filterMap_append] at hc
    obtain ⟨d, -, hd⟩ := List.mem_filterMap.mp hc
    exact hlookup d c hd
  · simp only [List.mem_append, mem_filterMap_distinctDependencies, or_and_right, exists_or]

/-! ### The report -/

/-- The dependencies of a list are reported by presence, each once and in the order in which
they come first, without the unit itself. -/
structure Reports (lookup : String → Option Metadata) (unit : String) (ds : List String)
    (r : MergeReport) : Prop where
  mem_merged : ∀ d, d ∈ r.merged ↔ (d ∈ ds ∧ d ≠ unit) ∧ (lookup d).isSome = true
  mem_missing : ∀ d, d ∈ r.missing ↔ (d ∈ ds ∧ d ≠ unit) ∧ lookup d = none
  merged_order : r.merged.Pairwise fun d e => ds.idxOf d < ds.idxOf e
  missing_order : r.missing.Pairwise fun d e => ds.idxOf d < ds.idxOf e

theorem reports_mergeAll (lookup : String → Option Metadata) (unit : String) (target : Metadata)
    (ds : List String) : Reports lookup unit ds (target.mergeAll lookup unit ds).2 where
  mem_merged d := by
    rw [mergeAll, List.mem_filter, mem_distinctDependencies]
  mem_missing d := by
    rw [mergeAll, List.mem_filter, mem_distinctDependencies, Option.isNone_iff_eq_none]
  merged_order := (pairwise_firstOccurrences [unit] ds).filter _
  missing_order := (pairwise_firstOccurrences [unit] ds).filter _

/-! ### The whole merge -/

/-- Merging into some metadata acts like a union with what the dependencies contribute. -/
structure MergesAsUnion (lookup : String → Option Metadata) (unit : String) (target : Metadata) :
    Prop where
  union : ∀ ds, (target.mergeAll lookup unit ds).1.IsUnion (Joined lookup unit target ds)
  /-- Only which dependencies are listed counts, and not whether the unit lists itself. -/
  congr : ∀ ds ds', (∀ d, d ≠ unit → (d ∈ ds ↔ d ∈ ds')) →
    (target.mergeAll lookup unit ds).1 = (target.mergeAll lookup unit ds').1 ∧
      (target.mergeAll lookup unit ds).2.dropped = (target.mergeAll lookup unit ds').2.dropped
  append : ∀ ds ds', ((target.mergeAll lookup unit ds).1.mergeAll lookup unit ds').1 =
    (target.mergeAll lookup unit (ds ++ ds')).1
  self : ∀ ds, ((target.mergeAll lookup unit ds).1.mergeAll lookup unit ds).1 =
    (target.mergeAll lookup unit ds).1
  flags : ∀ ds, (target.mergeAll lookup unit ds).1.SameFlags target ∧
    (target.mergeAll lookup unit ds).1.ignoreApplicationPath = target.ignoreApplicationPath
  reports : ∀ ds, Reports lookup unit ds (target.mergeAll lookup unit ds).2

/-- **Merging acts like a union.**  Every dependency contributes its classes; order, repetitions
and the unit itself do not matter, merges one after the other come to one merge, and a merge that
is repeated changes nothing.  Flags and policy are never touched, and every dependency other than
the unit is reported once. -/
theorem merges_as_union (unit : String) (htarget : target.Keyed)
    (hlookup : ∀ d c, lookup d = some c → c.Keyed) : MergesAsUnion lookup unit target := by
  have hcongr : ∀ ds ds', (∀ d, d ≠ unit → (d ∈ ds ↔ d ∈ ds')) →
      (target.mergeAll lookup unit ds).1 = (target.mergeAll lookup unit ds').1 ∧
        (target.mergeAll lookup unit ds).2.dropped =
          (target.mergeAll lookup unit ds').2.dropped := by
    intro ds ds' h
    have hjoined := foldl_absorb_dependencies_congr unit htarget hlookup h
    exact ⟨congrArg exclusive hjoined, congrArg overlap hjoined⟩
  refine ⟨isUnion_mergeAll lookup unit target, hcongr, mergeAll_append unit htarget hlookup,
    fun ds => ?_, fun ds => ?_, reports_mergeAll lookup unit target⟩
  · rw [mergeAll_append unit htarget hlookup]
    exact (hcongr (ds ++ ds) ds fun d _ => by rw [List.mem_append, or_self]).1
  · exact ⟨sameFlags_mergeAll, ignoreApplicationPath_foldl_absorb _ _⟩

/-- Units that each know one class in another place, two of them with different paths. -/
def mapperUnits : String → Option Metadata
  | "writers.jar" => some { providers := .ofList ["Mapper"] }
  | "services.jar" => some { resources := .ofList ["Mapper"] }
  | "shop.jar" => some (Metadata.addApplication {} ⟨"Mapper", some "/shop"⟩)
  | "admin.jar" => some (Metadata.addApplication {} ⟨"Mapper", some "/admin"⟩)
  | _ => none

/-- The class is a provider that becomes a resource in the first pass and an application in the
second one, with the smaller path; one pass over the same units in another order ends alike. -/
theorem merges_as_union_mapperUnits :
    Keyed {} ∧ (∀ d c, mapperUnits d = some c → c.Keyed) ∧
      ∃ first both : Metadata × MergeReport,
        mergeAll mapperUnits "web.war" {} ["writers.jar", "services.jar"] = first ∧
        first.2.dropped = ["Mapper"] ∧ first.1.providers.toList = [] ∧
        mergeAll mapperUnits "web.war" {}
          ["shop.jar", "lib.jar", "admin.jar", "services.jar", "writers.jar"] = both ∧
        (first.1.mergeAll mapperUnits "web.war"
          ["web.war", "shop.jar", "admin.jar", "lib.jar", "shop.jar"]).1 = both.1 ∧
        both.1.applications.get? "Mapper" = some ⟨"Mapper", some "/admin"⟩ ∧
        both.1.resources.toList = [] ∧ both.2.missing = ["lib.jar"] := by
  have hempty : Keyed {} := fun n a ha => by
    rw [NameMap.get?_empty] at ha
    cases ha
  have hunits : ∀ d c, mapperUnits d = some c → c.Keyed := by
    intro d c hc
    unfold mapperUnits at hc
    split at hc
    · cases hc
      exact hempty
    · cases hc
      exact hempty
    · cases hc
      exact hempty.addApplication _
    · cases hc
      exact hempty.addApplication _
    · cases hc
  have hunion := merges_as_union "web.war" hempty hunits
  refine ⟨hempty, hunits, _, _, rfl, rfl, rfl, rfl, ?_, rfl, rfl, rfl⟩
  rw [hunion.append]
  refine (hunion.congr _ _ fun d hd => ?_).1
  simp only [List.cons_append, List.nil_append, List.mem_cons, List.not_mem_nil, hd]
  grind

end RestDeployment.Metadata
