import RestDeployment.Proofs.Metadata.Merge

/-!
# Merges do not depend on the order of the dependencies

Which metadata are absorbed decides what comes out, not in which order or how often
(`foldl_absorb_congr`).  So two lists of the same dependencies give the same metadata and drop the
same names; the dependencies that contributed and those that are missing are reported in the order
of the list (`mergeAll_perm`).

## Strategy

Nothing is commuted.  `Metadata.leastPath_foldl_absorb` and its companions already say what a fold
of `absorb` leads to in words that have no order: the names are those of any of the metadata, and
each application has the least path that any of them declares.  A least path is unique, and an
application that is stored under its own name is known by its path.
-/

namespace RestDeployment

theorem LeastPath.unique {declared : String → Prop} {path path' : Option String}
    (h : LeastPath declared path) (h' : LeastPath declared path') : path = path' := by
  cases path with
  | none =>
      cases path' with
      | none => rfl
      | some q' => exact absurd h'.1 (h q')
  | some q =>
      cases path' with
      | none => exact absurd h.1 (h' q)
      | some q' => rw [String.le_antisymm (h.2 q' h'.1) (h'.2 q h.1)]

/-- Two reports on a merge tell the same up to the order in which they name dependencies. -/
structure MergeReport.SameUpToOrder (r r' : MergeReport) : Prop where
  merged : r.merged.Perm r'.merged
  missing : r.missing.Perm r'.missing
  dropped : r.dropped = r'.dropped

namespace Metadata

variable {m m' target : Metadata} {others others' : List Metadata} {n : String}

/-! ### Metadata that are known by their names and paths -/

/-- An application that is stored under its own name is known by its path. -/
theorem Keyed.get?_eq (h : m.Keyed) (hn : n ∈ m.applications.keys) :
    m.applications.get? n = some ⟨n, m.pathOf n⟩ := by
  obtain ⟨a, ha⟩ := Option.isSome_iff_exists.mp (NameMap.mem_keys.mp hn)
  have hname : a.name = n := h n a ha
  rw [pathOf, ha, Option.bind_some, ← hname]

theorem Keyed.applications_eq (h : m.Keyed) (h' : m'.Keyed)
    (hkeys : ∀ n, n ∈ m.applications.keys ↔ n ∈ m'.applications.keys)
    (hpath : ∀ n, m.pathOf n = m'.pathOf n) : m.applications = m'.applications := by
  apply NameMap.ext
  intro n
  by_cases hn : n ∈ m.applications.keys
  · rw [h.get?_eq hn, h'.get?_eq ((hkeys n).mp hn), hpath n]
  · have hn' : n ∉ m'.applications.keys := fun hmem => hn ((hkeys n).mpr hmem)
    rw [NameMap.mem_keys, Option.isSome_iff_ne_none, not_not] at hn hn'
    rw [hn, hn']

/-! ### Absorbing in another order -/

theorem ignoreApplicationPath_foldl_absorb (target : Metadata) (others : List Metadata) :
    (others.foldl absorb target).ignoreApplicationPath = target.ignoreApplicationPath := by
  refine List.foldlRecOn others absorb
    (motive := fun m : Metadata => m.ignoreApplicationPath = target.ignoreApplicationPath) rfl ?_
  intro m hm other _
  exact hm

/-- What is absorbed counts, not in which order or how often. -/
theorem foldl_absorb_congr (htarget : target.Keyed) (hothers : ∀ c ∈ others, c.Keyed)
    (hmem : ∀ c, c ∈ others ↔ c ∈ others') :
    others.foldl absorb target = others'.foldl absorb target := by
  have hothers' : ∀ c ∈ others', c.Keyed := fun c hc => hothers c ((hmem c).mpr hc)
  have hcons : ∀ c, c ∈ target :: others ↔ c ∈ target :: others' := by
    intro c
    rw [List.mem_cons, List.mem_cons, hmem c]
  have hsame : ∀ {names : Metadata → NameSet} {n : String}, Unites names →
      (n ∈ names (others.foldl absorb target) ↔ n ∈ names (others'.foldl absorb target)) := by
    intro names n hnames
    simp only [hnames.mem_foldl_absorb, hcons]
  have hpath : ∀ n, (others.foldl absorb target).pathOf n =
      (others'.foldl absorb target).pathOf n := by
    intro n
    have hleast := leastPath_foldl_absorb target others n
    simp only [hcons] at hleast
    exact hleast.unique (leastPath_foldl_absorb target others' n)
  refine eq_of_sameClasses ?_ ?_ ?_
  · constructor
    · exact (htarget.foldl_absorb hothers).applications_eq (htarget.foldl_absorb hothers')
        (fun _ => hsame unites_applications) hpath
    · exact NameSet.ext fun n => hsame unites_resources
    · exact NameSet.ext fun n => hsame unites_providers
    · exact NameSet.ext fun n => hsame unites_jndiResources
  · exact (sameFlags_foldl_absorb target others).trans (sameFlags_foldl_absorb target others').symm
  · rw [ignoreApplicationPath_foldl_absorb, ignoreApplicationPath_foldl_absorb]

/-! ### Dependencies in another order -/

/-- First occurrences are listed in their order. -/
theorem pairwise_firstOccurrences (seen ds : List String) :
    (firstOccurrences seen ds).Pairwise fun d e => ds.idxOf d < ds.idxOf e := by
  induction ds generalizing seen with
  | nil => exact List.Pairwise.nil
  | cons d ds ih =>
      -- behind the first place all places are one further on
      have hbehind : ∀ seen, d ∈ seen → (firstOccurrences seen ds).Pairwise fun e e' =>
          (d :: ds).idxOf e < (d :: ds).idxOf e' := by
        intro seen hseen
        refine (ih seen).imp_of_mem fun {e e'} he he' hlt => ?_
        have hne : ∀ e ∈ firstOccurrences seen ds, d ≠ e := by
          rintro e he rfl
          exact (mem_firstOccurrences.mp he).2 hseen
        rw [List.idxOf_cons_ne ds (hne e he), List.idxOf_cons_ne ds (hne e' he')]
        exact Nat.succ_lt_succ hlt
      by_cases hd : d ∈ seen
      · rw [firstOccurrences, if_pos hd]
        exact hbehind seen hd
      · rw [firstOccurrences, if_neg hd, List.pairwise_cons]
        refine ⟨fun e he => ?_, hbehind (d :: seen) List.mem_cons_self⟩
        have hne : d ≠ e := by
          rintro rfl
          exact (mem_firstOccurrences.mp he).2 List.mem_cons_self
        rw [List.idxOf_cons_self, List.idxOf_cons_ne ds hne]
        exact Nat.succ_pos _

theorem nodup_firstOccurrences (seen ds : List String) : (firstOccurrences seen ds).Nodup := by
  refine (pairwise_firstOccurrences seen ds).imp fun hlt => ?_
  rintro rfl
  exact Nat.lt_irrefl _ hlt

theorem distinctDependencies_perm (unit : String) (h : ds.Perm ds') :
    (distinctDependencies unit ds).Perm (distinctDependencies unit ds') := by
  refine (List.perm_ext_iff_of_nodup (nodup_firstOccurrences _ ds)
    (nodup_firstOccurrences _ ds')).mpr fun d => ?_
  exact (mem_distinctDependencies.trans (and_congr_left' h.mem_iff)).trans
    mem_distinctDependencies.symm

/-- What is joined depends only on which dependencies there are other than the unit itself. -/
theorem foldl_absorb_dependencies_congr (unit : String) (htarget : target.Keyed)
    (hlookup : ∀ d c, lookup d = some c → c.Keyed) (h : ∀ d, d ≠ unit → (d ∈ ds ↔ d ∈ ds')) :
    ((distinctDependencies unit ds).filterMap lookup).foldl absorb target =
      ((distinctDependencies unit ds').filterMap lookup).foldl absorb target := by
  refine foldl_absorb_congr htarget (fun c hc => ?_) fun c => ?_
  · obtain ⟨d, -, hd⟩ := List.mem_filterMap.mp hc
    exact hlookup d c hd
  · rw [mem_filterMap_distinctDependencies, mem_filterMap_distinctDependencies]
    refine exists_congr fun d => and_congr_left fun hd => h d hd.1

/-- **A merge does not depend on the order of the dependencies.**  The metadata are the same, and
so is the report, except for the order in which it names the dependencies. -/
theorem mergeAll_perm (unit : String) (htarget : target.Keyed)
    (hlookup : ∀ d c, lookup d = some c → c.Keyed) (h : ds.Perm ds') :
    (target.mergeAll lookup unit ds).1 = (target.mergeAll lookup unit ds').1 ∧
      (target.mergeAll lookup unit ds).2.SameUpToOrder (target.mergeAll lookup unit ds').2 := by
  have hdistinct := distinctDependencies_perm unit h
  have hjoined := foldl_absorb_dependencies_congr unit htarget hlookup fun d _ => h.mem_iff
  refine ⟨congrArg exclusive hjoined, ?_, ?_, congrArg overlap hjoined⟩
  · exact hdistinct.filter _
  · exact hdistinct.filter _

end Metadata

end RestDeployment
