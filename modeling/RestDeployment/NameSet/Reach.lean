import RestDeployment.NameSet

/-!
# Names reached along links

`reach next pool queue` collects the names that links lead to from a list of
starting names in one or more steps.  Links may run in circles and a start may
be reached again; the walk still ends, because a name is queued only when it is
new and only names of the finite `pool` are followed.
-/

namespace RestDeployment.NameSet

/-- Follows the links of every queued name, adding what is new to `found`. -/
def reachFrom (next : String → List String) (pool found : NameSet) : List String → NameSet
  | [] => found
  | name :: queue =>
    let fresh := (ofList (next name)).filter fun a => a ∈ pool ∧ a ∉ found
    reachFrom next pool (found ∪ fresh) (queue ++ fresh.toList)
  -- a new name costs two, one when it is found and one when it leaves the queue
  termination_by queue => 2 * (pool \ found).size + queue.length
  decreasing_by
    have hfresh : ∀ a ∈ fresh, a ∈ pool ∧ a ∉ found := by
      intro a ha
      simpa using (mem_filter.mp ha).2
    have hsize : (pool \ (found ∪ fresh)).size + fresh.toList.length = (pool \ found).size :=
      size_sdiff_union_add hfresh
    change 2 * (pool \ (found ∪ fresh)).size + (queue ++ fresh.toList).length <
      2 * (pool \ found).size + (queue.length + 1)
    rw [List.length_append]
    omega

/-- The names of `pool` that links inside `pool` lead to from `queue` in one or more steps. -/
def reach (next : String → List String) (pool : NameSet) (queue : List String) : NameSet :=
  reachFrom next pool ∅ queue

end RestDeployment.NameSet
