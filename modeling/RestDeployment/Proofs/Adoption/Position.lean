import Mathlib.Data.List.Basic
import RestDeployment.Proofs.Adoption

/-!
# At which servlet the search ends

The search for a servlet to adopt asks of each class whether it is an application.  Two searches
that would first say yes at the same place of the list go the same way up to there, also where a
class cannot be loaded, and so they end alike (`candidate?_congr`).

Conversely the descriptor that an adoption leaves shows where the search has ended: the servlet
there was changed, those before it were not (`length_before_of_adopt`).
-/

namespace RestDeployment.Adoption

variable {config : Config} {h h' : Hierarchy} {loader : ClassLoader} {servlets : List Servlet}
  {s : Servlet} {web : WebDescriptor} {application application' : String → Bool}

/-- A loaded class is an application as its name says. -/
def ByName (h : Hierarchy) (loader : ClassLoader) (application : String → Bool) : Prop :=
  ∀ n handle, loader.load n = .ok handle →
    h.descends handle applicationClass = application n

/-- Whether a servlet declares an application. -/
def declares (application : String → Bool) (s : Servlet) : Bool := s.servletClass.any application

/-! ### Searches that see the same servlet -/

/-- Two tests that are first met at the same place agree on the head of a list and, where it does
not meet them, on the first place in the tail. -/
theorem findIdx?_cons_congr {α : Type} {p q : α → Bool} {a : α} {l : List α}
    (hfirst : (a :: l).findIdx? p = (a :: l).findIdx? q) :
    p a = q a ∧ (p a = false → l.findIdx? p = l.findIdx? q) := by
  rw [List.findIdx?_cons, List.findIdx?_cons] at hfirst
  cases hp : p a with
  | true =>
      refine ⟨?_, fun hno => by cases hno⟩
      cases hq : q a with
      | true => rfl
      | false => cases hrest : l.findIdx? q <;> simp [hp, hq, hrest] at hfirst
  | false =>
      cases hq : q a with
      | true => cases hrest : l.findIdx? p <;> simp [hp, hq, hrest] at hfirst
      | false =>
          rw [hp, hq] at hfirst
          exact ⟨rfl, fun _ => Option.map_injective (fun i j => Nat.succ.inj) hfirst⟩

/-- A search is decided by the first servlet that declares an application. -/
theorem candidate?_congr (hname : ByName h loader application)
    (hname' : ByName h' loader application')
    (hfirst : servlets.findIdx? (declares application) =
      servlets.findIdx? (declares application')) :
    candidate? h loader servlets = candidate? h' loader servlets := by
  induction servlets with
  | nil => rfl
  | cons s servlets ih =>
      obtain ⟨hsame, hrest⟩ := findIdx?_cons_congr hfirst
      cases hclass : s.servletClass with
      | none =>
          have hno : declares application s = false := by rw [declares, hclass, Option.any_none]
          simp only [candidate?, hclass, ih (hrest hno)]
      | some n =>
          rw [declares, declares, hclass, Option.any_some, Option.any_some] at hsame
          cases hload : loader.load n with
          | error e => simp only [candidate?, hclass, hload]
          | ok handle =>
              have hboth : h.descends handle applicationClass =
                  h'.descends handle applicationClass :=
                (hname n handle hload).trans (hsame.trans (hname' n handle hload).symm)
              simp only [candidate?, hclass, hload, hboth]
              cases hyes : h'.descends handle applicationClass with
              | true => rfl
              | false =>
                  have hno : declares application s = false := by
                    rw [declares, hclass, Option.any_some, ← hname n handle hload, hboth, hyes]
                  rw [ih (hrest hno)]

/-- A search that ends well ends at the first servlet that declares an application. -/
theorem findIdx?_of_candidate? (hname : ByName h loader application) {found : Option Candidate}
    (hfound : candidate? h loader servlets = .ok found) :
    servlets.findIdx? (declares application) = found.map (·.before.length) := by
  have hpassed : ∀ t, PassedOver h loader t → declares application t = false := by
    intro t ht
    cases hclass : t.servletClass with
    | none => rw [declares, hclass, Option.any_none]
    | some n =>
        obtain ⟨handle, hload, hno⟩ := ht n hclass
        rw [declares, hclass, Option.any_some, ← hname n handle hload, hno]
  cases found with
  | none =>
      rw [Option.map_none, List.findIdx?_eq_none_iff]
      exact fun t ht => hpassed t (candidate?_eq_none_iff.mp hfound t ht)
  | some c =>
      obtain ⟨hsplit, ⟨hclass, handle, hload, hyes⟩, hbefore⟩ := candidate?_eq_some_iff.mp hfound
      have hdeclares : declares application c.servlet = true := by
        rw [declares, hclass, Option.any_some, ← hname _ handle hload, hyes]
      have hnone : c.before.findIdx? (declares application) = none :=
        List.findIdx?_eq_none_iff.mpr fun t ht => hpassed t (hbefore t ht)
      rw [hsplit, List.findIdx?_append, hnone, Option.none_or, List.findIdx?_cons, hdeclares,
        if_pos rfl, Option.map_some, Option.map_some, Nat.zero_add]

/-! ### The servlet that was changed -/

/-- Where a list was changed at one place, no other change at a later place leads to the same. -/
theorem length_le_of_changed {α : Type} {before before' after after' : List α} {a a' b b' : α}
    (hchange : b ≠ a) (hold : before ++ a :: after = before' ++ a' :: after')
    (hnew : before ++ b :: after = before' ++ b' :: after') : before'.length ≤ before.length := by
  by_contra hlt
  rw [Nat.not_le] at hlt
  have hkept : before'[before.length]? = some a := by
    rw [← List.getElem?_append_left hlt, ← hold, getElem?_length_append_cons]
  have hchanged : before'[before.length]? = some b := by
    rw [← List.getElem?_append_left hlt, ← hnew, getElem?_length_append_cons]
  rw [hkept, Option.some.injEq] at hchanged
  exact hchange hchanged.symm

/-- Two adoptions that leave the same descriptor adopt the servlet at the same place. -/
theorem length_before_of_adopt {c c' : Candidate}
    (hconflict : web.conflict? config.dispatcher = none)
    (hfound : candidate? h loader web.servlets = .ok (some c))
    (hfound' : candidate? h' loader web.servlets = .ok (some c'))
    (hsame : (adopt config h loader web).state = (adopt config h' loader web).state) :
    c.before.length = c'.before.length := by
  obtain ⟨hsplit, -, -⟩ := candidate?_eq_some_iff.mp hfound
  obtain ⟨hsplit', -, -⟩ := candidate?_eq_some_iff.mp hfound'
  rw [(adopt_of_some hconflict hfound).2, (adopt_of_some hconflict hfound').2] at hsame
  have hold : c.before ++ c.servlet :: c.after = c'.before ++ c'.servlet :: c'.after :=
    hsplit.symm.trans hsplit'
  have hnew := congrArg WebDescriptor.servlets hsame
  exact Nat.le_antisymm
    (length_le_of_changed (dispatching_ne _ _ _) hold.symm hnew.symm)
    (length_le_of_changed (dispatching_ne _ _ _) hold hnew)

end RestDeployment.Adoption
