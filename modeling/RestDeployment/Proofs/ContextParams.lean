import RestDeployment.Proofs.ScanPolicy.Rearrangement

/-!
# Two readers of context parameters

A context parameter is set by appending it.  Of several parameters of one name a look-up answers
the first (`WebDescriptor.contextParam?_eq_some_iff`), whereas a scan policy goes by the last
(`ScanPolicy.standsFor_value_of_lastNamed`).

So a look-up does not see that a name was set, if it was declared or set before; it agrees with
what was set last only where the first parameter of the name happens to have the same value.  For
a flag, which can be set in any letter case, the first and the last parameter have to stand for
the same truth value (`readers_agree_iff`).
-/

namespace RestDeployment

namespace Param

variable {params later : List Param} {name : String} {p p' : Param}

/-- The first parameter of a name in a list. -/
def FirstNamed (params : List Param) (name : String) (p : Param) : Prop :=
  ∃ before after, params = before ++ p :: after ∧ p.name = name ∧ ∀ p' ∈ before, p'.name ≠ name

/-- The last parameter of a name in a list. -/
def LastNamed (params : List Param) (name : String) (p : Param) : Prop :=
  ∃ before after, params = before ++ p :: after ∧ p.name = name ∧ ∀ p' ∈ after, p'.name ≠ name

theorem FirstNamed.mem (h : FirstNamed params name p) : p ∈ params := by
  obtain ⟨before, after, rfl, -⟩ := h
  exact List.mem_append_right _ List.mem_cons_self

theorem LastNamed.mem (h : LastNamed params name p) : p ∈ params := by
  obtain ⟨before, after, rfl, -⟩ := h
  exact List.mem_append_right _ List.mem_cons_self

theorem LastNamed.name_eq (h : LastNamed params name p) : p.name = name := by
  obtain ⟨before, after, -, hname, -⟩ := h
  exact hname

theorem find?_name_eq_some_iff :
    params.find? (·.name == name) = some p ↔ FirstNamed params name p := by
  simp only [List.find?_eq_some_iff_append, FirstNamed, beq_iff_eq, Bool.not_eq_true',
    beq_eq_false_iff_ne]
  constructor
  · rintro ⟨hname, before, after, hsplit, hbefore⟩
    exact ⟨before, after, hsplit, hname, hbefore⟩
  · rintro ⟨before, after, hsplit, hname, hbefore⟩
    exact ⟨hname, before, after, hsplit, hbefore⟩

theorem find?_name_eq_none_iff :
    params.find? (·.name == name) = none ↔ ∀ p ∈ params, p.name ≠ name := by
  simp only [List.find?_eq_none, beq_iff_eq, ne_eq]

theorem FirstNamed.unique (h : FirstNamed params name p) (h' : FirstNamed params name p') :
    p = p' := by
  rw [← find?_name_eq_some_iff] at h h'
  exact Option.some.inj (h.symm.trans h')

theorem firstNamed_append :
    FirstNamed (params ++ later) name p ↔
      FirstNamed params name p ∨ (∀ p' ∈ params, p'.name ≠ name) ∧ FirstNamed later name p := by
  rw [← find?_name_eq_some_iff, List.find?_append, Option.or_eq_some_iff, find?_name_eq_some_iff,
    find?_name_eq_some_iff, find?_name_eq_none_iff]

theorem exists_firstNamed (h : ∃ p ∈ params, p.name = name) : ∃ p, FirstNamed params name p := by
  obtain ⟨p, hp, hname⟩ := h
  cases hfind : params.find? (·.name == name) with
  | none => exact absurd hname (find?_name_eq_none_iff.mp hfind p hp)
  | some first => exact ⟨first, find?_name_eq_some_iff.mp hfind⟩

theorem lastNamed_of_firstNamed_reverse (h : FirstNamed params.reverse name p) :
    LastNamed params name p := by
  obtain ⟨before, after, hsplit, hname, hbefore⟩ := h
  refine ⟨after.reverse, before.reverse, ?_, hname, fun p' hp' => ?_⟩
  · rw [← params.reverse_reverse, hsplit, List.reverse_append, List.reverse_cons,
      List.append_assoc, List.singleton_append]
  · exact hbefore p' (List.mem_reverse.mp hp')

theorem exists_lastNamed (h : ∃ p ∈ params, p.name = name) : ∃ p, LastNamed params name p := by
  obtain ⟨p, hp, hname⟩ := h
  obtain ⟨last, hlast⟩ := exists_firstNamed ⟨p, List.mem_reverse.mpr hp, hname⟩
  exact ⟨last, lastNamed_of_firstNamed_reverse hlast⟩

/-- The parameters of settings, a name and a value each. -/
def ofSettings (settings : List (String × String)) : List Param :=
  settings.map fun s => ⟨s.1, some s.2⟩

end Param

open Param ScanFlag

namespace WebDescriptor

variable {web : WebDescriptor} {name : String} {p : Param}

/-- The descriptor after context parameters were set, one after the other. -/
def setContextParams (web : WebDescriptor) (settings : List (String × String)) : WebDescriptor :=
  settings.foldl (fun web s => web.addContextParam s.1 s.2) web

theorem contextParams_setContextParams (web : WebDescriptor) (settings : List (String × String)) :
    (web.setContextParams settings).contextParams = web.contextParams ++ ofSettings settings := by
  induction settings generalizing web with
  | nil => exact (List.append_nil _).symm
  | cons s settings ih =>
      rw [setContextParams, List.foldl_cons]
      refine (ih (web.addContextParam s.1 s.2)).trans ?_
      rw [addContextParam, List.append_assoc]
      rfl

theorem contextParam?_eq_some_iff :
    web.contextParam? name = some p ↔ FirstNamed web.contextParams name p :=
  find?_name_eq_some_iff

/-- A flag stands among the context parameters under this name, and only under this one. -/
structure OnlyName (web : WebDescriptor) (flag : ScanFlag) (name : String) : Prop where
  isName : name ∈ flag.names
  occurs : ∃ p ∈ web.contextParams, p.name = name
  only : ∀ p ∈ web.contextParams, p.name ∈ flag.names → p.name = name

end WebDescriptor

namespace ScanPolicy

variable {web : WebDescriptor} {flag : ScanFlag} {name : String} {policy : ScanPolicy}

/-- A flag is as its last parameter has it. -/
theorem standsFor_value_of_lastNamed {last : Param} (hname : web.OnlyName flag name)
    (hlast : LastNamed web.contextParams name last) (hok : ofDescriptor web false = .ok policy) :
    StandsFor last.value (policy.value flag) := by
  obtain ⟨hreadable, hfollows⟩ := resolve_eq_ok_iff.mp hok
  have hmem := hlast.mem
  obtain ⟨before, after, hsplit, hlastname, hafter⟩ := hlast
  have hflag : last.name ∈ flag.names := hlastname ▸ hname.isName
  obtain ⟨b, hb⟩ := exists_standsFor
    (hreadable (last.name, last.value) (List.mem_map.mpr ⟨last, hmem, rfl⟩)) hflag
  have hvalue : LastValue (web.contextParams.map fun p => (p.name, p.value)) flag b := by
    refine ⟨before.map fun p => (p.name, p.value), (last.name, last.value),
      after.map fun p => (p.name, p.value), ?_, hflag, hb, ?_⟩
    · rw [hsplit, List.map_append, List.map_cons]
    · -- another parameter of the flag would have the same name
      rintro _ ha
      obtain ⟨p, hp, rfl⟩ := List.mem_map.mp ha
      intro hpflag
      refine hafter p hp (hname.only p ?_ hpflag)
      rw [hsplit]
      exact List.mem_append_right _ (List.mem_cons_of_mem _ hp)
  rwa [hfollows.last rfl flag b hvalue]

end ScanPolicy

namespace WebDescriptor

/-- **When the two readers agree.**  After context parameters were set, a look-up answers what was
set last for a name exactly if the first parameter of the name has that value, the first declared
one or, if none is declared, the one that was set first.  A flag that stands under one of its names
only is as the last parameter of the name has it, and the look-up answers the same exactly if the
first one stands for the same. -/
theorem readers_agree_iff (web : WebDescriptor) (settings : List (String × String)) :
    (∀ name last, LastNamed (ofSettings settings) name last →
      (((web.setContextParams settings).contextParam? name).bind (·.value) = last.value ↔
        ∃ first, (FirstNamed web.contextParams name first ∨
          (∀ p ∈ web.contextParams, p.name ≠ name) ∧
            FirstNamed (ofSettings settings) name first) ∧ first.value = last.value)) ∧
      ∀ flag name policy, (web.setContextParams settings).OnlyName flag name →
        ScanPolicy.ofDescriptor (web.setContextParams settings) false = .ok policy →
        ∃ first last, FirstNamed (web.setContextParams settings).contextParams name first ∧
          LastNamed (web.setContextParams settings).contextParams name last ∧
          (web.setContextParams settings).contextParam? name = some first ∧
          StandsFor last.value (policy.value flag) ∧
          (StandsFor first.value (policy.value flag) ↔
            ∃ b, StandsFor first.value b ∧ StandsFor last.value b) := by
  constructor
  · intro name last hlast
    obtain ⟨first, hfirst⟩ : ∃ first, FirstNamed (web.setContextParams settings).contextParams
        name first := by
      refine exists_firstNamed ⟨last, ?_, hlast.name_eq⟩
      rw [contextParams_setContextParams]
      exact List.mem_append_right _ hlast.mem
    rw [contextParam?_eq_some_iff.mpr hfirst, Option.bind_some]
    simp only [← firstNamed_append, ← contextParams_setContextParams]
    constructor
    · exact fun hvalue => ⟨first, hfirst, hvalue⟩
    · rintro ⟨first', hfirst', hvalue⟩
      rw [hfirst.unique hfirst', hvalue]
  · intro flag name policy hname hok
    obtain ⟨first, hfirst⟩ := exists_firstNamed hname.occurs
    obtain ⟨last, hlast⟩ := exists_lastNamed hname.occurs
    have hvalue := ScanPolicy.standsFor_value_of_lastNamed hname hlast hok
    refine ⟨first, last, hfirst, hlast, contextParam?_eq_some_iff.mpr hfirst, hvalue, ?_⟩
    constructor
    · exact fun hsame => ⟨policy.value flag, hsame, hvalue⟩
    · rintro ⟨b, hb, hb'⟩
      rwa [hvalue.unique hb']

/-! ### A flag that is set twice -/

/-- Settings of the same flag, one after the other. -/
def scanSettings (first last : String) : List (String × String) :=
  [("jaxrs.scan", first), ("jaxrs.scan", last)]

/-- A descriptor with nothing but these settings. -/
def scanSetTwice (first last : String) : WebDescriptor :=
  setContextParams {} (scanSettings first last)

theorem onlyName_scanSetTwice (first last : String) :
    (scanSetTwice first last).OnlyName .all "jaxrs.scan" where
  isName := by decide
  occurs := ⟨⟨"jaxrs.scan", some first⟩, List.mem_cons_self, rfl⟩
  only := by
    intro p hp _
    rcases List.mem_pair.mp hp with rfl | rfl <;> rfl

theorem lastNamed_scanSettings (first last : String) :
    LastNamed (ofSettings (scanSettings first last)) "jaxrs.scan" ⟨"jaxrs.scan", some last⟩ :=
  ⟨[⟨"jaxrs.scan", some first⟩], [], rfl, rfl, fun _ h => absurd h List.not_mem_nil⟩

theorem exists_policy_scanSetTwice {first last : String} {b b' : Bool}
    (hfirst : StandsFor (some first) b) (hlast : StandsFor (some last) b') :
    ∃ policy, ScanPolicy.ofDescriptor (scanSetTwice first last) false = .ok policy := by
  refine ScanPolicy.exists_resolve_of_readable fun a ha => ?_
  rcases List.mem_pair.mp ha with rfl | rfl
  · exact not_unreadable_of_standsFor hfirst
  · exact not_unreadable_of_standsFor hlast

/-- Where the flag is set to the same in another letter case it is on for both readers, although
the look-up does not answer the text that was set last. -/
theorem readers_agree_iff_scanSetTwice :
    ((scanSetTwice "true" "TRUE").contextParam? "jaxrs.scan").bind (·.value) ≠ some "TRUE" ∧
      ∃ first policy, (scanSetTwice "true" "TRUE").contextParam? "jaxrs.scan" = some first ∧
        ScanPolicy.ofDescriptor (scanSetTwice "true" "TRUE") false = .ok policy ∧
        StandsFor first.value (policy.value .all) := by
  have hsmall : StandsFor (some "true") true := ⟨_, rfl, by simp [Text.InAnyCase, word]⟩
  have hcapital : StandsFor (some "TRUE") true := ⟨_, rfl, by simp [Text.InAnyCase, word]⟩
  obtain ⟨hlookup, hflag⟩ := readers_agree_iff {} (scanSettings "true" "TRUE")
  obtain ⟨policy, hok⟩ := exists_policy_scanSetTwice hsmall hcapital
  obtain ⟨first, last, -, hlast, hfirst, -, hsame⟩ :=
    hflag .all "jaxrs.scan" policy (onlyName_scanSetTwice _ _) hok
  have hon : StandsFor last.value true := by
    rcases List.mem_pair.mp hlast.mem with rfl | rfl
    · exact hsmall
    · exact hcapital
  refine ⟨?_, first, policy, hfirst, hok, hsame.mpr ⟨true, ?_, hon⟩⟩
  · intro hanswer
    obtain ⟨first', hdeclared | ⟨-, hset⟩, hvalue⟩ :=
      (hlookup _ _ (lastNamed_scanSettings _ _)).mp hanswer
    · exact absurd hdeclared.mem List.not_mem_nil
    · have hset' : FirstNamed (ofSettings (scanSettings "true" "TRUE")) "jaxrs.scan"
          ⟨"jaxrs.scan", some "true"⟩ := find?_name_eq_some_iff.mp rfl
      rw [hset.unique hset'] at hvalue
      exact absurd hvalue (by decide)
  · cases hfirst
    exact hsmall

/-- **The two readers need not agree.**  Of a flag that is set to true and then to false a look-up
answers that it is true, which is not what was set last, whereas the policy has it off. -/
theorem not_readers_agree :
    LastNamed (ofSettings (scanSettings "true" "false")) "jaxrs.scan"
        ⟨"jaxrs.scan", some "false"⟩ ∧
      ((scanSetTwice "true" "false").contextParam? "jaxrs.scan").bind (·.value) = some "true" ∧
      (scanSetTwice "true" "false").OnlyName .all "jaxrs.scan" ∧
      ∃ policy, ScanPolicy.ofDescriptor (scanSetTwice "true" "false") false = .ok policy ∧
        policy.value .all = false ∧ ¬ StandsFor (some "true") (policy.value .all) := by
  have htrue : StandsFor (some "true") true := ⟨_, rfl, by simp [Text.InAnyCase, word]⟩
  have hfalse : StandsFor (some "false") false := ⟨_, rfl, by simp [Text.InAnyCase, word]⟩
  obtain ⟨policy, hok⟩ := exists_policy_scanSetTwice htrue hfalse
  have hname := onlyName_scanSetTwice "true" "false"
  have hlast : LastNamed (scanSetTwice "true" "false").contextParams "jaxrs.scan"
      ⟨"jaxrs.scan", some "false"⟩ := lastNamed_scanSettings _ _
  have hoff : policy.value .all = false :=
    (ScanPolicy.standsFor_value_of_lastNamed hname hlast hok).unique hfalse
  refine ⟨lastNamed_scanSettings _ _, rfl, hname, policy, hok, hoff, ?_⟩
  rw [hoff]
  exact fun hon => absurd (hon.unique htrue) (by decide)

end WebDescriptor

end RestDeployment
