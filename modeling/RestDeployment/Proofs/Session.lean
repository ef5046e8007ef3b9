import RestDeployment.Session

/-!
# What publishing does to a session

A session is its name, whether it is closed, and what it answers to look-ups
(`Session.ext_of_lookup`).  Publishing touches the answer for one unit only, and
only if the session accepts the unit: it is open and the unit has no entry.

Main statements: `publish_value` says what `publish` answers and leaves behind;
`lookup_offer` says that an open session keeps every entry it has and adds the one
offered; `offer_comm` says that two units may publish in either order;
`lookup_foldl_offer` gives what a session answers after several units published.
-/

namespace RestDeployment.Session

/-- Two sessions that answer alike are equal. -/
theorem ext_of_lookup {s t : Session} (hname : s.name = t.name) (hclosed : s.closed = t.closed)
    (hlookup : ∀ id, s.lookup id = t.lookup id) : s = t := by
  obtain ⟨sname, stable, sclosed⟩ := s
  obtain ⟨tname, ttable, tclosed⟩ := t
  have htable : stable = ttable := NameMap.ext hlookup
  simp only at hname hclosed
  rw [hname, hclosed, htable]

/-- Whether the session takes metadata of a unit. -/
def accepts (s : Session) (unit : String) : Bool := !s.closed && (s.lookup unit).isNone

theorem publish_value (s : Session) (unit : String) (m : Metadata) :
    (s.publish unit m).value =
      if s.accepts unit then (true, { s with table := s.table.insert unit m }) else (false, s) := by
  unfold publish accepts lookup NameMap.contains
  by_cases hclosed : s.closed = true
  · simp [hclosed]
  · cases hget : s.table.get? unit with
    | none => simp [hclosed]
    | some former => simp [hclosed]

/-- The session after a unit has published, if it has something to publish. -/
def offer (s : Session) (unit : String) : Option Metadata → Session
  | none => s
  | some m => (s.publish unit m).value.2

/-- What a unit offers goes into the table. -/
theorem offer_eq (s : Session) (unit : String) (m : Option Metadata) :
    s.offer unit m = { s with table := (s.offer unit m).table } := by
  cases m with
  | none => rfl
  | some m =>
      simp only [offer, publish_value]
      split <;> rfl

@[simp] theorem offer_name (s : Session) (unit : String) (m : Option Metadata) :
    (s.offer unit m).name = s.name := by
  rw [offer_eq]

@[simp] theorem offer_closed (s : Session) (unit : String) (m : Option Metadata) :
    (s.offer unit m).closed = s.closed := by
  rw [offer_eq]

theorem offer_of_closed {s : Session} (h : s.closed = true) (unit : String)
    (m : Option Metadata) : s.offer unit m = s := by
  cases m with
  | none => rfl
  | some m => simp [offer, publish_value, accepts, h]

/-- An open session keeps the entries that it has and adds what a unit offers. -/
theorem lookup_offer {s : Session} (h : s.closed = false) (unit : String) (m : Option Metadata)
    (id : String) :
    (s.offer unit m).lookup id = (s.lookup id).or (if id = unit then m else none) := by
  cases m with
  | none => simp [offer]
  | some m =>
      simp only [offer, publish_value, accepts, h, lookup]
      by_cases hid : id = unit
      · subst hid
        cases hget : s.table.get? id <;> simp [hget]
      · cases hget : s.table.get? unit <;> simp [hid]

theorem accepts_offer_of_ne {s : Session} {a b : String} (h : a ≠ b) (m : Option Metadata) :
    (s.offer b m).accepts a = s.accepts a := by
  cases hclosed : s.closed with
  | true => rw [offer_of_closed hclosed]
  | false => simp [accepts, hclosed, lookup_offer hclosed, h]

/-- Two units may publish in either order. -/
theorem offer_comm {s : Session} {a b : String} (h : a ≠ b) (m n : Option Metadata) :
    (s.offer a m).offer b n = (s.offer b n).offer a m := by
  cases hclosed : s.closed with
  | true => simp only [offer_of_closed hclosed]
  | false =>
      refine ext_of_lookup (by simp) (by simp) fun id => ?_
      have ha : (s.offer a m).closed = false := by simpa using hclosed
      have hb : (s.offer b n).closed = false := by simpa using hclosed
      rw [lookup_offer ha, lookup_offer hb, lookup_offer hclosed, lookup_offer hclosed]
      by_cases ha : id = a
      · simp [ha, h]
      · simp [ha]

/-- After several units have published, each under an id of its own, an open session
answers for each of them what it had before or else what the unit offered. -/
theorem lookup_foldl_offer {α : Type} {f : α → String} {g : α → Option Metadata} {l : List α}
    {s : Session} (h : s.closed = false) (hids : (l.map f).Nodup) (id : String) :
    (l.foldl (fun t a => t.offer (f a) (g a)) s).lookup id =
      (s.lookup id).or ((l.find? fun a => f a == id).bind g) := by
  induction l generalizing s with
  | nil => simp
  | cons a l ih =>
      rw [List.map_cons, List.nodup_cons] at hids
      have hopen : (s.offer (f a) (g a)).closed = false := by simpa using h
      rw [List.foldl_cons, ih hopen hids.2, lookup_offer h, Option.or_assoc]
      by_cases ha : id = f a
      · -- nobody after `a` goes by its id
        have hnone : (l.find? fun b => f b == id) = none := by
          rw [List.find?_eq_none]
          intro b hb hid
          have hfa : f b = f a := by rw [← ha]; simpa using hid
          exact hids.1 (hfa ▸ List.mem_map_of_mem hb)
        have hfirst : ((a :: l).find? fun b => f b == id) = some a := by simp [ha]
        rw [hnone, hfirst, if_pos ha]
        simp
      · have hlater : ((a :: l).find? fun b => f b == id) = l.find? fun b => f b == id := by
          simp [Ne.symm ha]
        rw [hlater, if_neg ha, Option.none_or]

end RestDeployment.Session
