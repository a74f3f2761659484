import EntityAtlas.Journal

/-!
# Outcomes of recorded work

Recorded work may look at the journal, so what it comes to is stated over every journal that it may
start with. The lemmas follow the ways of putting work together: one piece after the other, in a
context, and with its error turned into a value.
-/

namespace EntityAtlas.Recorded

variable {ε ε' α β : Type}

/-! ## Performing -/

theorem perform_bind (work : Recorded ε α) (next : α → Recorded ε β) (j : Journal) :
    (work >>= next).perform j =
      match work.perform j with
      | (.ok a, after) => (next a).perform after
      | (.error e, after) => (.error e, after) := by
  unfold perform ExceptT.run StateT.run Id.run
  simp only [bind, ExceptT.bind, ExceptT.mk, StateT.bind, ExceptT.bindCont]
  cases work j with
  | mk outcome after => cases outcome <;> rfl

theorem perform_settle (work : Recorded ε α) (j : Journal) :
    (settle work : Recorded ε' (Except ε α)).perform j =
      (.ok (work.perform j).1, (work.perform j).2) := rfl

theorem perform_inContext (names : List (String × Document)) (work : Recorded ε α) (j : Journal) :
    (inContext names work).perform j =
      ((work.perform (j.bind names)).1,
        (work.perform (j.bind names)).2.unbind (names.map (·.1)) j.context) := by
  rw [inContext, perform_bind]
  show (modify (Journal.bind names) >>= _ : Recorded ε α).perform j = _
  rw [perform_bind]
  show ((settle work : Recorded ε (Except ε α)) >>= _).perform (j.bind names) = _
  rw [perform_bind, perform_settle]
  cases (work.perform (j.bind names)).1 <;> rfl

/-! ## What work comes to -/

/-- What the work comes to has the property, whatever the journal holds before. -/
def Ensures (work : Recorded ε α) (Q : Except ε α → Prop) : Prop := ∀ j, Q (work.perform j).1

/-- The work succeeds with a value of the property, whatever the journal holds before. -/
def Succeeds (work : Recorded ε α) (P : α → Prop) : Prop :=
  Ensures work fun outcome => ∃ a, outcome = .ok a ∧ P a

theorem ensures_pure {Q : Except ε α → Prop} {a : α} (h : Q (.ok a)) :
    Ensures (pure a : Recorded ε α) Q := fun _ => h

theorem ensures_throw {Q : Except ε α → Prop} {e : ε} (h : Q (.error e)) :
    Ensures (throw e : Recorded ε α) Q := fun _ => h

theorem Ensures.mono {work : Recorded ε α} {Q R : Except ε α → Prop} (h : Ensures work Q)
    (himp : ∀ outcome, Q outcome → R outcome) : Ensures work R := fun j => himp _ (h j)

theorem Ensures.bind {work : Recorded ε α} {next : α → Recorded ε β} {Q : Except ε α → Prop}
    {R : Except ε β → Prop} (h : Ensures work Q) (hok : ∀ a, Q (.ok a) → Ensures (next a) R)
    (herror : ∀ e, Q (.error e) → R (.error e)) : Ensures (work >>= next) R := by
  intro j
  rw [perform_bind]
  have hj := h j
  cases hwork : work.perform j with
  | mk outcome after =>
    rw [hwork] at hj
    cases outcome with
    | ok a => exact hok a hj after
    | error e => exact herror e hj

theorem succeeds_pure {P : α → Prop} {a : α} (h : P a) : Succeeds (pure a : Recorded ε α) P :=
  ensures_pure ⟨a, rfl, h⟩

theorem Succeeds.bind {work : Recorded ε α} {next : α → Recorded ε β} {P : α → Prop}
    {R : Except ε β → Prop} (h : Succeeds work P) (hnext : ∀ a, P a → Ensures (next a) R) :
    Ensures (work >>= next) R := by
  refine Ensures.bind h ?_ ?_
  · rintro a ⟨b, hb, hP⟩
    cases hb
    exact hnext a hP
  · rintro e ⟨b, hb, _⟩
    cases hb

/-- Work that comes to one value goes on with it. -/
theorem Ensures.bind_eq {work : Recorded ε α} {next : α → Recorded ε β} {a : α}
    {R : Except ε β → Prop} (h : Ensures work (· = .ok a)) (hnext : Ensures (next a) R) :
    Ensures (work >>= next) R := by
  refine Succeeds.bind (P := (· = a)) (h.mono fun _ ha => ⟨a, ha, rfl⟩) ?_
  rintro _ rfl
  exact hnext

theorem succeeds_log (level : Level) (name : String) (fields : List (String × Document)) :
    Succeeds (log level name fields : Recorded ε Unit) fun _ => True := fun _ => ⟨(), rfl, trivial⟩

/-- Noting an event first changes nothing about what work comes to. -/
theorem Ensures.after_log {work : Unit → Recorded ε α} {Q : Except ε α → Prop} (level : Level)
    (name : String) (fields : List (String × Document)) (h : Ensures (work ()) Q) :
    Ensures (log level name fields >>= work) Q :=
  (succeeds_log level name fields).bind fun _ _ => h

theorem Ensures.inContext {work : Recorded ε α} {Q : Except ε α → Prop} (h : Ensures work Q)
    (names : List (String × Document)) : Ensures (inContext names work) Q := by
  intro j
  rw [perform_inContext]
  exact h (j.bind names)

/-- With its error turned into a value, work always succeeds. -/
theorem Ensures.settle {work : Recorded ε α} {Q : Except ε α → Prop} (h : Ensures work Q) :
    Succeeds (settle work : Recorded ε' (Except ε α)) Q := fun j => ⟨_, rfl, h j⟩

end EntityAtlas.Recorded
