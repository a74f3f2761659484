import EntityAtlas.Proofs.Journal
import EntityAtlas.Proofs.Table

/-!
# Contexts inside one another

Closing a context gives every name that it bound the value it had before, also if it was bound
already and whatever became of the work in it. So work that records events and opens contexts, and
does nothing else with the journal, leaves what is bound as it was, however its contexts are nested
and wherever it is abandoned. `Adds` says so of some work, together with what it comes to and the
events that it adds; its rules follow the ways of putting work together.
-/

namespace EntityAtlas

/-! ## What is bound -/

/-- The values of the names that are bound. -/
abbrev Bindings := String → Option Document

/-- The values of the names that the context binds. -/
def Journal.bindings (j : Journal) : Bindings := fun name => j.context.find? name

/-- What is bound once some names are bound on top. -/
def Bindings.extend (b : Bindings) (names : List (String × Document)) : Bindings :=
  fun name => ((Table.ofEntries names).find? name).or (b name)

/-- A journal whose context binds no name twice, and the same values as that of another. -/
structure KeepsContext (before after : Journal) : Prop where
  nodup : after.context.names.Nodup
  bindings_eq : after.bindings = before.bindings

namespace Journal

theorem bindings_bind (names : List (String × Document)) (j : Journal) :
    (j.bind names).bindings = j.bindings.extend names :=
  funext fun name => Table.find?_putAll name names j.context

/-- Where a context is closed, its names have their earlier values and the others keep theirs. -/
theorem bindings_unbind {earlier : Table Document} (hnd : earlier.names.Nodup)
    (names : List String) (j : Journal) (name : String) :
    (j.unbind names earlier).bindings name =
      if name ∈ names then earlier.find? name else j.bindings name := by
  have hkept := Table.find?_filter (fun other => names.contains other) name earlier
  show Table.find? name (Table.putAll _ _) = _
  rw [Table.find?_putAll, Table.find?_foldl_remove,
    Table.ofEntries_of_nodup (Table.nodup_names_filter hnd _), hkept]
  by_cases hname : name ∈ names
  · simp [hname]
  · simp [hname, bindings]

end Journal

theorem KeepsContext.inContext {names : List (String × Document)} {before after : Journal}
    (hnd : before.context.names.Nodup) (h : KeepsContext (before.bind names) after) :
    KeepsContext before (after.unbind (names.map (·.1)) before.context) := by
  refine ⟨Table.nodup_names_putAll (Table.nodup_names_foldl_remove h.nodup _) _, ?_⟩
  -- A name of the context has its earlier value again, and closing it touches no other.
  funext name
  rw [Journal.bindings_unbind hnd, h.bindings_eq, Journal.bindings_bind]
  by_cases hname : name ∈ names.map (·.1)
  · rw [if_pos hname]
    rfl
  · have hnone : (Table.ofEntries names).find? name = none := by
      rw [Table.find?_eq_none_iff, ← Table.has_iff_mem_names, Table.has_ofEntries]
      exact hname
    rw [if_neg hname, Bindings.extend, hnone, Option.none_or]

/-! ## What is added -/

namespace Recorded

variable {ε ε' α β : Type}

/-- Work leaves what is bound as it was and adds events to the journal. What it comes to and the
events have the property, given what is bound. -/
def Adds (work : Recorded ε α) (Q : Bindings → Except ε α → List Event → Prop) : Prop :=
  ∀ j : Journal, j.context.names.Nodup → ∃ added, (work.perform j).2.events = j.events ++ added ∧
    KeepsContext j (work.perform j).2 ∧ Q j.bindings (work.perform j).1 added

theorem adds_pure {Q : Bindings → Except ε α → List Event → Prop} {a : α}
    (h : ∀ b, Q b (.ok a) []) : Adds (pure a) Q :=
  fun j hnd => ⟨[], (List.append_nil _).symm, ⟨hnd, rfl⟩, h j.bindings⟩

theorem adds_throw {Q : Bindings → Except ε α → List Event → Prop} {e : ε}
    (h : ∀ b, Q b (.error e) []) : Adds (throw e) Q :=
  fun j hnd => ⟨[], (List.append_nil _).symm, ⟨hnd, rfl⟩, h j.bindings⟩

/-- Recording adds one event, with its own fields on top of what is bound. -/
theorem adds_log {Q : Bindings → Except ε Unit → List Event → Prop} {level : Level} {name : String}
    {fields : List (String × Document)}
    (h : ∀ b e, e.level = level → e.name = name →
      (∀ field, e.fields.find? field = Bindings.extend b fields field) → Q b (.ok ()) [e]) :
    Adds (log level name fields) Q :=
  fun j hnd => ⟨[_], rfl, ⟨hnd, rfl⟩,
    h j.bindings _ rfl rfl fun field => Table.find?_putAll field fields j.context⟩

theorem Adds.mono {work : Recorded ε α} {Q R : Bindings → Except ε α → List Event → Prop}
    (h : Adds work Q) (himp : ∀ b outcome added, Q b outcome added → R b outcome added) :
    Adds work R := by
  intro j hnd
  obtain ⟨added, hevents, hrestores, hQ⟩ := h j hnd
  exact ⟨added, hevents, hrestores, himp _ _ _ hQ⟩

theorem Adds.and_ensures {work : Recorded ε α} {Q : Bindings → Except ε α → List Event → Prop}
    {P : Except ε α → Prop} (h : Adds work Q) (hP : Ensures work P) :
    Adds work fun b outcome added => Q b outcome added ∧ P outcome := by
  intro j hnd
  obtain ⟨added, hevents, hrestores, hQ⟩ := h j hnd
  exact ⟨added, hevents, hrestores, hQ, hP j⟩

/-- Of two pieces of work the second adds its events after those of the first. -/
theorem Adds.bind {work : Recorded ε α} {next : α → Recorded ε β}
    {Q : Bindings → Except ε α → List Event → Prop} {R : Bindings → Except ε β → List Event → Prop}
    (h : Adds work Q)
    (hok : ∀ a, (∃ b first, Q b (.ok a) first) → Adds (next a) fun b outcome more =>
      ∀ first, Q b (.ok a) first → R b outcome (first ++ more))
    (herror : ∀ b e first, Q b (.error e) first → R b (.error e) first) :
    Adds (work >>= next) R := by
  intro j hnd
  obtain ⟨first, hfirst, hrestores, hQ⟩ := h j hnd
  rw [perform_bind]
  cases hwork : work.perform j with
  | mk outcome middle =>
    rw [hwork] at hfirst hrestores hQ
    cases outcome with
    | error e => exact ⟨first, hfirst, hrestores, herror _ e first hQ⟩
    | ok a =>
      obtain ⟨more, hmore, hrestored, hR⟩ := hok a ⟨_, first, hQ⟩ middle hrestores.nodup
      have hbindings : middle.bindings = j.bindings := hrestores.bindings_eq
      refine ⟨first ++ more, ?_, ⟨hrestored.nodup, hrestored.bindings_eq.trans hbindings⟩, ?_⟩
      · rw [hmore, hfirst, List.append_assoc]
      · rw [hbindings] at hR
        exact hR first hQ

/-- Work in a context is done with the names of the context bound on top. -/
theorem Adds.inContext {work : Recorded ε α} {names : List (String × Document)}
    {Q R : Bindings → Except ε α → List Event → Prop} (h : Adds work Q)
    (himp : ∀ b outcome added, Q (b.extend names) outcome added → R b outcome added) :
    Adds (inContext names work) R := by
  intro j hnd
  obtain ⟨added, hevents, hrestores, hQ⟩ := h (j.bind names) (Table.nodup_names_putAll hnd names)
  rw [perform_inContext]
  rw [Journal.bindings_bind] at hQ
  exact ⟨added, hevents, .inContext hnd hrestores, himp _ _ _ hQ⟩

theorem Adds.settle {work : Recorded ε α} {Q : Bindings → Except ε α → List Event → Prop}
    (h : Adds work Q) : Adds (settle work : Recorded ε' (Except ε α)) fun b outcome added =>
      ∃ settled, outcome = .ok settled ∧ Q b settled added := by
  intro j hnd
  obtain ⟨added, hevents, hrestores, hQ⟩ := h j hnd
  exact ⟨added, hevents, hrestores, _, rfl, hQ⟩

/-! ## Work in nested contexts -/

/-- Work that does nothing with the journal but to record events of allowed names and to open
contexts, one inside the other. It may be abandoned anywhere, and what abandons it may be caught. -/
inductive Nests (allowed : String → Prop) : ∀ {ε α : Type}, Recorded ε α → Prop where
  | pure {ε α : Type} (a : α) : Nests allowed (pure a : Recorded ε α)
  | throw {ε α : Type} (e : ε) : Nests allowed (throw e : Recorded ε α)
  | log {ε : Type} (level : Level) {name : String} (fields : List (String × Document))
      (h : allowed name) : Nests allowed (log level name fields : Recorded ε Unit)
  | bind {ε α β : Type} {work : Recorded ε α} {next : α → Recorded ε β} (h : Nests allowed work)
      (hnext : ∀ a, Nests allowed (next a)) : Nests allowed (work >>= next)
  | settle {ε ε' α : Type} {work : Recorded ε α} (h : Nests allowed work) :
      Nests allowed (settle work : Recorded ε' (Except ε α))
  | context {ε α : Type} (names : List (String × Document)) {work : Recorded ε α}
      (h : Nests allowed work) : Nests allowed (inContext names work)

/-- Such work restores what is bound, and adds events of allowed names only. -/
theorem Nests.adds {allowed : String → Prop} {work : Recorded ε α} (h : Nests allowed work) :
    Adds work fun _ _ added => ∀ e ∈ added, allowed e.name := by
  induction h with
  | pure a => exact adds_pure fun _ _ he => absurd he List.not_mem_nil
  | throw e => exact adds_throw fun _ _ he => absurd he List.not_mem_nil
  | log level fields hname =>
    refine adds_log fun _ e _ hevent _ => ?_
    rw [List.forall_mem_singleton, hevent]
    exact hname
  | bind _ _ ih ihnext =>
    refine ih.bind (fun a _ => (ihnext a).mono fun _ _ more hmore first hfirst => ?_)
      fun _ _ _ hfirst => hfirst
    exact List.forall_mem_append.mpr ⟨hfirst, hmore⟩
  | settle _ ih => exact ih.settle.mono fun _ _ _ ⟨_, _, hadded⟩ => hadded
  | context names _ ih => exact ih.inContext fun _ _ _ hadded => hadded

end Recorded

end EntityAtlas
