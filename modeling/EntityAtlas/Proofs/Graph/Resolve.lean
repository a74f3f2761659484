import EntityAtlas.Proofs.Graph.Search
import Mathlib.Data.List.Perm.Subperm

/-!
# Resolving a join path

A join path is resolved exactly when its end can be reached: the names found then follow edges from
the start to the end, and no walk has fewer of them. Of the conditions that can be reported only two
arise, an unknown name and an unreachable end, since the search never runs out of rounds and the
choice among parallel edges is never tied.
-/

namespace EntityAtlas.Route

variable {entities : List Entity} {associations : Table (List Association)}

theorem has_of_steps {n : Nat} {u v : String}
    (h : Steps (EntityGraph.build entities associations).successors n u v)
    (hu : (EntityGraph.build entities associations).has u = true) :
    (EntityGraph.build entities associations).has v = true := by
  cases h with
  | refl => exact hu
  | tail _ hw =>
    obtain ⟨a, ha⟩ := EntityGraph.mem_successors.mp hw
    exact (EntityGraph.mem_edges_build ha).2.1

theorem has_of_steps_back {n : Nat} {u v : String}
    (h : Steps (EntityGraph.build entities associations).predecessors n u v)
    (hu : (EntityGraph.build entities associations).has u = true) :
    (EntityGraph.build entities associations).has v = true := by
  cases h with
  | refl => exact hu
  | tail _ hw =>
    obtain ⟨a, ha⟩ := EntityGraph.mem_successors.mp (EntityGraph.mem_predecessors.mp hw)
    exact (EntityGraph.mem_edges_build ha).1

theorem Level.length_le {g : EntityGraph} {next : String → List String} {root : String}
    {depth : Nat} {fringe : List String} {trail : Trail} (h : Level next root depth fringe trail)
    (hv : ∀ n v, Steps next n root v → g.has v = true) : trail.length ≤ g.size := by
  have hsub : trail.map Prod.fst ⊆ g.vertices.names := by
    intro v hm
    have hroute := (h.route v (Trail.reached_iff.mpr hm)).1
    exact Table.has_iff_mem_names.mp (hv _ v hroute.steps)
  have hle := (List.subperm_of_subset h.nodup hsub).length_le
  simpa [EntityGraph.size, Table.names] using hle

/-- Between two vertices the search settles before its rounds run out. -/
theorem settles_vertices {s t : String}
    (hs : (EntityGraph.build entities associations).has s = true)
    (ht : (EntityGraph.build entities associations).has t = true) (hne : s ≠ t) :
    Settles (EntityGraph.build entities associations) [s] [t] [(s, none)] [(t, none)]
      (vertices? (EntityGraph.build entities associations) s t) := by
  unfold vertices?
  refine settles_search (EntityGraph.build entities associations).size
    (fun hA => hA.length_le fun n v h => has_of_steps h hs)
    (fun hB => hB.length_le fun n v h => has_of_steps_back h ht) _
    (level_start _ s) (level_start _ t) (apart_start hne) (fun _ _ => ?_) (by omega)
  simp only [List.length_singleton]
  omega

/-- Along a route every hop gets its association. -/
theorem pickAll_ok {chain : List String} : ∀ {u v : String},
    IsRoute (EntityGraph.build entities associations).successors u v chain →
    ∃ picked, pickAll (EntityGraph.build entities associations) chain = .ok picked ∧
      picked.length + 1 = chain.length ∧
      Hops (EntityGraph.build entities associations) u (picked.map (·.name)) v := by
  induction chain with
  | nil => intro u v h; exact absurd rfl h.ne_nil
  | cons a rest ih =>
    intro u v h
    obtain rfl : a = u := Option.some.inj h.head
    cases rest with
    | nil =>
      obtain rfl : a = v := Option.some.inj h.last
      exact ⟨[], rfl, rfl, .refl a⟩
    | cons b rest =>
      have hlinked := List.isChain_cons_cons.mp h.linked
      have hlast : (b :: rest).getLast? = some v := by
        rw [← h.last, List.getLast?_cons_cons]
      obtain ⟨picked, hall, hlen, hhops⟩ := ih ⟨rfl, hlast, hlinked.2⟩
      obtain ⟨x, hx, hpick⟩ := pick_ok hlinked.1
      refine ⟨x :: picked, ?_, ?_, ?_⟩
      · simp only [pickAll, hpick, hall]
        rfl
      · simp only [List.length_cons] at hlen ⊢
        omega
      · exact .head hx hhops

theorem resolve_of_vertices {g : EntityGraph} {s t : String} (hs : g.has s = true)
    (ht : g.has t = true) (hne : s ≠ t) :
    resolve g s t = match vertices? g s t with
      | none => .error (.noJoinPath s t .unreachable)
      | some chain => (pickAll g chain).map fun picked => picked.map (·.name) := by
  unfold resolve
  simp only [hs, ht, hne, Bool.not_true, Bool.false_eq_true, if_false]
  cases vertices? g s t with
  | none => rfl
  | some chain => cases pickAll g chain <;> rfl

section Found

variable {s t : String} (hs : (EntityGraph.build entities associations).has s = true)
  (ht : (EntityGraph.build entities associations).has t = true) (hne : s ≠ t)

include hs ht hne

theorem answers_vertices : Answers (EntityGraph.build entities associations) s t
    (vertices? (EntityGraph.build entities associations) s t) :=
  (settles_vertices hs ht hne).answers (level_start _ s) (level_start _ t) (apart_start hne)

/-- An end that can be reached is found, on a chain with the fewest hops. -/
theorem exists_resolve_of_hops
    (h : ∃ names, Hops (EntityGraph.build entities associations) s names t) :
    ∃ names, resolve (EntityGraph.build entities associations) s t = .ok names ∧
      Hops (EntityGraph.build entities associations) s names t ∧
      ∀ others, Hops (EntityGraph.build entities associations) s others t →
        names.length ≤ others.length := by
  have hanswer := answers_vertices hs ht hne
  rw [resolve_of_vertices hs ht hne]
  cases hv : vertices? (EntityGraph.build entities associations) s t with
  | none =>
    rw [hv] at hanswer
    obtain ⟨names, hnames⟩ := h
    exact absurd hnames.steps (hanswer _)
  | some chain =>
    rw [hv] at hanswer
    obtain ⟨hroute, hleast⟩ := hanswer
    obtain ⟨picked, hall, hlen, hhops⟩ := pickAll_ok hroute
    refine ⟨picked.map (·.name), ?_, hhops, fun others ho => ?_⟩
    · simp only [hall]
      rfl
    · have := hleast _ ho.steps
      rw [List.length_map]
      omega

theorem resolve_of_not_hops
    (h : ¬ ∃ names, Hops (EntityGraph.build entities associations) s names t) :
    resolve (EntityGraph.build entities associations) s t =
      .error (.noJoinPath s t .unreachable) := by
  have hanswer := answers_vertices hs ht hne
  rw [resolve_of_vertices hs ht hne]
  cases hv : vertices? (EntityGraph.build entities associations) s t with
  | none => rfl
  | some chain =>
    rw [hv] at hanswer
    obtain ⟨picked, _, _, hhops⟩ := pickAll_ok hanswer.1
    exact absurd ⟨_, hhops⟩ h

end Found

theorem resolve_self {g : EntityGraph} {s : String} (hs : g.has s = true) :
    resolve g s s = .ok [] := by
  simp [resolve, hs]

/-- An unknown name is reported exactly when one of the two names is no vertex. -/
theorem resolve_unknown_iff {s t : String} :
    (∃ name, resolve (EntityGraph.build entities associations) s t = .error (.unknownEntity name)) ↔
      ¬ ((EntityGraph.build entities associations).has s = true ∧
        (EntityGraph.build entities associations).has t = true) := by
  constructor
  · rintro ⟨name, hname⟩ ⟨hs, ht⟩
    by_cases hst : s = t
    · subst hst
      rw [resolve_self hs] at hname
      cases hname
    · by_cases hex : ∃ names, Hops (EntityGraph.build entities associations) s names t
      · obtain ⟨names, hok, _⟩ := exists_resolve_of_hops hs ht hst hex
        rw [hok] at hname
        cases hname
      · rw [resolve_of_not_hops hs ht hst hex] at hname
        cases hname
  · intro hno
    cases hs : (EntityGraph.build entities associations).has s with
    | false => exact ⟨s, by simp [resolve, hs]⟩
    | true =>
      have ht : ¬ (EntityGraph.build entities associations).has t = true := fun ht => hno ⟨hs, ht⟩
      exact ⟨t, by simp [resolve, hs, ht]⟩

/-- A chain of edges between two vertices is resolved to one with the fewest hops. -/
theorem resolve_of_hops {s t : String} {names : List String}
    (hs : (EntityGraph.build entities associations).has s = true)
    (ht : (EntityGraph.build entities associations).has t = true)
    (h : Hops (EntityGraph.build entities associations) s names t) :
    ∃ shortest, resolve (EntityGraph.build entities associations) s t = .ok shortest ∧
      Hops (EntityGraph.build entities associations) s shortest t ∧
      ∀ others, Hops (EntityGraph.build entities associations) s others t →
        shortest.length ≤ others.length := by
  by_cases hst : s = t
  · subst hst
    exact ⟨[], resolve_self hs, .refl s, fun _ _ => Nat.zero_le _⟩
  · exact exists_resolve_of_hops hs ht hst ⟨names, h⟩

/-- What is resolved are the names along a chain of edges between two vertices. -/
theorem hops_of_resolve {s t : String} {names : List String}
    (h : resolve (EntityGraph.build entities associations) s t = .ok names) :
    (EntityGraph.build entities associations).has s = true ∧
      (EntityGraph.build entities associations).has t = true ∧
      Hops (EntityGraph.build entities associations) s names t := by
  have hknown : (EntityGraph.build entities associations).has s = true ∧
      (EntityGraph.build entities associations).has t = true := by
    by_contra hno
    obtain ⟨name, herror⟩ := resolve_unknown_iff.mpr hno
    rw [herror] at h
    cases h
  obtain ⟨hs, ht⟩ := hknown
  refine ⟨hs, ht, ?_⟩
  by_cases hex : ∃ names, Hops (EntityGraph.build entities associations) s names t
  · obtain ⟨others, hothers⟩ := hex
    obtain ⟨shortest, hok, hhops, _⟩ := resolve_of_hops hs ht hothers
    rw [hok] at h
    exact Except.ok.inj h ▸ hhops
  · have hst : s ≠ t := fun hst => hex ⟨[], hst ▸ .refl s⟩
    rw [resolve_of_not_hops hs ht hst hex] at h
    cases h

/-- Resolving a join path in a built graph. An unknown name is reported exactly when one of the two
is no vertex. Between vertices no names are needed to stay in place; else the unbounded search
settles, and the answer is the names along a chain of edges with the fewest hops, or that the end
cannot be reached when there is no chain at all. -/
theorem resolve_shortest (entities : List Entity) (associations : Table (List Association))
    (s t : String) :
    let g := EntityGraph.build entities associations
    ((∃ name, resolve g s t = .error (.unknownEntity name)) ↔ ¬ (g.has s = true ∧ g.has t = true)) ∧
    (g.has s = true → g.has t = true →
      (s = t → resolve g s t = .ok []) ∧
      (s ≠ t → Settles g [s] [t] [(s, none)] [(t, none)] (vertices? g s t)) ∧
      (s ≠ t → (∃ names, Hops g s names t) → ∃ names, resolve g s t = .ok names ∧
        Hops g s names t ∧ ∀ others, Hops g s others t → names.length ≤ others.length) ∧
      (s ≠ t → (¬ ∃ names, Hops g s names t) →
        resolve g s t = .error (.noJoinPath s t .unreachable))) := by
  intro g
  refine ⟨resolve_unknown_iff, fun hs ht => ⟨?_, ?_, ?_, ?_⟩⟩
  · rintro rfl
    exact resolve_self hs
  · exact fun hne => settles_vertices hs ht hne
  · exact fun hne hex => exists_resolve_of_hops hs ht hne hex
  · exact fun hne hno => resolve_of_not_hops hs ht hne hno

end EntityAtlas.Route
