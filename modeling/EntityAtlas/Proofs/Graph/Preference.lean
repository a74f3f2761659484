import EntityAtlas.Proofs.Except
import EntityAtlas.Proofs.Graph.Edges
import Mathlib.Data.String.Basic

/-!
# The choice among parallel edges

Of the associations between two neighbours the one with the fewest options is preferred, and of
these the one with the least name. This is a total order, so what is picked is preferred to every
other candidate.
-/

namespace EntityAtlas

theorem Text.notAfter_iff {a b : String} : Text.notAfter a b = true ↔ a ≤ b := by
  rw [Text.notAfter, Bool.not_eq_true', decide_eq_false_iff_not, not_lt]

namespace Route

theorem preferred_iff {a b : Association} : preferred a b = true ↔
    a.options.length < b.options.length ∨
      a.options.length = b.options.length ∧ a.name ≤ b.name := by
  unfold preferred
  by_cases h : a.options.length = b.options.length
  · simp [h, Text.notAfter_iff]
  · simp [h]

theorem preferred_total (a b : Association) : (preferred a b || preferred b a) = true := by
  rw [Bool.or_eq_true, preferred_iff, preferred_iff]
  rcases lt_trichotomy a.options.length b.options.length with h | h | h
  · exact .inl (.inl h)
  · rcases le_total a.name b.name with hle | hle
    · exact .inl (.inr ⟨h, hle⟩)
    · exact .inr (.inr ⟨h.symm, hle⟩)
  · exact .inr (.inl h)

theorem preferred_trans (a b c : Association) (hab : preferred a b = true)
    (hbc : preferred b c = true) : preferred a c = true := by
  rw [preferred_iff] at *
  rcases hab with hab | ⟨hab, hle⟩
  · rcases hbc with hbc | ⟨hbc, _⟩
    · exact .inl (hab.trans hbc)
    · exact .inl (hbc ▸ hab)
  · rcases hbc with hbc | ⟨hbc, hle'⟩
    · exact .inl (hab ▸ hbc)
    · exact .inr ⟨hab.trans hbc, hle.trans hle'⟩

section Picked

variable {source target : String} {candidates : List Association} {a : Association}

/-- What is picked stands first in the order of preference. -/
theorem first_of_pickAmong (h : pickAmong source target candidates = .ok a) :
    ∃ rest, candidates.mergeSort preferred = a :: rest := by
  unfold pickAmong at h
  cases hs : candidates.mergeSort preferred with
  | nil => rw [hs] at h; cases h
  | cons b rest =>
    cases rest with
    | nil =>
      simp only [hs] at h
      exact ⟨[], by rw [Except.ok.inj h]⟩
    | cons c rest =>
      simp only [hs] at h
      by_cases ht : tied b c = true
      · rw [if_pos ht] at h
        cases h
      · rw [if_neg ht] at h
        exact ⟨c :: rest, by rw [Except.ok.inj h]⟩

theorem mem_of_pickAmong_ok (h : pickAmong source target candidates = .ok a) :
    a ∈ candidates := by
  obtain ⟨rest, hs⟩ := first_of_pickAmong h
  have hperm := List.mergeSort_perm candidates preferred
  exact hperm.mem_iff.mp (hs ▸ List.mem_cons_self)

theorem preferred_of_pickAmong (h : pickAmong source target candidates = .ok a) :
    ∀ b ∈ candidates, preferred a b = true := by
  intro b hb
  obtain ⟨rest, hs⟩ := first_of_pickAmong h
  have hsorted := List.pairwise_mergeSort preferred_trans preferred_total candidates
  have hmem : b ∈ candidates.mergeSort preferred := List.mem_mergeSort.mpr hb
  rw [hs] at hsorted hmem
  rcases List.mem_cons.mp hmem with rfl | hb
  · have hrefl := preferred_total b b
    rwa [Bool.or_self] at hrefl
  · exact (List.pairwise_cons.mp hsorted).1 b hb

end Picked

/-- What is picked for the first hop of a chain is an edge, preferred to every other edge between
the same two vertices. -/
theorem pickAll_cons_ok {g : EntityGraph} {u v : String} {rest : List String}
    {picked : List Association} (h : pickAll g (u :: v :: rest) = .ok picked) :
    ∃ a more, picked = a :: more ∧ ⟨u, v, a⟩ ∈ g.edges ∧
      (∀ b, ⟨u, v, b⟩ ∈ g.edges → preferred a b = true) ∧ pickAll g (v :: rest) = .ok more := by
  unfold pickAll at h
  obtain ⟨a, ha, h⟩ := Except.bind_eq_ok.mp h
  obtain ⟨more, hmore, h⟩ := Except.bind_eq_ok.mp h
  refine ⟨a, more, (Except.ok.inj h).symm, ?_, ?_, hmore⟩
  · exact EntityGraph.mem_between.mp (mem_of_pickAmong_ok ha)
  · intro b hb
    exact preferred_of_pickAmong ha b (EntityGraph.mem_between.mpr hb)

/-- Along a chain of vertices an edge is picked at every hop, and it is preferred to every other
edge between the same two. -/
inductive BestAlong (g : EntityGraph) : List String → List Association → Prop where
  | stay (v : String) : BestAlong g [v] []
  | hop {u v : String} {a : Association} {chain : List String} {picked : List Association}
      (he : ⟨u, v, a⟩ ∈ g.edges) (hbest : ∀ b, ⟨u, v, b⟩ ∈ g.edges → preferred a b = true)
      (rest : BestAlong g (v :: chain) picked) : BestAlong g (u :: v :: chain) (a :: picked)

theorem bestAlong_of_pickAll {g : EntityGraph} {chain : List String} :
    ∀ {u : String} {picked : List Association}, pickAll g (u :: chain) = .ok picked →
      BestAlong g (u :: chain) picked := by
  induction chain with
  | nil =>
    intro u picked h
    obtain rfl : picked = [] := (Except.ok.inj h).symm
    exact .stay u
  | cons v chain ih =>
    intro u picked h
    obtain ⟨a, more, rfl, hedge, hbest, hmore⟩ := pickAll_cons_ok h
    exact .hop hedge hbest (ih hmore)

end Route

end EntityAtlas
