import EntityAtlas.Proofs.Counts
import EntityAtlas.Proofs.Graph.References
import EntityAtlas.Proofs.Ranking.Reindexing

/-!
# Rank is shared among the edges

Every edge that leaves an entity of a snapshot leads to a listed entity, so the edges that leave it
are the parallel edges to one vertex after the other. Each of them carries the same share of its
rank: what an entity passes to another, times the number of its edges, is the number of edges
between the two. An entity without edges passes nothing on, and these are the entities that belong
to no listed entity.
-/

namespace EntityAtlas

open Matrix

/-- An entity declares a belongs-to association with a listed entity. -/
def Snapshot.BelongsToListed (s : Snapshot) (name : String) : Prop :=
  ∃ owned, (name, owned) ∈ s.associations ∧ ∃ a ∈ owned, a.kind = .belongsTo ∧
    ∃ e ∈ s.entities, a.target = .direct e.name

namespace EntityGraph

/-- The number of edges that leave an entity. -/
def outDegree (g : EntityGraph) (source : String) : ℕ := (g.edges.filter (·.source = source)).length

theorem outDegree_ne_zero {g : EntityGraph} {source : String} :
    g.outDegree source ≠ 0 ↔ ∃ e ∈ g.edges, e.source = source := by
  unfold outDegree
  rw [← Nat.pos_iff_ne_zero, List.length_pos_iff_exists_mem]
  simp

/-- The parallel edges to an entity are those that leave with that target. -/
theorem multiplicity_eq_countP (g : EntityGraph) (source target : String) :
    g.multiplicity source target =
      (g.edges.filter (·.source = source)).countP fun e => e.target = target := by
  rw [multiplicity, between, List.length_map, List.countP_eq_length_filter, List.filter_filter]
  simp only [Bool.and_comm]

variable (s : Snapshot)

theorem nodup_names_ofSnapshot : (ofSnapshot s).names.Nodup := nodup_names_build

/-- The edges that leave an entity are its edges to one vertex after the other. -/
theorem outDegree_eq_sum (source : String) : (ofSnapshot s).outDegree source =
    ∑ k, (ofSnapshot s).multiplicity source ((ofSnapshot s).vertex k) := by
  -- No edge is lost when they are counted by target: each leads to a listed entity.
  have hall : ∀ e ∈ (ofSnapshot s).edges.filter (·.source = source),
      decide (e.target ∈ (ofSnapshot s).names) = true := by
    intro e he
    obtain ⟨_, htarget, _⟩ := mem_edges_build (List.mem_filter.mp he).1
    exact decide_eq_true (Table.has_iff_mem_names.mp htarget)
  calc (ofSnapshot s).outDegree source
      = ((ofSnapshot s).edges.filter (·.source = source)).countP
          fun e => e.target ∈ (ofSnapshot s).names := (List.countP_eq_length.mpr hall).symm
    _ = ((ofSnapshot s).names.map fun target => ((ofSnapshot s).edges.filter
          (·.source = source)).countP fun e => e.target = target).sum :=
        (sum_countP _ Edge.target (nodup_names_ofSnapshot s)).symm
    _ = ((ofSnapshot s).names.map ((ofSnapshot s).multiplicity source)).sum :=
        congrArg List.sum (List.map_congr_left fun target _ =>
          (multiplicity_eq_countP _ source target).symm)
    _ = ∑ k, (ofSnapshot s).multiplicity source ((ofSnapshot s).vertex k) := by
        rw [names_eq_ofFn, List.map_ofFn, List.sum_ofFn]
        rfl

variable {s}

/-- An edge leaves a vertex exactly if it belongs to a listed entity. -/
theorem outDegree_ne_zero_iff_belongs {name : String} (hname : name ∈ (ofSnapshot s).names) :
    (ofSnapshot s).outDegree name ≠ 0 ↔ s.BelongsToListed name := by
  rw [outDegree_ne_zero]
  constructor
  · rintro ⟨e, he, rfl⟩
    obtain ⟨_, htarget, hedge, hdirect, owned, howned, ha⟩ := mem_edges_build he
    have hrefers := Association.refersTo_iff.mpr ⟨hedge, hdirect⟩
    obtain ⟨hkind, hgoal⟩ : e.association.kind = .belongsTo ∧
        e.association.target = .direct e.target := by simpa [Association.refersTo] using hrefers
    obtain ⟨listed, hlisted, heq⟩ := has_build.mp htarget
    exact ⟨owned, howned, e.association, ha, hkind, listed, hlisted, by rw [hgoal, heq]⟩
  · rintro ⟨owned, howned, a, ha, hkind, listed, hlisted, hgoal⟩
    have hrefers : a.refersTo listed.name = true := by simp [Association.refersTo, hkind, hgoal]
    obtain ⟨e, he, htriple⟩ := exists_edge_build howned ha hrefers
      (Table.has_iff_mem_names.mpr hname) (has_build.mpr ⟨listed, hlisted, rfl⟩)
    exact ⟨e, he, (Edge.triple_eq htriple).1⟩

end EntityGraph

namespace Ranking

open EntityGraph (ofSnapshot)

variable (s : Snapshot)

/-- The entries of the transition matrix of a snapshot, by the edges that leave the vertices. -/
theorem transitionMatrix_ofSnapshot (i j : Fin (ofSnapshot s).size) :
    transitionMatrix (ofSnapshot s) i j =
      if (ofSnapshot s).outDegree ((ofSnapshot s).vertex i) = 0 then 0
      else ((ofSnapshot s).multiplicity ((ofSnapshot s).vertex i)
          ((ofSnapshot s).vertex j) : ℚ) /
        (ofSnapshot s).outDegree ((ofSnapshot s).vertex i) := by
  rw [transitionMatrix_apply, ← EntityGraph.outDegree_eq_sum]

/-- The shares of a vertex make one unless no edge leaves it. -/
theorem sum_transitionMatrix (i : Fin (ofSnapshot s).size) :
    ∑ j, transitionMatrix (ofSnapshot s) i j =
      if (ofSnapshot s).outDegree ((ofSnapshot s).vertex i) = 0 then 0
      else 1 := by
  simp only [transitionMatrix_ofSnapshot]
  by_cases hnone : (ofSnapshot s).outDegree ((ofSnapshot s).vertex i) = 0
  · simp only [if_pos hnone, Finset.sum_const_zero]
  · simp only [if_neg hnone]
    rw [← Finset.sum_div, ← Nat.cast_sum, ← EntityGraph.outDegree_eq_sum]
    exact div_self (Nat.cast_ne_zero.mpr hnone)

/-- A matrix over the vertices of a graph shares what each of them has equally among its edges. -/
structure SharesEdges (s : Snapshot) (g : EntityGraph) (P : Matrix (Fin g.size) (Fin g.size) ℚ) :
    Prop where
  /-- A share, times the number of edges that leave, is the number of edges between the two. -/
  entry : ∀ i j, g.outDegree (g.vertex i) ≠ 0 →
    P i j * g.outDegree (g.vertex i) = g.multiplicity (g.vertex i) (g.vertex j)
  /-- Without edges nothing is passed on. -/
  dangling : ∀ i, g.outDegree (g.vertex i) = 0 → ∀ j, P i j = 0
  /-- No share is negative. -/
  nonneg : ∀ i j, 0 ≤ P i j
  /-- The shares of a vertex make one or nothing. -/
  row_sum : ∀ i, ∑ j, P i j = 1 ∨ ∑ j, P i j = 0
  /-- They make nothing for the entities that belong to no listed entity, and for no others. -/
  row_zero : ∀ i, ∑ j, P i j = 0 ↔ ¬ s.BelongsToListed (g.vertex i)
  /-- Flow along the shares adds nothing. -/
  flow_le : ∀ v : Fin g.size → ℚ, (∀ i, 0 ≤ v i) → ∑ j, (Pᵀ *ᵥ v) j ≤ ∑ i, v i

/-- The transition matrix of the graph of a snapshot, row by row in the order of the vertices, and
the flow of ranks along it: everything that an entity has is shared equally among the edges that
leave it, and it has such edges exactly if it belongs to a listed entity. -/
theorem transitions_share_edges :
    (transitions (ofSnapshot s) : List (List ℚ)) =
        List.ofFn (fun i => List.ofFn (transitionMatrix (ofSnapshot s) i)) ∧
      (∀ v, flow (transitions (ofSnapshot s)) (List.ofFn v) =
        List.ofFn ((transitionMatrix (ofSnapshot s))ᵀ *ᵥ v)) ∧
      SharesEdges s (ofSnapshot s) (transitionMatrix (ofSnapshot s)) := by
  have hP := substochastic_transitionMatrix (ofSnapshot s)
  have hrows := transitions_eq (ofSnapshot s)
  refine ⟨hrows, fun v => by rw [hrows, flow_ofFn], ?_⟩
  constructor
  case entry =>
    intro i j hsome
    rw [transitionMatrix_ofSnapshot, if_neg hsome]
    exact div_mul_cancel₀ _ (Nat.cast_ne_zero.mpr hsome)
  case dangling =>
    intro i hnone j
    rw [transitionMatrix_ofSnapshot, if_pos hnone]
  case nonneg => exact hP.nonneg
  case row_sum =>
    intro i
    rw [sum_transitionMatrix]
    split
    · exact Or.inr rfl
    · exact Or.inl rfl
  case row_zero =>
    intro i
    have hlisted := EntityGraph.mem_names_iff.mpr ⟨i, rfl⟩
    rw [sum_transitionMatrix, ← EntityGraph.outDegree_ne_zero_iff_belongs hlisted, not_ne_iff]
    simp
  case flow_le => exact fun v => hP.sum_flow_le

end Ranking

end EntityAtlas
