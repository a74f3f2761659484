import EntityAtlas.Proofs.Graph.Renaming
import EntityAtlas.Proofs.Ranking.Convergence

/-!
# Ranks do not depend on positions

The order of the vertices decides the places of a graph in its matrix and in every vector of ranks.
If the vertices of two graphs correspond and there are as many edges between corresponding ones,
then the matrices are the same up to the places, every iteration keeps them so and moves the ranks
by as much, and so both rankings stop at the same iteration with the same ranks under the new names.
-/

namespace EntityAtlas

/-! ## Vertices by their places -/

namespace EntityGraph

/-- The name of the vertex at a place. -/
def vertex (g : EntityGraph) (i : Fin g.size) : String := (g.vertices.get i).1

theorem names_eq_ofFn (g : EntityGraph) : g.names = List.ofFn g.vertex := by
  conv_lhs => rw [names, Table.names, ← List.ofFn_get g.vertices, List.map_ofFn]
  rfl

theorem mem_names_iff {g : EntityGraph} {name : String} :
    name ∈ g.names ↔ ∃ i, g.vertex i = name := by
  rw [names_eq_ofFn, List.mem_ofFn]

theorem vertex_injective {g : EntityGraph} (hnd : g.names.Nodup) : Function.Injective g.vertex := by
  rw [names_eq_ofFn, List.nodup_ofFn] at hnd
  exact hnd

variable {f : String → String} {g g' : EntityGraph}

/-- Vertices that correspond by name correspond by place. -/
theorem Renamed.exists_places (h : Renamed f g g') (hf : Function.Injective f)
    (hnd : g.names.Nodup) :
    ∃ σ : Fin g.size ≃ Fin g'.size, ∀ i, g'.vertex (σ i) = f (g.vertex i) := by
  have hplace : ∀ i, ∃ j, g'.vertex j = f (g.vertex i) := fun i =>
    mem_names_iff.mp (h.names_perm.mem_iff.mp
      (List.mem_map_of_mem (mem_names_iff.mpr ⟨i, rfl⟩)))
  choose σ hσ using hplace
  have hinj : Function.Injective σ := by
    intro i j hij
    refine vertex_injective hnd (hf ?_)
    rw [← hσ, ← hσ, hij]
  have hsize : g.size = g'.size := by
    have hlength := h.names_perm.length_eq
    rwa [List.length_map, Ranking.length_names, Ranking.length_names] at hlength
  have hbij : Function.Bijective σ :=
    (Fintype.bijective_iff_injective_and_card σ).mpr ⟨hinj, by simpa using hsize⟩
  exact ⟨Equiv.ofBijective σ hbij, hσ⟩

end EntityGraph

namespace Ranking

open Matrix

/-! ## The matrix by places -/

variable {n m : ℕ}

theorem shares_ofFn (counts : Fin n → ℕ) : (shares (List.ofFn counts) : List ℚ) =
    List.ofFn fun j => if ∑ k, counts k = 0 then 0 else (counts j : ℚ) / ↑(∑ k, counts k) := by
  have htotal : (List.ofFn counts).foldl (· + ·) 0 = ∑ k, counts k := by
    rw [← List.sum_ofFn]
    exact List.sum_eq_foldl.symm
  unfold shares
  rw [htotal, List.map_ofFn]
  refine congrArg List.ofFn (funext fun j => ?_)
  show (if _ then ((0 : ℕ) : ℚ) else _) = _
  rw [Nat.cast_zero]
  rfl

/-- An entity passes to another the share that their parallel edges have of all its edges. -/
theorem transitionMatrix_apply (g : EntityGraph) (i j : Fin g.size) : transitionMatrix g i j =
    if ∑ k, g.multiplicity (g.vertex i) (g.vertex k) = 0 then 0
    else (g.multiplicity (g.vertex i) (g.vertex j) : ℚ) /
      ↑(∑ k, g.multiplicity (g.vertex i) (g.vertex k)) := by
  have hrows : (transitions g : List (List ℚ)) = List.ofFn fun i => List.ofFn fun j =>
      if ∑ k, g.multiplicity (g.vertex i) (g.vertex k) = 0 then 0
      else (g.multiplicity (g.vertex i) (g.vertex j) : ℚ) /
        ↑(∑ k, g.multiplicity (g.vertex i) (g.vertex k)) := by
    unfold transitions adjacency
    rw [EntityGraph.names_eq_ofFn, List.map_ofFn, List.map_ofFn]
    refine congrArg List.ofFn (funext fun i => ?_)
    show shares (List.map _ (List.ofFn g.vertex)) = _
    rw [List.map_ofFn, shares_ofFn]
    rfl
  have hentries := transitions_eq g
  rw [hrows] at hentries
  exact (congrFun (List.ofFn_injective (congrFun (List.ofFn_injective hentries) i)) j).symm

theorem transitionMatrix_reindex {f : String → String} {g g' : EntityGraph}
    (h : g.Renamed f g') {σ : Fin g.size ≃ Fin g'.size}
    (hσ : ∀ i, g'.vertex (σ i) = f (g.vertex i)) :
    (transitionMatrix g').submatrix σ σ = transitionMatrix g := by
  have hcount : ∀ i j, g'.multiplicity (g'.vertex (σ i)) (g'.vertex (σ j)) =
      g.multiplicity (g.vertex i) (g.vertex j) := by
    intro i j
    rw [hσ, hσ]
    exact h.multiplicity_eq _ (EntityGraph.mem_names_iff.mpr ⟨i, rfl⟩) _
      (EntityGraph.mem_names_iff.mpr ⟨j, rfl⟩)
  have htotal : ∀ i, ∑ k, g'.multiplicity (g'.vertex (σ i)) (g'.vertex k) =
      ∑ k, g.multiplicity (g.vertex i) (g.vertex k) := by
    intro i
    rw [← Equiv.sum_comp σ]
    exact Finset.sum_congr rfl fun k _ => hcount i k
  ext i j
  rw [submatrix_apply, transitionMatrix_apply, transitionMatrix_apply, htotal, hcount]

/-! ## One step -/

section Step

variable {ι κ : Type} [Fintype ι] [Fintype κ] (σ : ι ≃ κ)

theorem magnitude_reindex (v : κ → ℚ) : magnitude (v ∘ σ) = magnitude v :=
  Equiv.sum_comp σ fun i => |v i|

theorem scaled_reindex (v : κ → ℚ) : scaled (v ∘ σ) = scaled v ∘ σ := by
  funext i
  show v (σ i) / ∑ j, v (σ j) = v (σ i) / ∑ j, v j
  rw [Equiv.sum_comp σ v]

theorem damped_reindex (P : Matrix κ κ ℚ) (α restart : ℚ) (v : κ → ℚ) :
    damped (P.submatrix σ σ) α restart (v ∘ σ) = damped P α restart v ∘ σ := by
  funext j
  rw [Function.comp_apply, damped_apply, damped_apply, flow_apply, flow_apply]
  congr 2
  exact Equiv.sum_comp σ fun i => P i (σ j) * v i

end Step

/-! ## All steps -/

/-- Iterating at other places stops at the same iteration with the same ranks at those places, or
fails in the same way. -/
theorem settle_reindex (o : RankingOptions ℚ) (restart : ℚ) (P : Matrix (Fin m) (Fin m) ℚ)
    (σ : Fin n ≃ Fin m) (remaining done : ℕ) (v : Fin m → ℚ) :
    ∃ outcome : Except RankingFault ((Fin m → ℚ) × ℕ),
      settle o restart (List.ofFn fun i => List.ofFn (P i)) remaining done (List.ofFn v) =
        outcome.map (fun found => (List.ofFn found.1, found.2)) ∧
      settle o restart (List.ofFn fun i => List.ofFn (P.submatrix σ σ i)) remaining done
          (List.ofFn (v ∘ σ)) =
        outcome.map fun found => (List.ofFn (found.1 ∘ σ), found.2) := by
  induction remaining generalizing done v with
  | zero => exact ⟨.error (.unsettled o.limit), rfl, rfl⟩
  | succ remaining ih =>
    have hmoved : damped P o.damping restart v ∘ σ - v ∘ σ =
        (damped P o.damping restart v - v) ∘ σ := rfl
    rw [settle_succ, settle_succ, damped_reindex, hmoved, magnitude_reindex]
    by_cases hclose : magnitude (damped P o.damping restart v - v) < o.tolerance
    · rw [if_pos hclose, if_pos hclose]
      exact ⟨.ok (damped P o.damping restart v, done + 1), rfl, rfl⟩
    · rw [if_neg hclose, if_neg hclose]
      exact ih (done + 1) (damped P o.damping restart v)

theorem rank_reindex (o : RankingOptions ℚ) {g g' : EntityGraph} {σ : Fin g.size ≃ Fin g'.size}
    (hP : (transitionMatrix g').submatrix σ σ = transitionMatrix g) :
    ∃ outcome : Except RankingFault ((Fin g'.size → ℚ) × ℕ),
      rank o g' = outcome.map (fun found => (g'.names.zip (List.ofFn found.1), found.2)) ∧
      rank o g = outcome.map fun found => (g.names.zip (List.ofFn (found.1 ∘ σ)), found.2) := by
  have hsize : g.size = g'.size := by simpa using Fintype.card_congr σ
  by_cases hg : g'.size = 0
  · have hempty : ∀ g : EntityGraph, g.size = 0 → settled o g = .error .empty :=
      fun _ h => if_pos h
    refine ⟨.error .empty, ?_, ?_⟩
    · rw [rank_eq, hempty g' hg]
      rfl
    · rw [rank_eq, hempty g (hsize.trans hg)]
      rfl
  · have hcast : (g.size : ℚ) = g'.size := congrArg Nat.cast hsize
    have hstart : (fun _ : Fin g.size => 1 / (g.size : ℚ)) =
        (fun _ : Fin g'.size => 1 / (g'.size : ℚ)) ∘ σ := by
      rw [hcast]
      rfl
    obtain ⟨outcome, hsettled', hsettled⟩ := settle_reindex o ((1 - o.damping) / g'.size)
      (transitionMatrix g') σ o.limit.toNat 0 fun _ => 1 / (g'.size : ℚ)
    rw [← settled_eq hg] at hsettled'
    rw [hP, ← hstart, ← hcast, ← settled_eq (hsize ▸ hg)] at hsettled
    rw [rank_eq, rank_eq, hsettled', hsettled]
    cases outcome with
    | error fault => exact ⟨.error fault, rfl, rfl⟩
    | ok found =>
      obtain ⟨v, iterations⟩ := found
      show ∃ outcome : Except RankingFault ((Fin g'.size → ℚ) × ℕ),
        (normalise (List.ofFn v)).map _ = _ ∧ (normalise (List.ofFn (v ∘ σ))).map _ = _
      have hsum : ∑ i, (v ∘ σ) i = ∑ i, v i := Equiv.sum_comp σ v
      rw [normalise_ofFn, normalise_ofFn, hsum, scaled_reindex]
      by_cases hpos : 0 < ∑ i, v i
      · rw [if_pos hpos, if_pos hpos]
        exact ⟨.ok (scaled v, iterations), rfl, rfl⟩
      · rw [if_neg hpos, if_neg hpos]
        exact ⟨.error .noMass, rfl, rfl⟩

/-! ## Ranks by name -/

/-- The rank of a vertex is the one at its place. -/
theorem find?_vertex {g : EntityGraph} (hnd : g.names.Nodup) (v : Fin g.size → ℚ) (i : Fin g.size) :
    Table.find? (g.vertex i) (g.names.zip (List.ofFn v)) = some (v i) := by
  refine Table.find?_of_mem ?_ ?_
  · rw [names_zip]
    exact hnd
  · rw [EntityGraph.names_eq_ofFn, List.zip, zipWith_ofFn, List.mem_ofFn]
    exact ⟨i, rfl⟩

/-- Two graphs of one shape are ranked alike: each vertex has the rank of the vertex that it is
renamed from, or both rankings fail in the same way. -/
theorem rank_renamed (o : RankingOptions ℚ) {f : String → String} {g g' : EntityGraph}
    (hf : Function.Injective f) (hnd : g.names.Nodup) (h : g.Renamed f g') :
    (∃ fault, rank o g = .error fault ∧ rank o g' = .error fault) ∨
    ∃ ranks ranks' iterations, rank o g = .ok (ranks, iterations) ∧
      rank o g' = .ok (ranks', iterations) ∧
      ∀ name, Table.find? (f name) ranks' = Table.find? name ranks := by
  obtain ⟨σ, hσ⟩ := h.exists_places hf hnd
  obtain ⟨outcome, hrank', hrank⟩ := rank_reindex o (transitionMatrix_reindex h hσ)
  cases outcome with
  | error fault => exact Or.inl ⟨fault, hrank, hrank'⟩
  | ok found =>
    obtain ⟨v, iterations⟩ := found
    refine Or.inr ⟨_, _, iterations, hrank, hrank', fun name => ?_⟩
    have hnd' : g'.names.Nodup := h.names_perm.nodup_iff.mp (hnd.map hf)
    by_cases hname : name ∈ g.names
    · obtain ⟨i, rfl⟩ := EntityGraph.mem_names_iff.mp hname
      rw [← hσ, find?_vertex hnd', find?_vertex hnd]
      rfl
    · have hname' : f name ∉ g'.names := by
        rw [← h.names_perm.mem_iff, List.mem_map_of_injective hf]
        exact hname
      rw [Table.find?_eq_none_iff.mpr (by rwa [names_zip]),
        Table.find?_eq_none_iff.mpr (by rwa [names_zip])]

end Ranking

end EntityAtlas
