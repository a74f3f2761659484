import EntityAtlas.Proofs.Ranking.Reindexing

/-!
# Referenced entities rank higher

Every entity receives the same amount on top in every iteration, and every entity has some rank to
pass on. So an entity that no edge leads to has exactly that amount after each step, and one that
some edge leads to has more; dividing all ranks by their sum keeps both.
-/

namespace EntityAtlas

/-- An edge leads to that name from some vertex. -/
def EntityGraph.Referenced (g : EntityGraph) (name : String) : Prop :=
  ∃ source ∈ g.names, g.multiplicity source name ≠ 0

namespace Ranking

variable {g : EntityGraph} {α : ℚ}

/-- Nothing flows from one vertex to another exactly if no edge leads there. -/
theorem transitionMatrix_eq_zero {i j : Fin g.size} : transitionMatrix g i j = 0 ↔
    g.multiplicity (g.vertex i) (g.vertex j) = 0 := by
  rw [transitionMatrix_apply]
  by_cases htotal : ∑ k, g.multiplicity (g.vertex i) (g.vertex k) = 0
  · have hnone := Finset.sum_eq_zero_iff.mp htotal j (Finset.mem_univ j)
    rw [if_pos htotal]
    exact iff_of_true rfl hnone
  · have hpos : ((∑ k, g.multiplicity (g.vertex i) (g.vertex k) : ℕ) : ℚ) ≠ 0 :=
      Nat.cast_ne_zero.mpr htotal
    rw [if_neg htotal, div_eq_zero_iff, or_iff_left hpos, Nat.cast_eq_zero]

theorem referenced_vertex {j : Fin g.size} : g.Referenced (g.vertex j) ↔
    ∃ i, transitionMatrix g i j ≠ 0 := by
  constructor
  · rintro ⟨source, hsource, hedges⟩
    obtain ⟨i, rfl⟩ := EntityGraph.mem_names_iff.mp hsource
    exact ⟨i, transitionMatrix_eq_zero.not.mpr hedges⟩
  · rintro ⟨i, hi⟩
    exact ⟨g.vertex i, EntityGraph.mem_names_iff.mpr ⟨i, rfl⟩, transitionMatrix_eq_zero.not.mp hi⟩

/-! ## The ranks of every iteration -/

theorem size_pos (i : Fin g.size) : (0 : ℚ) < g.size := Nat.cast_pos.mpr i.pos

theorem restart_pos (h1 : α < 1) (i : Fin g.size) : 0 < (1 - α) / g.size :=
  div_pos (sub_pos.mpr h1) (size_pos i)

theorem ranksAfter_pos (h0 : 0 ≤ α) (h1 : α < 1) (k : ℕ) (i : Fin g.size) :
    0 < ranksAfter g α k i := by
  cases k with
  | zero => exact div_pos one_pos (size_pos i)
  | succ k =>
    rw [ranksAfter_succ]
    exact (restart_pos h1 i).trans_le
      (damped_ge (substochastic_transitionMatrix g) h0 (ranksAfter_nonneg h0 h1 k) i)

theorem ranksAfter_unreferenced {j : Fin g.size} (h : ¬ g.Referenced (g.vertex j)) (k : ℕ) :
    ranksAfter g α (k + 1) j = (1 - α) / g.size := by
  have hnone : ∀ i, transitionMatrix g i j = 0 := by
    intro i
    by_contra hi
    exact h (referenced_vertex.mpr ⟨i, hi⟩)
  rw [ranksAfter_succ, damped_apply, flow_eq_zero hnone, mul_zero, zero_add]

theorem lt_ranksAfter_referenced (h0 : 0 < α) (h1 : α < 1) {j : Fin g.size}
    (h : g.Referenced (g.vertex j)) (k : ℕ) : (1 - α) / g.size < ranksAfter g α (k + 1) j := by
  obtain ⟨i, hi⟩ := referenced_vertex.mp h
  have hflow := (substochastic_transitionMatrix g).flow_pos (ranksAfter_pos h0.le h1 k) hi
  have hpart := mul_pos h0 hflow
  rw [ranksAfter_succ, damped_apply]
  linarith

/-! ## The ranks that are returned -/

/-- All unreferenced entities have one rank, the least, and all referenced ones a higher rank. -/
def Separates (g : EntityGraph) (ranks : Table ℚ) (least : ℚ) : Prop :=
  ∀ entry ∈ ranks, (¬ g.Referenced entry.1 → entry.2 = least) ∧
    (g.Referenced entry.1 → least < entry.2)

theorem mem_zip_names {v : Fin g.size → ℚ} {entry : String × ℚ}
    (h : entry ∈ g.names.zip (List.ofFn v)) : ∃ i, (g.vertex i, v i) = entry := by
  rwa [EntityGraph.names_eq_ofFn, List.zip, zipWith_ofFn, List.mem_ofFn] at h

theorem exists_separates {o : RankingOptions ℚ} (h0 : 0 < o.damping) (h1 : o.damping < 1)
    {ranks : Table ℚ} {iterations : ℕ} (h : rank o g = .ok (ranks, iterations)) :
    ∃ least, Separates g ranks least := by
  obtain ⟨k, _, _, _, hpos, rfl⟩ := rank_ok h
  refine ⟨(1 - o.damping) / g.size / ∑ i, ranksAfter g o.damping (k + 1) i, fun entry hentry => ?_⟩
  obtain ⟨j, rfl⟩ := mem_zip_names hentry
  refine ⟨fun hj => ?_, fun hj => ?_⟩
  · exact congrArg (· / _) (ranksAfter_unreferenced hj k)
  · exact div_lt_div_of_pos_right (lt_ranksAfter_referenced h0 h1 hj k) hpos

end Ranking

end EntityAtlas
