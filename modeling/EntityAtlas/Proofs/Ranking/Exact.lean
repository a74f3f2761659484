import EntityAtlas.Graph.Ranking
import EntityAtlas.Proofs.Ranking.DampedFlow
import EntityAtlas.Proofs.Ranking.Numbers
import Mathlib.Algebra.BigOperators.Fin
import Mathlib.Data.List.GetD

/-!
# Ranking over exact numbers

Over exact numbers the ranking of a graph iterates damped flow along its transition matrix, from the
vector that gives every entity the same rank. It stops after the first step that moves the ranks by
less than the tolerance and scales what it then has to sum to one.
-/

namespace EntityAtlas

/-- Exact numbers: every number is one and is finite. -/
instance Scalar.exact : Scalar ℚ where
  ofNat n := n
  add a b := a + b
  sub a b := a - b
  mul a b := a * b
  div a b := a / b
  abs a := |a|
  less a b := decide (a < b)
  isNaN _ := false
  isFinite _ := true

instance : Scalar.Ordered ℚ where
  isNaN_zero := rfl
  less_asymm a b h h' := lt_asymm (of_decide_eq_true h) (of_decide_eq_true h')
  less_or_less a b c _ h := by
    show decide (a < b) = true ∨ decide (b < c) = true
    rw [decide_eq_true_iff, decide_eq_true_iff]
    exact (lt_or_ge a b).imp_right fun hba => hba.trans_lt (of_decide_eq_true h)
  isNaN_div _ _ _ _ _ := rfl

/-- The usual parameters as exact numbers. -/
def RankingOptions.usualExact : RankingOptions ℚ :=
  { damping := 1 / 2, tolerance := 1 / 100000, limit := 1000 }

namespace Ranking

open Matrix

variable {n : ℕ}

/-! ## Lists as vectors -/

theorem ofFn_getD {α : Type} {xs : List α} (h : xs.length = n) (d : α) :
    (List.ofFn fun i : Fin n => xs.getD i d) = xs := by
  subst h
  calc (List.ofFn fun i : Fin xs.length => xs.getD i d)
      = List.ofFn fun i : Fin xs.length => xs[i] :=
        congrArg List.ofFn (funext fun i => List.getD_eq_getElem xs d i.2)
    _ = xs := List.ofFn_getElem

theorem zipWith_ofFn {α β γ : Type} (f : α → β → γ) (v : Fin n → α) (w : Fin n → β) :
    List.zipWith f (List.ofFn v) (List.ofFn w) = List.ofFn fun i => f (v i) (w i) := by
  apply List.ext_getElem
  · simp
  · intro i h _
    simp

theorem sum_eq_sum (xs : List ℚ) : Scalar.sum xs = xs.sum := List.sum_eq_foldl.symm

theorem sum_ofFn (v : Fin n → ℚ) : Scalar.sum (List.ofFn v) = ∑ i, v i := by
  rw [sum_eq_sum, List.sum_ofFn]

/-- What flows from some senders adds up to the sum of their shares. -/
theorem foldl_received (senders : List ((Fin n → ℚ) × ℚ)) (received : Fin n → ℚ) :
    (senders.map fun s => (List.ofFn s.1, s.2)).foldl
        (fun received (row, rank) =>
          received.zipWith Scalar.add (row.map fun share => Scalar.mul share rank))
        (List.ofFn received) =
      List.ofFn fun j => received j + (senders.map fun s => s.1 j * s.2).sum := by
  induction senders generalizing received with
  | nil => simp
  | cons s senders ih =>
    have hstep : (List.ofFn received).zipWith Scalar.add
        ((List.ofFn s.1).map fun share => Scalar.mul share s.2) =
          List.ofFn fun j => received j + s.1 j * s.2 := by
      rw [List.map_ofFn, zipWith_ofFn]
      rfl
    rw [List.map_cons, List.foldl_cons]
    show List.foldl _ ((List.ofFn received).zipWith Scalar.add
      ((List.ofFn s.1).map fun share => Scalar.mul share s.2)) _ = _
    rw [hstep, ih]
    simp only [List.map_cons, List.sum_cons, add_assoc]

theorem flow_ofFn (P : Matrix (Fin n) (Fin n) ℚ) (v : Fin n → ℚ) :
    flow (List.ofFn fun i => List.ofFn (P i)) (List.ofFn v) = List.ofFn (Pᵀ *ᵥ v) := by
  have hzip : (List.ofFn fun i => List.ofFn (P i)).zip (List.ofFn v) =
      (List.ofFn fun i => (P i, v i)).map fun s => (List.ofFn s.1, s.2) := by
    rw [List.zip, zipWith_ofFn, List.map_ofFn]
    rfl
  have hstart :
      ((List.ofFn v).map fun _ => (Scalar.ofNat 0 : ℚ)) = List.ofFn fun _ : Fin n => 0 := by
    rw [List.map_ofFn]
    exact congrArg List.ofFn (funext fun _ => Nat.cast_zero)
  unfold flow
  rw [hzip, hstart, foldl_received]
  refine congrArg List.ofFn (funext fun j => ?_)
  rw [zero_add, List.map_ofFn, List.sum_ofFn, flow_apply]
  rfl

theorem update_ofFn (P : Matrix (Fin n) (Fin n) ℚ) (α restart : ℚ) (v : Fin n → ℚ) :
    update α restart (List.ofFn fun i => List.ofFn (P i)) (List.ofFn v) =
      List.ofFn (damped P α restart v) := by
  rw [update, flow_ofFn, List.map_ofFn]
  rfl

theorem movement_ofFn (v w : Fin n → ℚ) :
    movement (List.ofFn v) (List.ofFn w) = magnitude (w - v) := by
  rw [movement, zipWith_ofFn, sum_ofFn]
  rfl

theorem normalise_ofFn (v : Fin n → ℚ) : normalise (List.ofFn v) =
    if 0 < ∑ i, v i then .ok (List.ofFn (scaled v)) else .error .noMass := by
  have hless : ∀ q : ℚ, (Scalar.isFinite q && Scalar.less (Scalar.ofNat 0) q) = decide (0 < q) := by
    intro q
    show (true && decide (((0 : ℕ) : ℚ) < q)) = decide (0 < q)
    rw [Nat.cast_zero, Bool.true_and]
  simp only [normalise, sum_ofFn, hless, List.map_ofFn, decide_eq_true_eq]
  rfl

/-! ## The transition matrix -/

/-- A row of counts as shares has no negative share, and its shares make one unless all counts are
zero. -/
theorem shares_spec (row : List ℕ) : (∀ q ∈ (shares row : List ℚ), 0 ≤ q) ∧
    (shares row : List ℚ).sum = if row.sum = 0 then 0 else 1 := by
  have htotal : row.foldl (· + ·) 0 = row.sum := List.sum_eq_foldl.symm
  unfold shares
  rw [htotal]
  by_cases h : row.sum = 0
  · simp only [h, if_true]
    refine ⟨?_, ?_⟩
    · intro q hq
      obtain ⟨_, _, rfl⟩ := List.mem_map.mp hq
      exact le_of_eq Nat.cast_zero.symm
    · rw [List.map_const']
      simp [Scalar.ofNat]
  · simp only [h, if_false]
    refine ⟨?_, ?_⟩
    · intro q hq
      obtain ⟨c, _, rfl⟩ := List.mem_map.mp hq
      exact div_nonneg (Nat.cast_nonneg c) (Nat.cast_nonneg _)
    · have hsum : (row.map fun c => (Scalar.div (Scalar.ofNat c) (Scalar.ofNat row.sum) : ℚ)).sum =
          (row.map (Nat.cast (R := ℚ))).sum / row.sum := by
        rw [div_eq_mul_inv, ← List.sum_map_mul_right]
        rfl
      rw [hsum, ← Nat.cast_list_sum]
      exact div_self (Nat.cast_ne_zero.mpr h)

/-- The transition matrix of a graph, by the positions of its vertices. -/
def transitionMatrix (g : EntityGraph) : Matrix (Fin g.size) (Fin g.size) ℚ :=
  .of fun i j => ((transitions g : List (List ℚ)).getD i []).getD j 0

theorem length_names (g : EntityGraph) : g.names.length = g.size := List.length_map _

theorem length_transitions (g : EntityGraph) : (transitions g : List (List ℚ)).length = g.size := by
  rw [transitions, adjacency, List.length_map, List.length_map, length_names]

/-- A row of the transition matrix holds the shares of the edges that leave that vertex. -/
theorem getD_transitions (g : EntityGraph) (i : Fin g.size) : ∃ counts : List ℕ,
    counts.length = g.size ∧ (transitions g : List (List ℚ)).getD i [] = shares counts := by
  have hi : (i : ℕ) < (transitions g : List (List ℚ)).length := by
    rw [length_transitions]
    exact i.2
  rw [List.getD_eq_getElem _ _ hi]
  obtain ⟨counts, hcounts, hrow⟩ := List.mem_map.mp (List.getElem_mem hi)
  obtain ⟨s, _, rfl⟩ := List.mem_map.mp hcounts
  exact ⟨_, (List.length_map _).trans (length_names g), hrow.symm⟩

theorem ofFn_transitionMatrix (g : EntityGraph) (i : Fin g.size) :
    List.ofFn (transitionMatrix g i) = (transitions g : List (List ℚ)).getD i [] := by
  obtain ⟨counts, hlength, hrow⟩ := getD_transitions g i
  refine ofFn_getD ?_ 0
  rw [hrow, shares, List.length_map, hlength]

theorem transitions_eq (g : EntityGraph) :
    (transitions g : List (List ℚ)) = List.ofFn fun i => List.ofFn (transitionMatrix g i) := by
  conv_lhs => rw [← ofFn_getD (length_transitions g) []]
  exact congrArg List.ofFn (funext fun i => (ofFn_transitionMatrix g i).symm)

theorem substochastic_transitionMatrix (g : EntityGraph) : Substochastic (transitionMatrix g) where
  nonneg i j := by
    obtain ⟨counts, _, hrow⟩ := getD_transitions g i
    refine (shares_spec counts).1 _ ?_
    rw [← hrow, ← ofFn_transitionMatrix, List.mem_ofFn]
    exact ⟨j, rfl⟩
  sum_le_one i := by
    obtain ⟨counts, _, hrow⟩ := getD_transitions g i
    rw [← List.sum_ofFn, ofFn_transitionMatrix, hrow, (shares_spec counts).2]
    split <;> norm_num

/-! ## Iterating -/

section Settle

variable (o : RankingOptions ℚ) (restart : ℚ) (P : Matrix (Fin n) (Fin n) ℚ)

/-- One round: it ends the iteration if the ranks moved by less than the tolerance. -/
theorem settle_succ (remaining done : ℕ) (v : Fin n → ℚ) :
    settle o restart (List.ofFn fun i => List.ofFn (P i)) (remaining + 1) done (List.ofFn v) =
      if magnitude (damped P o.damping restart v - v) < o.tolerance then
        .ok (List.ofFn (damped P o.damping restart v), done + 1)
      else settle o restart (List.ofFn fun i => List.ofFn (P i)) remaining (done + 1)
        (List.ofFn (damped P o.damping restart v)) := by
  have hnumbers : (List.ofFn (damped P o.damping restart v)).any Scalar.isNaN = false :=
    List.any_eq_false.mpr fun _ _ => Bool.false_ne_true
  have hless : ∀ a b : ℚ, Scalar.less a b = decide (a < b) := fun _ _ => rfl
  rw [settle]
  simp only [update_ofFn, hnumbers, movement_ofFn, hless, decide_eq_true_eq, Bool.false_eq_true,
    if_false]

variable {o restart P}

/-- Iteration that ends with ranks ends after a step, within the rounds left, that moved the ranks
by less than the tolerance. -/
theorem settle_ok {remaining done iterations : ℕ} {v : Fin n → ℚ} {ranks : List ℚ}
    (h : settle o restart (List.ofFn fun i => List.ofFn (P i)) remaining done (List.ofFn v) =
      .ok (ranks, iterations)) :
    ∃ k < remaining, iterations = done + k + 1 ∧
      ranks = List.ofFn ((damped P o.damping restart)^[k + 1] v) ∧
      magnitude ((damped P o.damping restart)^[k + 1] v - (damped P o.damping restart)^[k] v) <
        o.tolerance := by
  induction remaining generalizing done v with
  | zero => cases h
  | succ remaining ih =>
    rw [settle_succ] at h
    split at h
    · rename_i hclose
      obtain ⟨rfl, rfl⟩ := Prod.mk.inj (Except.ok.inj h)
      exact ⟨0, Nat.succ_pos remaining, rfl, rfl, hclose⟩
    · obtain ⟨k, hk, hiterations, hranks, hclose⟩ := ih h
      exact ⟨k + 1, Nat.succ_lt_succ hk, by omega, hranks, hclose⟩

/-- Iteration ends no later than at a step, within the rounds left, that moves the ranks by less
than the tolerance. -/
theorem settle_of_close {remaining k : ℕ} (hk : k < remaining) (done : ℕ) {v : Fin n → ℚ}
    (hclose : magnitude ((damped P o.damping restart)^[k + 1] v -
      (damped P o.damping restart)^[k] v) < o.tolerance) :
    ∃ m ≤ k, settle o restart (List.ofFn fun i => List.ofFn (P i)) remaining done (List.ofFn v) =
      .ok (List.ofFn ((damped P o.damping restart)^[m + 1] v), done + m + 1) := by
  induction remaining generalizing done k v with
  | zero => exact absurd hk (Nat.not_lt_zero k)
  | succ remaining ih =>
    rw [settle_succ]
    by_cases hnow : magnitude (damped P o.damping restart v - v) < o.tolerance
    · exact ⟨0, Nat.zero_le k, if_pos hnow⟩
    · cases k with
      | zero => exact absurd hclose hnow
      | succ k =>
        obtain ⟨m, hm, hsettled⟩ := ih (Nat.lt_of_succ_lt_succ hk) (done + 1) hclose
        refine ⟨m + 1, Nat.succ_le_succ hm, ?_⟩
        rw [if_neg hnow, hsettled, Function.iterate_succ_apply]
        congr 2
        omega

end Settle

/-- The ranks of a graph after some iterations, before scaling. -/
def ranksAfter (g : EntityGraph) (α : ℚ) (k : ℕ) : Fin g.size → ℚ :=
  (damped (transitionMatrix g) α ((1 - α) / g.size))^[k] fun _ => 1 / g.size

theorem ranksAfter_succ (g : EntityGraph) (α : ℚ) (k : ℕ) : ranksAfter g α (k + 1) =
    damped (transitionMatrix g) α ((1 - α) / g.size) (ranksAfter g α k) :=
  Function.iterate_succ_apply' _ k _

theorem settled_eq {g : EntityGraph} (hg : g.size ≠ 0) (o : RankingOptions ℚ) : settled o g =
    settle o ((1 - o.damping) / g.size) (List.ofFn fun i => List.ofFn (transitionMatrix g i))
      o.limit.toNat 0 (List.ofFn fun _ : Fin g.size => 1 / (g.size : ℚ)) := by
  have hone : (Scalar.ofNat 1 : ℚ) = 1 := Nat.cast_one
  have hstart : (g.names.map fun _ => (Scalar.div 1 (Scalar.ofNat g.size) : ℚ)) =
      List.ofFn fun _ : Fin g.size => 1 / (g.size : ℚ) := by
    rw [List.map_const', length_names, List.ofFn_const]
    rfl
  unfold settled
  simp only [hg, if_false, hone, hstart, transitions_eq]
  rfl

/-- A ranking that succeeds gives the ranks after a step, within the limit, that moved them by less
than the tolerance, each divided by their sum, which is positive. -/
theorem rank_ok {g : EntityGraph} {o : RankingOptions ℚ} {ranks : Table ℚ} {iterations : ℕ}
    (h : rank o g = .ok (ranks, iterations)) :
    ∃ k < o.limit.toNat, iterations = k + 1 ∧
      magnitude (ranksAfter g o.damping (k + 1) - ranksAfter g o.damping k) < o.tolerance ∧
      0 < ∑ i, ranksAfter g o.damping (k + 1) i ∧
      ranks = g.names.zip (List.ofFn (scaled (ranksAfter g o.damping (k + 1)))) := by
  obtain ⟨found, scaledRanks, hsettled, hscaled, rfl⟩ := rank_eq_ok h
  have hg := (settled_numbers hsettled).1
  rw [settled_eq hg] at hsettled
  obtain ⟨k, hk, hiterations, rfl, hclose⟩ := settle_ok hsettled
  change normalise (List.ofFn (ranksAfter g o.damping (k + 1))) = _ at hscaled
  rw [normalise_ofFn] at hscaled
  split at hscaled
  · rename_i hpos
    obtain rfl := Except.ok.inj hscaled
    exact ⟨k, hk, by omega, hclose, hpos, rfl⟩
  · cases hscaled

/-- A ranking succeeds if some step within the limit moves the ranks by less than the tolerance and
every vector of ranks has a positive sum; it ends no later than at that step. -/
theorem rank_of_close {g : EntityGraph} {o : RankingOptions ℚ} {k : ℕ} (hg : g.size ≠ 0)
    (hk : k < o.limit.toNat)
    (hclose : magnitude (ranksAfter g o.damping (k + 1) - ranksAfter g o.damping k) < o.tolerance)
    (hpos : ∀ m, 0 < ∑ i, ranksAfter g o.damping (m + 1) i) :
    ∃ ranks, ∃ iterations ≤ k + 1, rank o g = .ok (ranks, iterations) := by
  obtain ⟨m, hm, hsettled⟩ := settle_of_close hk 0 hclose
  rw [rank_eq, settled_eq hg, hsettled]
  change ∃ ranks, ∃ iterations ≤ k + 1,
    (normalise (List.ofFn (ranksAfter g o.damping (m + 1)))).map
      (fun scaled => (g.names.zip scaled, 0 + m + 1)) = .ok (ranks, iterations)
  rw [normalise_ofFn, if_pos (hpos m)]
  exact ⟨_, 0 + m + 1, by omega, rfl⟩

end Ranking

end EntityAtlas
