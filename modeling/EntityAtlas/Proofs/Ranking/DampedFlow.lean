import Mathlib.Algebra.BigOperators.Field
import Mathlib.Algebra.Order.BigOperators.Ring.Finset
import Mathlib.LinearAlgebra.FiniteDimensional.Lemmas
import Mathlib.LinearAlgebra.Matrix.ToLin
import Mathlib.Tactic.LinearCombination
import Mathlib.Tactic.Linarith
import Mathlib.Tactic.Positivity

/-!
# Damped flow

Ranks flow along a matrix of shares of which no row passes on more than it has; a part `α` of the
flow is kept and every place receives the same amount on top. Measured by the sum of absolute
values, one such step brings any two vectors of ranks closer by the factor `α`. So the steps shrink
geometrically, there is exactly one steady vector, and how far a vector moves in its last step
bounds how far it is from the steady one, also after both have been scaled to sum to one.
-/

namespace EntityAtlas.Ranking

open Matrix

variable {ι : Type} [Fintype ι]

/-! ## The sum of absolute values -/

/-- The sum of the absolute values of a vector. -/
def magnitude (v : ι → ℚ) : ℚ := ∑ i, |v i|

theorem magnitude_nonneg (v : ι → ℚ) : 0 ≤ magnitude v :=
  Finset.sum_nonneg fun i _ => abs_nonneg (v i)

theorem magnitude_of_nonneg {v : ι → ℚ} (h : ∀ i, 0 ≤ v i) : magnitude v = ∑ i, v i :=
  Finset.sum_congr rfl fun i _ => abs_of_nonneg (h i)

theorem magnitude_add_le (v w : ι → ℚ) : magnitude (v + w) ≤ magnitude v + magnitude w := by
  unfold magnitude
  rw [← Finset.sum_add_distrib]
  exact Finset.sum_le_sum fun i _ => abs_add_le (v i) (w i)

theorem magnitude_sub_comm (v w : ι → ℚ) : magnitude (v - w) = magnitude (w - v) :=
  Finset.sum_congr rfl fun i _ => abs_sub_comm (v i) (w i)

theorem magnitude_smul (c : ℚ) (v : ι → ℚ) : magnitude (c • v) = |c| * magnitude v := by
  unfold magnitude
  rw [Finset.mul_sum]
  exact Finset.sum_congr rfl fun i _ => abs_mul c (v i)

theorem magnitude_eq_zero {v : ι → ℚ} (h : magnitude v ≤ 0) : v = 0 := by
  have hzero : ∑ i, |v i| = 0 := le_antisymm h (magnitude_nonneg v)
  funext i
  have hi := (Finset.sum_eq_zero_iff_of_nonneg fun i _ => abs_nonneg (v i)).mp hzero i
    (Finset.mem_univ i)
  exact abs_eq_zero.mp hi

theorem abs_sum_sub_le (v w : ι → ℚ) : |∑ i, v i - ∑ i, w i| ≤ magnitude (v - w) := by
  rw [← Finset.sum_sub_distrib]
  exact Finset.abs_sum_le_sum_abs (fun i => v i - w i) Finset.univ

/-! ## Flow along shares -/

/-- No place passes on a negative share, nor more than it has. -/
structure Substochastic (P : Matrix ι ι ℚ) : Prop where
  /-- Shares are not negative. -/
  nonneg : ∀ i j, 0 ≤ P i j
  /-- All shares of a place make at most one. -/
  sum_le_one : ∀ i, ∑ j, P i j ≤ 1

theorem flow_apply (P : Matrix ι ι ℚ) (v : ι → ℚ) (j : ι) : (Pᵀ *ᵥ v) j = ∑ i, P i j * v i := rfl

/-- A place that no share is passed to receives nothing. -/
theorem flow_eq_zero {P : Matrix ι ι ℚ} {j : ι} (h : ∀ i, P i j = 0) (v : ι → ℚ) :
    (Pᵀ *ᵥ v) j = 0 := by
  rw [flow_apply]
  exact Finset.sum_eq_zero fun i _ => by rw [h i, zero_mul]

theorem sum_flow (P : Matrix ι ι ℚ) (v : ι → ℚ) :
    ∑ j, (Pᵀ *ᵥ v) j = ∑ i, (∑ j, P i j) * v i := by
  simp only [flow_apply, Finset.sum_mul]
  exact Finset.sum_comm

namespace Substochastic

variable {P : Matrix ι ι ℚ} (hP : Substochastic P)

include hP

theorem flow_nonneg {v : ι → ℚ} (hv : ∀ i, 0 ≤ v i) (j : ι) : 0 ≤ (Pᵀ *ᵥ v) j := by
  rw [flow_apply]
  exact Finset.sum_nonneg fun i _ => mul_nonneg (hP.nonneg i j) (hv i)

theorem flow_pos {v : ι → ℚ} (hv : ∀ i, 0 < v i) {i j : ι} (hij : P i j ≠ 0) :
    0 < (Pᵀ *ᵥ v) j := by
  have hterm : 0 < P i j * v i := mul_pos ((hP.nonneg i j).lt_of_ne' hij) (hv i)
  have hle : P i j * v i ≤ ∑ i, P i j * v i :=
    Finset.single_le_sum (fun i _ => mul_nonneg (hP.nonneg i j) (hv i).le) (Finset.mem_univ i)
  rw [flow_apply]
  exact hterm.trans_le hle

theorem sum_flow_le {v : ι → ℚ} (hv : ∀ i, 0 ≤ v i) : ∑ j, (Pᵀ *ᵥ v) j ≤ ∑ i, v i := by
  rw [sum_flow]
  exact Finset.sum_le_sum fun i _ => mul_le_of_le_one_left (hv i) (hP.sum_le_one i)

/-- Flow does not make a vector larger. -/
theorem magnitude_flow_le (v : ι → ℚ) : magnitude (Pᵀ *ᵥ v) ≤ magnitude v := by
  have hentry : ∀ j, |(Pᵀ *ᵥ v) j| ≤ (Pᵀ *ᵥ fun i => |v i|) j := by
    intro j
    rw [flow_apply, flow_apply]
    refine (Finset.abs_sum_le_sum_abs _ _).trans (le_of_eq ?_)
    refine Finset.sum_congr rfl fun i _ => ?_
    rw [abs_mul, abs_of_nonneg (hP.nonneg i j)]
  calc magnitude (Pᵀ *ᵥ v) ≤ ∑ j, (Pᵀ *ᵥ fun i => |v i|) j :=
        Finset.sum_le_sum fun j _ => hentry j
    _ ≤ ∑ i, |v i| := hP.sum_flow_le fun i => abs_nonneg (v i)

end Substochastic

/-! ## One step and many -/

/-- One step: a part of the flow, and the same amount for every place. -/
def damped (P : Matrix ι ι ℚ) (α restart : ℚ) (v : ι → ℚ) : ι → ℚ :=
  α • (Pᵀ *ᵥ v) + fun _ => restart

/-- A vector that a step leaves as it is. -/
def IsSteady (P : Matrix ι ι ℚ) (α restart : ℚ) (r : ι → ℚ) : Prop :=
  r = α • (Pᵀ *ᵥ r) + fun _ => restart

theorem IsSteady.damped_eq {P : Matrix ι ι ℚ} {α restart : ℚ} {r : ι → ℚ}
    (h : IsSteady P α restart r) : damped P α restart r = r := h.symm

theorem damped_apply (P : Matrix ι ι ℚ) (α restart : ℚ) (v : ι → ℚ) (j : ι) :
    damped P α restart v j = α * (Pᵀ *ᵥ v) j + restart := rfl

theorem damped_sub (P : Matrix ι ι ℚ) (α restart : ℚ) (v w : ι → ℚ) :
    damped P α restart v - damped P α restart w = α • (Pᵀ *ᵥ (v - w)) := by
  unfold damped
  rw [add_sub_add_right_eq_sub, mulVec_sub, smul_sub]

section Step

variable {P : Matrix ι ι ℚ} (hP : Substochastic P) {α restart : ℚ} (h0 : 0 ≤ α)

include hP h0

/-- A step brings two vectors closer by the damping factor. -/
theorem magnitude_damped_sub_le (v w : ι → ℚ) :
    magnitude (damped P α restart v - damped P α restart w) ≤ α * magnitude (v - w) := by
  rw [damped_sub, magnitude_smul, abs_of_nonneg h0]
  exact mul_le_mul_of_nonneg_left (hP.magnitude_flow_le _) h0

/-- The movement of a step shrinks geometrically. -/
theorem magnitude_iterate_le (v : ι → ℚ) (k : ℕ) :
    magnitude ((damped P α restart)^[k + 1] v - (damped P α restart)^[k] v) ≤
      α ^ k * magnitude (damped P α restart v - v) := by
  induction k with
  | zero => simp
  | succ k ih =>
    rw [Function.iterate_succ_apply' _ (k + 1), Function.iterate_succ_apply' _ k]
    calc _ ≤ α * magnitude ((damped P α restart)^[k + 1] v - (damped P α restart)^[k] v) := by
          rw [Function.iterate_succ_apply' _ k]
          exact magnitude_damped_sub_le hP h0 _ _
      _ ≤ α * (α ^ k * magnitude (damped P α restart v - v)) := mul_le_mul_of_nonneg_left ih h0
      _ = α ^ (k + 1) * magnitude (damped P α restart v - v) := by rw [pow_succ]; ring

theorem damped_ge {v : ι → ℚ} (hv : ∀ i, 0 ≤ v i) (j : ι) : restart ≤ damped P α restart v j := by
  have hflow := mul_nonneg h0 (hP.flow_nonneg hv j)
  rw [damped_apply]
  linarith

theorem iterate_nonneg (hr : 0 ≤ restart) {v : ι → ℚ} (hv : ∀ i, 0 ≤ v i) (k : ℕ) (j : ι) :
    0 ≤ (damped P α restart)^[k] v j := by
  induction k generalizing j with
  | zero => exact hv j
  | succ k ih =>
    rw [Function.iterate_succ_apply']
    exact hr.trans (damped_ge hP h0 ih j)

/-- A step leaves at most the damped sum and what all places receive on top. -/
theorem sum_damped_le {v : ι → ℚ} (hv : ∀ i, 0 ≤ v i) :
    ∑ j, damped P α restart v j ≤ α * ∑ i, v i + Fintype.card ι * restart := by
  have hflow : ∑ j, α * (Pᵀ *ᵥ v) j ≤ α * ∑ i, v i := by
    rw [← Finset.mul_sum]
    exact mul_le_mul_of_nonneg_left (hP.sum_flow_le hv) h0
  have hconst : ∑ _ : ι, restart = Fintype.card ι * restart := by
    rw [Finset.sum_const, Finset.card_univ, nsmul_eq_mul]
  simp only [damped_apply, Finset.sum_add_distrib, hconst]
  exact add_le_add_left hflow _

/-- How far a vector moved in a step bounds how far it then is from the steady one. -/
theorem IsSteady.magnitude_sub_le {r : ι → ℚ} (h : IsSteady P α restart r) (v : ι → ℚ) :
    (1 - α) * magnitude (damped P α restart v - r) ≤
      α * magnitude (damped P α restart v - v) := by
  have hstep : magnitude (damped P α restart v - r) ≤ α * magnitude (v - r) := by
    conv_lhs => rw [← h.damped_eq]
    exact magnitude_damped_sub_le hP h0 v r
  have htriangle : magnitude (v - r) ≤
      magnitude (damped P α restart v - v) + magnitude (damped P α restart v - r) := by
    rw [magnitude_sub_comm (damped P α restart v) v]
    have hadd := magnitude_add_le (v - damped P α restart v) (damped P α restart v - r)
    rwa [sub_add_sub_cancel] at hadd
  have hpart := mul_le_mul_of_nonneg_left htriangle h0
  linarith

end Step

/-! ## The steady vector -/

section Steady

variable {P : Matrix ι ι ℚ} (hP : Substochastic P) {α restart : ℚ} (h0 : 0 ≤ α) (h1 : α < 1)

include hP h0 h1

/-- Only the zero vector is a damped part of its own flow. -/
theorem eq_zero_of_eq_smul_flow {v : ι → ℚ} (h : v = α • (Pᵀ *ᵥ v)) : v = 0 := by
  have hle : magnitude v ≤ α * magnitude v := by
    calc magnitude v = α * magnitude (Pᵀ *ᵥ v) := by
          conv_lhs => rw [h]
          rw [magnitude_smul, abs_of_nonneg h0]
      _ ≤ α * magnitude v := mul_le_mul_of_nonneg_left (hP.magnitude_flow_le v) h0
  have hnonneg := magnitude_nonneg v
  refine magnitude_eq_zero ?_
  nlinarith

/-- There is exactly one steady vector: what is left of a vector after its damped flow is taken away
determines the vector, and over finitely many places it may therefore be anything. -/
theorem existsUnique_steady (restart : ℚ) : ∃! r, IsSteady P α restart r := by
  let T : (ι → ℚ) →ₗ[ℚ] (ι → ℚ) := LinearMap.id - α • Pᵀ.mulVecLin
  have hT : ∀ v, T v = v - α • (Pᵀ *ᵥ v) := fun v => rfl
  have hinj : Function.Injective T := by
    refine (injective_iff_map_eq_zero T).mpr fun v hv => ?_
    exact eq_zero_of_eq_smul_flow hP h0 h1 (sub_eq_zero.mp ((hT v).symm.trans hv))
  have hsteady : ∀ r, T r = (fun _ => restart) ↔ IsSteady P α restart r := by
    intro r
    rw [hT, sub_eq_iff_eq_add, IsSteady, add_comm]
  obtain ⟨r, hr⟩ := LinearMap.injective_iff_surjective.mp hinj fun _ => restart
  exact ⟨r, (hsteady r).mp hr, fun s hs => hinj (((hsteady s).mpr hs).trans hr.symm)⟩

/-- The steady vector has no negative entry: the negative parts of its entries make a vector that is
at most a damped part of its own flow. -/
theorem IsSteady.nonneg {r : ι → ℚ} (h : IsSteady P α restart r) (hr : 0 ≤ restart) (i : ι) :
    0 ≤ r i := by
  let m : ι → ℚ := fun i => max (-r i) 0
  have hm : ∀ i, 0 ≤ m i := fun i => le_max_right _ _
  have hrm : ∀ i, -r i ≤ m i := fun i => le_max_left _ _
  have hflow : ∀ j, m j ≤ α * (Pᵀ *ᵥ m) j := by
    intro j
    refine max_le ?_ (mul_nonneg h0 (hP.flow_nonneg hm j))
    have hentry : r j = α * (Pᵀ *ᵥ r) j + restart := congrFun h j
    have hneg : -(Pᵀ *ᵥ r) j ≤ (Pᵀ *ᵥ m) j := by
      calc -(Pᵀ *ᵥ r) j = ∑ i, P i j * -r i := by
            simp only [flow_apply, mul_neg, Finset.sum_neg_distrib]
        _ ≤ ∑ i, P i j * m i :=
            Finset.sum_le_sum fun i _ => mul_le_mul_of_nonneg_left (hrm i) (hP.nonneg i j)
    have hpart := mul_le_mul_of_nonneg_left hneg h0
    linarith
  have hsum : ∑ i, m i ≤ α * ∑ i, m i := by
    calc ∑ i, m i ≤ ∑ j, α * (Pᵀ *ᵥ m) j := Finset.sum_le_sum fun j _ => hflow j
      _ = α * ∑ j, (Pᵀ *ᵥ m) j := (Finset.mul_sum _ _ _).symm
      _ ≤ α * ∑ i, m i := mul_le_mul_of_nonneg_left (hP.sum_flow_le hm) h0
  have hzero : m = 0 := by
    have hnonneg : 0 ≤ ∑ i, m i := Finset.sum_nonneg fun i _ => hm i
    refine magnitude_eq_zero ?_
    rw [magnitude_of_nonneg hm]
    nlinarith
  have hi : m i = 0 := congrFun hzero i
  have hle := hrm i
  linarith

end Steady

/-! ## Scaling to a sum of one -/

/-- A vector divided by the sum of its entries. -/
def scaled (v : ι → ℚ) : ι → ℚ := fun i => v i / ∑ j, v j

theorem sum_scaled {v : ι → ℚ} (h : 0 < ∑ i, v i) : ∑ i, scaled v i = 1 := by
  unfold scaled
  rw [← Finset.sum_div]
  exact div_self h.ne'

theorem scaled_le_one {v : ι → ℚ} (hv : ∀ i, 0 ≤ v i) (h : 0 < ∑ i, v i) (i : ι) :
    scaled v i ≤ 1 := by
  have hpart : v i ≤ ∑ j, v j := Finset.single_le_sum (fun j _ => hv j) (Finset.mem_univ i)
  exact (div_le_one h).mpr hpart

/-- Scaling a vector up takes nothing from its entries. -/
theorem le_scaled {v : ι → ℚ} (hv : ∀ i, 0 ≤ v i) (h : 0 < ∑ i, v i) (h1 : ∑ i, v i ≤ 1) (i : ι) :
    v i ≤ scaled v i := le_div_self (hv i) h h1

/-- Scaling two vectors to a sum of one at most doubles their distance, relative to the sum of the
first. -/
theorem magnitude_scaled_sub_le {v r : ι → ℚ} (hr : ∀ i, 0 ≤ r i) (hv : 0 < ∑ i, v i)
    (hpos : 0 < ∑ i, r i) :
    magnitude (scaled v - scaled r) ≤ 2 * magnitude (v - r) / ∑ i, v i := by
  set V := ∑ i, v i with hV
  set R := ∑ i, r i with hR
  have hsplit : scaled v - scaled r = V⁻¹ • (v - r) + (V⁻¹ - R⁻¹) • r := by
    funext i
    show v i / V - r i / R = V⁻¹ * (v i - r i) + (V⁻¹ - R⁻¹) * r i
    ring
  have hscale : |V⁻¹ - R⁻¹| * R = |V - R| / V := by
    have hdiff : V⁻¹ - R⁻¹ = (R - V) / (V * R) := by
      field_simp
    rw [hdiff, abs_div, abs_of_pos (mul_pos hv hpos), abs_sub_comm]
    field_simp
  calc magnitude (scaled v - scaled r)
      ≤ magnitude (V⁻¹ • (v - r)) + magnitude ((V⁻¹ - R⁻¹) • r) := by
        rw [hsplit]
        exact magnitude_add_le _ _
    _ = magnitude (v - r) / V + |V - R| / V := by
        rw [magnitude_smul, magnitude_smul, magnitude_of_nonneg hr, ← hR, hscale,
          abs_of_pos (inv_pos.mpr hv)]
        ring
    _ ≤ magnitude (v - r) / V + magnitude (v - r) / V := by
        have hsums := div_le_div_of_nonneg_right (abs_sum_sub_le v r) hv.le
        exact add_le_add_right hsums _
    _ = 2 * magnitude (v - r) / V := by ring

end EntityAtlas.Ranking
