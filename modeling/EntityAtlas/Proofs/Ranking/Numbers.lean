import EntityAtlas.Graph.Ranking

/-!
# Ranks are numbers

Ranking checks after every iteration that no rank has stopped being a number, and scales by a finite
positive sum. So whatever kind of number it runs on, a ranking that succeeds has one rank for every
vertex, in their order, and all of them can be compared. Of the numbers only what holds of
floating-point ones is asked: a comparison with a value that is no number is false, the others are
ordered, and a number divided by a finite positive one is a number.
-/

namespace EntityAtlas

open Scalar

/-- Numbers are ordered, apart from values that are no numbers, which compare with nothing. -/
class Scalar.Ordered (α : Type) [Scalar α] : Prop where
  /-- Zero is a number. -/
  isNaN_zero : isNaN (ofNat 0 : α) = false
  /-- Of two values at most one is less than the other. -/
  less_asymm : ∀ a b : α, less a b = true → ¬ less b a = true
  /-- A number cannot be apart from both sides of a comparison. -/
  less_or_less : ∀ a b c : α, isNaN b = false → less a c = true → less a b = true ∨ less b c = true
  /-- Scaling by a finite positive number keeps a number one. -/
  isNaN_div : ∀ a t : α, isNaN a = false → isFinite t = true → less (ofNat 0) t = true →
    isNaN (div a t) = false

namespace Ranking

variable {α : Type} [Scalar α]

/-! ## One rank for every vertex -/

theorem length_flow {matrix : List (List α)} {ranks : List α}
    (h : ∀ row ∈ matrix, row.length = ranks.length) :
    (flow matrix ranks).length = ranks.length := by
  have hfold : ∀ (senders : List (List α × α)) (received : List α),
      (∀ s ∈ senders, s.1.length = received.length) →
      (senders.foldl (fun received s =>
        received.zipWith add (s.1.map fun share => mul share s.2)) received).length =
        received.length := by
    intro senders
    induction senders with
    | nil => exact fun _ _ => rfl
    | cons s senders ih =>
      intro received hlength
      have hstep : (received.zipWith add (s.1.map fun share => mul share s.2)).length =
          received.length := by
        rw [List.length_zipWith, List.length_map, hlength s List.mem_cons_self, Nat.min_self]
      rw [List.foldl_cons, ih _ fun t ht => ?_]
      · exact hstep
      · rw [hstep]
        exact hlength t (List.mem_cons_of_mem _ ht)
  unfold flow
  refine (hfold (matrix.zip ranks) _ fun s hs => ?_).trans (List.length_map _)
  rw [List.length_map]
  exact h s.1 (List.of_mem_zip hs).1

theorem length_update {matrix : List (List α)} {ranks : List α} (damping restart : α)
    (h : ∀ row ∈ matrix, row.length = ranks.length) :
    (update damping restart matrix ranks).length = ranks.length := by
  rw [update, List.length_map, length_flow h]

theorem length_of_mem_transitions {g : EntityGraph} {row : List α} (h : row ∈ transitions g) :
    row.length = g.names.length := by
  obtain ⟨counts, hcounts, rfl⟩ := List.mem_map.mp h
  obtain ⟨s, _, rfl⟩ := List.mem_map.mp hcounts
  rw [shares, List.length_map, List.length_map]

/-- Ranks that settle are as many as before, and numbers. -/
theorem settle_numbers {o : RankingOptions α} {restart : α} {matrix : List (List α)}
    {remaining done iterations : Nat} {ranks settled : List α}
    (hrows : ∀ row ∈ matrix, row.length = ranks.length)
    (h : settle o restart matrix remaining done ranks = .ok (settled, iterations)) :
    settled.length = ranks.length ∧ ∀ r ∈ settled, isNaN r = false := by
  induction remaining generalizing done ranks with
  | zero => cases h
  | succ remaining ih =>
    have hlength := length_update o.damping restart hrows
    rw [settle] at h
    by_cases hnan : (update o.damping restart matrix ranks).any isNaN = true
    · rw [if_pos hnan] at h
      cases h
    · rw [if_neg hnan] at h
      split at h
      · obtain ⟨rfl, _⟩ := Prod.mk.inj (Except.ok.inj h)
        refine ⟨hlength, fun r hr => ?_⟩
        rw [List.any_eq_true] at hnan
        exact Bool.eq_false_iff.mpr fun hr' => hnan ⟨r, hr, hr'⟩
      · obtain ⟨hsettled, hnumbers⟩ := ih (fun row hrow => (hrows row hrow).trans hlength.symm) h
        exact ⟨hsettled.trans hlength, hnumbers⟩

theorem settled_numbers {o : RankingOptions α} {g : EntityGraph} {ranks : List α}
    {iterations : Nat} (h : settled o g = .ok (ranks, iterations)) :
    g.size ≠ 0 ∧ ranks.length = g.names.length ∧ ∀ r ∈ ranks, isNaN r = false := by
  unfold settled at h
  by_cases hsize : g.size = 0
  · simp only [if_pos hsize] at h
    cases h
  · simp only [if_neg hsize] at h
    obtain ⟨hlength, hnumbers⟩ := settle_numbers (fun row hrow => by
      rw [length_of_mem_transitions hrow, List.length_map]) h
    exact ⟨hsize, hlength.trans (List.length_map _), hnumbers⟩

theorem normalise_ok {ranks scaled : List α} (h : normalise ranks = .ok scaled) :
    isFinite (sum ranks) = true ∧ less (ofNat 0) (sum ranks) = true ∧
      scaled = ranks.map fun r => div r (sum ranks) := by
  unfold normalise at h
  dsimp only at h
  split at h
  · rename_i htotal
    rw [Bool.and_eq_true] at htotal
    exact ⟨htotal.1, htotal.2, (Except.ok.inj h).symm⟩
  · cases h

theorem rank_eq (o : RankingOptions α) (g : EntityGraph) : rank o g =
    (settled o g).bind fun found =>
      (normalise found.1).map fun scaled => (g.names.zip scaled, found.2) := by
  unfold rank
  cases settled o g with
  | error _ => rfl
  | ok found =>
    show (normalise found.1 >>= fun scaled => pure (g.names.zip scaled, found.2)) =
      (normalise found.1).map fun scaled => (g.names.zip scaled, found.2)
    cases normalise found.1 <;> rfl

/-- A ranking that succeeds has settled ranks, scaled, under the names of the vertices. -/
theorem rank_eq_ok {o : RankingOptions α} {g : EntityGraph} {ranks : Table α} {iterations : Nat}
    (h : rank o g = .ok (ranks, iterations)) :
    ∃ found scaled, settled o g = .ok (found, iterations) ∧ normalise found = .ok scaled ∧
      ranks = g.names.zip scaled := by
  rw [rank_eq] at h
  cases hs : settled o g with
  | error fault =>
    rw [hs] at h
    cases h
  | ok found =>
    rw [hs] at h
    change (normalise found.1).map _ = _ at h
    cases hn : normalise found.1 with
    | error fault =>
      rw [hn] at h
      cases h
    | ok scaled =>
      rw [hn] at h
      obtain ⟨hranks, hiterations⟩ := Prod.mk.inj (Except.ok.inj h)
      exact ⟨found.1, scaled, by rw [← hiterations], hn, hranks.symm⟩

theorem names_rank {o : RankingOptions α} {g : EntityGraph} {ranks : Table α} {iterations : Nat}
    (h : rank o g = .ok (ranks, iterations)) : ranks.names = g.names := by
  obtain ⟨found, scaled, hsettled, hscaled, rfl⟩ := rank_eq_ok h
  obtain ⟨_, _, rfl⟩ := normalise_ok hscaled
  refine List.map_fst_zip (Nat.le_of_eq ?_)
  rw [List.length_map, (settled_numbers hsettled).2.1]

theorem ne_nil_rank {o : RankingOptions α} {g : EntityGraph} {ranks : Table α} {iterations : Nat}
    (h : rank o g = .ok (ranks, iterations)) : ranks ≠ [] := by
  obtain ⟨found, _, hsettled, _, _⟩ := rank_eq_ok h
  have hsize := (settled_numbers hsettled).1
  intro hnil
  have hnames := names_rank h
  rw [hnil] at hnames
  refine hsize ?_
  rw [EntityGraph.size, ← List.length_map (f := Prod.fst)]
  exact congrArg List.length hnames.symm

/-- The ranks of a ranking that succeeds are numbers. -/
theorem isNaN_rank [Scalar.Ordered α] {o : RankingOptions α} {g : EntityGraph} {ranks : Table α}
    {iterations : Nat} (h : rank o g = .ok (ranks, iterations)) {entry : String × α}
    (hentry : entry ∈ ranks) : isNaN entry.2 = false := by
  obtain ⟨found, scaled, hsettled, hscaled, rfl⟩ := rank_eq_ok h
  obtain ⟨hfinite, hpos, rfl⟩ := normalise_ok hscaled
  obtain ⟨r, hr, heq⟩ := List.mem_map.mp (List.of_mem_zip hentry).2
  rw [← heq]
  exact Ordered.isNaN_div r _ ((settled_numbers hsettled).2.2 r hr) hfinite hpos

end Ranking

end EntityAtlas
