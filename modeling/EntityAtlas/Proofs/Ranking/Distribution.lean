import EntityAtlas.Proofs.Ranking.Convergence

/-!
# Ranks are a distribution

Scaling is the last thing that ranking does, so the ranks sum to one whatever the parameters.
Before it they need not: an entity without edges passes nothing on, and rank leaks away. With a
damping factor from zero to below one the sum starts at one and never grows, no rank is negative,
and every entity keeps what all receive on top. Scaling then only makes ranks larger, and there is
always something to scale.
-/

namespace EntityAtlas.Ranking

open Scalar

/-! ## The ranks of every iteration -/

/-- The ranks after some iterations, in the order of the vertices. -/
def iterated {α : Type} [Scalar α] (o : RankingOptions α) (g : EntityGraph) (k : ℕ) : List α :=
  (update o.damping (div (sub (ofNat 1) o.damping) (ofNat g.size)) (transitions g))^[k]
    (g.names.map fun _ => div (ofNat 1) (ofNat g.size))

theorem iterated_eq (o : RankingOptions ℚ) (g : EntityGraph) (k : ℕ) :
    iterated o g k = List.ofFn (ranksAfter g o.damping k) := by
  have hone : (ofNat 1 : ℚ) = 1 := Nat.cast_one
  induction k with
  | zero =>
    show (g.names.map fun _ => (div (ofNat 1) (ofNat g.size) : ℚ)) =
      List.ofFn fun _ : Fin g.size => 1 / (g.size : ℚ)
    rw [List.map_const', length_names, List.ofFn_const, hone]
    rfl
  | succ k ih =>
    have hstep : iterated o g (k + 1) = update o.damping ((1 - o.damping) / g.size) (transitions g)
        (iterated o g k) := by
      unfold iterated
      rw [Function.iterate_succ_apply', hone]
      rfl
    rw [hstep, ih, transitions_eq, update_ofFn, ranksAfter_succ]

/-- What a ranking returns are the ranks of its last iteration, scaled. -/
theorem rank_eq_iterated {o : RankingOptions ℚ} {g : EntityGraph} {ranks : Table ℚ}
    {iterations : ℕ} (h : rank o g = .ok (ranks, iterations)) :
    (normalise (iterated o g iterations)).map g.names.zip = .ok ranks := by
  obtain ⟨k, _, rfl, _, hpos, rfl⟩ := rank_ok h
  rw [iterated_eq, normalise_ofFn, if_pos hpos]
  rfl

section Mass

variable {g : EntityGraph} {α : ℚ} (h0 : 0 ≤ α) (h1 : α < 1)

include h0 h1

/-- No iteration adds to the sum of the ranks. -/
theorem sum_ranksAfter_le (k : ℕ) : ∑ i, ranksAfter g α k i ≤ 1 := by
  by_cases hg : g.size = 0
  · have hempty : IsEmpty (Fin g.size) := hg ▸ Fin.isEmpty
    rw [Finset.univ_eq_empty, Finset.sum_empty]
    exact zero_le_one
  · have hrestart : (Fintype.card (Fin g.size) : ℚ) * ((1 - α) / g.size) = 1 - α := by
      rw [Fintype.card_fin]
      exact mul_div_cancel₀ (1 - α) (Nat.cast_ne_zero.mpr hg)
    induction k with
    | zero => exact (sum_const_div hg 1).le
    | succ k ih =>
      have hstep : ∑ i, ranksAfter g α (k + 1) i ≤
          α * ∑ i, ranksAfter g α k i + Fintype.card (Fin g.size) * ((1 - α) / g.size) := by
        rw [ranksAfter_succ]
        exact sum_damped_le (substochastic_transitionMatrix g) h0 (ranksAfter_nonneg h0 h1 k)
      have hkept := mul_le_mul_of_nonneg_left ih h0
      rw [hrestart] at hstep
      linarith

end Mass

/-! ## The ways out -/

/-- Iterating never fails for want of mass. -/
theorem settle_ne_noMass {α : Type} [Scalar α] {o : RankingOptions α} {restart : α}
    {matrix : List (List α)} {remaining done : ℕ} {ranks : List α} :
    settle o restart matrix remaining done ranks ≠ .error .noMass := by
  induction remaining generalizing done ranks with
  | zero =>
    intro h
    cases h
  | succ remaining ih =>
    intro h
    rw [settle] at h
    split at h
    · cases h
    · split at h
      · cases h
      · exact ih h

theorem settled_ne_noMass {α : Type} [Scalar α] {o : RankingOptions α} {g : EntityGraph} :
    settled o g ≠ .error .noMass := by
  unfold settled
  by_cases hg : g.size = 0
  · rw [if_pos hg]
    intro h
    cases h
  · simp only [if_neg hg]
    exact settle_ne_noMass

/-- With a damping factor below one there is always something to scale. -/
theorem rank_ne_noMass {o : RankingOptions ℚ} {g : EntityGraph} (h0 : 0 ≤ o.damping)
    (h1 : o.damping < 1) : rank o g ≠ .error .noMass := by
  intro h
  rw [rank_eq] at h
  cases hsettled : settled o g with
  | error fault =>
    rw [hsettled] at h
    obtain rfl : fault = .noMass := Except.error.inj h
    exact settled_ne_noMass hsettled
  | ok found =>
    obtain ⟨ranks, iterations⟩ := found
    have hg := (settled_numbers hsettled).1
    rw [settled_eq hg] at hsettled
    obtain ⟨k, _, _, rfl, _⟩ := settle_ok hsettled
    rw [settled_eq hg, hsettled] at h
    change (normalise (List.ofFn (ranksAfter g o.damping (k + 1)))).map _ = _ at h
    rw [normalise_ofFn, if_pos (sum_ranksAfter_pos h0 h1 hg k)] at h
    cases h

/-! ## The ranks that are returned -/

/-- One rank for every vertex, in their order, which sum to one. -/
structure IsDistribution (g : EntityGraph) (ranks : Table ℚ) : Prop where
  names_eq : ranks.names = g.names
  sum_eq : (ranks.map Prod.snd).sum = 1

theorem isDistribution_rank {o : RankingOptions ℚ} {g : EntityGraph} {ranks : Table ℚ}
    {iterations : ℕ} (h : rank o g = .ok (ranks, iterations)) : IsDistribution g ranks := by
  obtain ⟨k, _, _, _, hpos, rfl⟩ := rank_ok h
  refine ⟨names_zip _, ?_⟩
  rw [values_zip, List.sum_ofFn]
  exact sum_scaled hpos

/-- The only vertex has all rank. -/
theorem IsDistribution.of_single {g : EntityGraph} {ranks : Table ℚ} (h : IsDistribution g ranks)
    {name : String} (hname : g.names = [name]) : ranks = [(name, 1)] := by
  obtain ⟨hnames, hsum⟩ := h
  rw [hname] at hnames
  obtain ⟨⟨key, r⟩, rfl, rfl⟩ := List.map_eq_singleton_iff.mp hnames
  have hr : r = 1 := by simpa using hsum
  rw [hr]

theorem rank_bounds {o : RankingOptions ℚ} {g : EntityGraph} {ranks : Table ℚ} {iterations : ℕ}
    (h0 : 0 ≤ o.damping) (h1 : o.damping < 1) (h : rank o g = .ok (ranks, iterations))
    {entry : String × ℚ} (hentry : entry ∈ ranks) :
    (1 - o.damping) / g.size ≤ entry.2 ∧ entry.2 ≤ 1 := by
  obtain ⟨k, _, _, _, hpos, rfl⟩ := rank_ok h
  have hnonneg := ranksAfter_nonneg (g := g) h0 h1 (k + 1)
  obtain ⟨i, hi⟩ := List.mem_ofFn.mp (List.of_mem_zip hentry).2
  rw [← hi]
  refine ⟨?_, scaled_le_one hnonneg hpos i⟩
  calc (1 - o.damping) / g.size ≤ ranksAfter g o.damping (k + 1) i := by
        rw [ranksAfter_succ]
        exact damped_ge (substochastic_transitionMatrix g) h0 (ranksAfter_nonneg h0 h1 k) i
    _ ≤ scaled (ranksAfter g o.damping (k + 1)) i :=
        le_scaled hnonneg hpos (sum_ranksAfter_le h0 h1 (k + 1)) i

/-- A ranking that succeeds gives a distribution over the vertices, whatever the parameters: the
ranks of its last iteration, scaled. With a damping factor from zero to below one the ranks of no
iteration sum to more than one, ranking does not fail for want of anything to scale, and every rank
is between what all receive on top and one; a single vertex has rank one. -/
theorem rank_distribution (o : RankingOptions ℚ) (g : EntityGraph) :
    (∀ ranks iterations, rank o g = .ok (ranks, iterations) → IsDistribution g ranks ∧
      (normalise (iterated o g iterations)).map g.names.zip = .ok ranks) ∧
    (0 ≤ o.damping → o.damping < 1 →
      (∀ k, (iterated o g k).sum ≤ 1) ∧
      rank o g ≠ .error .noMass ∧
      ∀ ranks iterations, rank o g = .ok (ranks, iterations) →
        (∀ entry ∈ ranks, (1 - o.damping) / g.size ≤ entry.2 ∧ entry.2 ≤ 1) ∧
        ∀ name, g.names = [name] → ranks = [(name, 1)]) := by
  refine ⟨fun ranks iterations h => ⟨isDistribution_rank h, rank_eq_iterated h⟩,
    fun h0 h1 => ⟨fun k => ?_, ?_, ?_⟩⟩
  · rw [iterated_eq, List.sum_ofFn]
    exact sum_ranksAfter_le h0 h1 k
  · exact rank_ne_noMass h0 h1
  · intro ranks iterations h
    exact ⟨fun entry hentry => rank_bounds h0 h1 h hentry,
      fun name hname => (isDistribution_rank h).of_single hname⟩

/-! ## Replies to messages, and a graph of one vertex -/

/-- Replies are to a message; messages refer to nothing. -/
def replyGraph : EntityGraph :=
  .build
    [⟨"Message", "messages", some "id", [], true⟩, ⟨"Reply", "replies", some "id", [], true⟩]
    [("Reply", [⟨"message", .belongsTo, .direct "Message", [], [("message_id", "id")], none⟩])]

/-- Nothing but messages. -/
def messageGraph : EntityGraph := .build [⟨"Message", "messages", some "id", [], true⟩] []

/-- Half of all rank flows, for at most ten iterations. -/
def briefly : RankingOptions ℚ := { damping := 1 / 2, tolerance := 1 / 10, limit := 10 }

/-- After two iterations messages have three eighths of all rank and replies a quarter; the rest has
leaked away. -/
theorem rank_distribution_replies :
    rank briefly replyGraph = .ok ([("Message", 3 / 5), ("Reply", 2 / 5)], 3) ∧
    IsDistribution replyGraph [("Message", 3 / 5), ("Reply", 2 / 5)] ∧
    (1 - briefly.damping) / replyGraph.size ≤ 2 / 5 ∧
    ∃ iterations, rank briefly messageGraph = .ok ([("Message", 1)], iterations) := by
  have hreplies : rank briefly replyGraph = .ok ([("Message", 3 / 5), ("Reply", 2 / 5)], 3) := by
    decide +kernel
  have hmessages : ∃ ranks, rank briefly messageGraph = .ok (ranks, 2) :=
    ⟨[("Message", 1)], by decide +kernel⟩
  have h0 : 0 ≤ briefly.damping := by decide +kernel
  have h1 : briefly.damping < 1 := by decide +kernel
  obtain ⟨_, _, hbounded⟩ := (rank_distribution briefly replyGraph).2 h0 h1
  obtain ⟨_, _, hsingle⟩ := (rank_distribution briefly messageGraph).2 h0 h1
  refine ⟨hreplies, ((rank_distribution briefly replyGraph).1 _ _ hreplies).1, ?_, ?_⟩
  · have hmem : ("Reply", 2 / 5) ∈ [("Message", (3 / 5 : ℚ)), ("Reply", 2 / 5)] := by simp
    exact ((hbounded _ _ hreplies).1 _ hmem).1
  · obtain ⟨ranks, hranks⟩ := hmessages
    have hone := (hsingle _ _ hranks).2 "Message" (by decide +kernel)
    exact ⟨2, hone ▸ hranks⟩

end EntityAtlas.Ranking
