import EntityAtlas.Proofs.Ranking.Exact

/-!
# The ranking converges

Damping by less than one makes every graph settle: the ranks move by at most `2 * α ^ k` in the
`k`-th step, whatever the number and the arrangement of the entities, and their sum never falls
below `1 - α`, so that they can be scaled. What is returned is close to the only steady ranks,
scaled likewise.
-/

namespace EntityAtlas.Ranking

variable {g : EntityGraph} {α : ℚ}

/-! ## Bounds on the ranks of every iteration -/

theorem sum_const_div (hg : g.size ≠ 0) (q : ℚ) : ∑ _ : Fin g.size, q / g.size = q := by
  rw [Finset.sum_const, Finset.card_univ, Fintype.card_fin, nsmul_eq_mul]
  exact mul_div_cancel₀ q (Nat.cast_ne_zero.mpr hg)

theorem restart_nonneg (h1 : α < 1) : 0 ≤ (1 - α) / g.size :=
  div_nonneg (sub_nonneg.mpr h1.le) (Nat.cast_nonneg _)

theorem start_nonneg (_ : Fin g.size) : (0 : ℚ) ≤ 1 / g.size :=
  div_nonneg zero_le_one (Nat.cast_nonneg _)

section Iterates

variable (h0 : 0 ≤ α) (h1 : α < 1)

include h0 h1

theorem ranksAfter_nonneg (k : ℕ) (i : Fin g.size) : 0 ≤ ranksAfter g α k i :=
  iterate_nonneg (substochastic_transitionMatrix g) h0 (restart_nonneg h1) start_nonneg k i

variable (hg : g.size ≠ 0)

include hg

/-- Every iteration leaves at least what every entity receives on top. -/
theorem sum_ranksAfter_ge (k : ℕ) : 1 - α ≤ ∑ i, ranksAfter g α (k + 1) i := by
  calc 1 - α = ∑ _ : Fin g.size, (1 - α) / g.size := (sum_const_div hg _).symm
    _ ≤ ∑ i, ranksAfter g α (k + 1) i := by
        refine Finset.sum_le_sum fun i _ => ?_
        rw [ranksAfter_succ]
        exact damped_ge (substochastic_transitionMatrix g) h0 (ranksAfter_nonneg h0 h1 k) i

theorem sum_ranksAfter_pos (k : ℕ) : 0 < ∑ i, ranksAfter g α (k + 1) i :=
  (sub_pos.mpr h1).trans_le (sum_ranksAfter_ge h0 h1 hg k)

omit h1 in
/-- The first step moves the equal ranks by no more than twice the part that flows. -/
theorem magnitude_first_le : magnitude (ranksAfter g α 1 - ranksAfter g α 0) ≤ 2 * α := by
  have hP := substochastic_transitionMatrix g
  set v : Fin g.size → ℚ := fun _ => 1 / g.size with hv
  have hmove : ranksAfter g α 1 - ranksAfter g α 0 =
      α • ((transitionMatrix g).transpose.mulVec v - v) := by
    funext i
    show α * (transitionMatrix g).transpose.mulVec v i + (1 - α) / g.size - 1 / g.size =
      α * ((transitionMatrix g).transpose.mulVec v i - 1 / g.size)
    ring
  have hsize : magnitude v = 1 := by
    rw [magnitude_of_nonneg start_nonneg]
    exact sum_const_div hg 1
  have hflow : magnitude ((transitionMatrix g).transpose.mulVec v - v) ≤ 2 := by
    have hsub := magnitude_add_le ((transitionMatrix g).transpose.mulVec v) (-v)
    have hneg : magnitude (-v) = magnitude v := Finset.sum_congr rfl fun i _ => abs_neg (v i)
    have hle := hP.magnitude_flow_le v
    rw [← sub_eq_add_neg] at hsub
    linarith
  rw [hmove, magnitude_smul, abs_of_nonneg h0]
  linarith [mul_le_mul_of_nonneg_left hflow h0]

omit h1 in
/-- The ranks move less and less, at a rate that depends on the damping alone. -/
theorem magnitude_ranksAfter_le (k : ℕ) :
    magnitude (ranksAfter g α (k + 1) - ranksAfter g α k) ≤ 2 * α ^ (k + 1) := by
  calc magnitude (ranksAfter g α (k + 1) - ranksAfter g α k)
      ≤ α ^ k * magnitude (ranksAfter g α 1 - ranksAfter g α 0) :=
        magnitude_iterate_le (substochastic_transitionMatrix g) h0 _ k
    _ ≤ α ^ k * (2 * α) := mul_le_mul_of_nonneg_left (magnitude_first_le h0 hg) (pow_nonneg h0 k)
    _ = 2 * α ^ (k + 1) := by rw [pow_succ]; ring

end Iterates

/-! ## Settling -/

theorem rank_settles {o : RankingOptions ℚ} {K : ℕ} (hg : g.size ≠ 0) (h0 : 0 ≤ o.damping)
    (h1 : o.damping < 1) (hK : 1 ≤ K) (hclose : 2 * o.damping ^ K < o.tolerance)
    (hlimit : (K : ℤ) ≤ o.limit) :
    ∃ ranks, ∃ iterations ≤ K, rank o g = .ok (ranks, iterations) := by
  obtain ⟨k, rfl⟩ : ∃ k, K = k + 1 := ⟨K - 1, by omega⟩
  exact rank_of_close hg (by omega) ((magnitude_ranksAfter_le h0 hg k).trans_lt hclose)
    (sum_ranksAfter_pos h0 h1 hg)

theorem rank_usualExact_settles (hg : g.size ≠ 0) :
    ∃ ranks, ∃ iterations ≤ 18, rank .usualExact g = .ok (ranks, iterations) := by
  refine rank_settles hg ?_ ?_ ?_ ?_ ?_ <;> norm_num [RankingOptions.usualExact]

/-- A graph with any entity at all is ranked, whatever its edges: with a damping factor below one,
within every number of iterations that is allowed and after which twice the power of the factor is
below the tolerance. The usual parameters need no more than 18 iterations. -/
theorem rank_settles_within (hg : g.size ≠ 0) :
    (∀ (o : RankingOptions ℚ) (K : ℕ), 0 ≤ o.damping → o.damping < 1 → 0 < o.tolerance → 1 ≤ K →
      2 * o.damping ^ K < o.tolerance → (K : ℤ) ≤ o.limit →
      ∃ ranks, ∃ iterations ≤ K, rank o g = .ok (ranks, iterations)) ∧
    ∃ ranks, ∃ iterations ≤ 18, rank .usualExact g = .ok (ranks, iterations) := by
  refine ⟨fun o K h0 h1 _ hK hclose hlimit => rank_settles hg h0 h1 hK hclose hlimit, ?_⟩
  refine rank_settles hg ?_ ?_ ?_ ?_ ?_ <;> norm_num [RankingOptions.usualExact]

/-- Books with two references to people, people with one to a person, and shelves that refer to
nothing. -/
def libraryGraph : EntityGraph :=
  let refers (name target : String) : Association :=
    ⟨name, .belongsTo, .direct target, [], [(name ++ "_id", "id")], none⟩
  .build
    [⟨"Book", "books", some "id", [], true⟩, ⟨"Person", "people", some "id", [], true⟩,
     ⟨"Shelf", "shelves", some "id", [], true⟩]
    [("Book", [refers "author" "Person", refers "editor" "Person", refers "shelf" "Shelf"]),
     ("Person", [refers "mentor" "Person"])]

theorem rank_settles_within_library : libraryGraph.size ≠ 0 ∧ (2 * (9 / 10) ^ 29 : ℚ) < 1 / 10 ∧
    ∃ (ranks : Table ℚ), ∃ iterations ≤ 29,
      rank ⟨9 / 10, 1 / 10, 30⟩ libraryGraph = .ok (ranks, iterations) := by
  have hsize : libraryGraph.size ≠ 0 := by decide
  have hclose : (2 * (9 / 10) ^ 29 : ℚ) < 1 / 10 := by norm_num
  exact ⟨hsize, hclose, (rank_settles_within hsize).1 ⟨9 / 10, 1 / 10, 30⟩ 29 (by norm_num)
    (by norm_num) (by norm_num) (by norm_num) hclose (by norm_num)⟩

/-! ## Accuracy -/

/-- How far the ranks in a table, in the order of the vertices, are from given ones in total. -/
def distance (g : EntityGraph) (ranks : Table ℚ) (r : Fin g.size → ℚ) : ℚ :=
  ∑ i : Fin g.size, |(ranks.map Prod.snd).getD i 0 - r i|

theorem names_zip (ranks : Fin g.size → ℚ) :
    Table.names (g.names.zip (List.ofFn ranks)) = g.names := by
  refine List.map_fst_zip ?_
  rw [length_names, List.length_ofFn]

theorem values_zip (ranks : Fin g.size → ℚ) :
    (g.names.zip (List.ofFn ranks)).map Prod.snd = List.ofFn ranks := by
  refine List.map_snd_zip ?_
  rw [length_names, List.length_ofFn]

theorem distance_zip (ranks r : Fin g.size → ℚ) :
    distance g (g.names.zip (List.ofFn ranks)) r = magnitude (ranks - r) := by
  unfold distance
  rw [values_zip]
  refine Finset.sum_congr rfl fun i _ => ?_
  rw [List.getD_eq_getElem _ _ (by simp), List.getElem_ofFn]
  rfl

/-- The ranks that iterating leaves as they are. -/
def SteadyRanks (g : EntityGraph) (α : ℚ) (r : Fin g.size → ℚ) : Prop :=
  IsSteady (transitionMatrix g) α ((1 - α) / g.size) r

section Accuracy

variable (hg : g.size ≠ 0) (h0 : 0 ≤ α) (h1 : α < 1)

include hg h0 h1

theorem sum_steady_pos {r : Fin g.size → ℚ} (hr : SteadyRanks g α r) : 0 < ∑ i, r i := by
  have hP := substochastic_transitionMatrix g
  have hnonneg := hr.nonneg hP h0 h1 (restart_nonneg h1)
  have hge : 1 - α ≤ ∑ i, r i := by
    calc 1 - α = ∑ _ : Fin g.size, (1 - α) / g.size := (sum_const_div hg _).symm
      _ ≤ ∑ i, r i := by
          refine Finset.sum_le_sum fun i _ => ?_
          rw [← hr.damped_eq]
          exact damped_ge hP h0 hnonneg i
  linarith

/-- Scaled ranks that moved by less than `t` in the last step are near the scaled steady ones. -/
theorem magnitude_scaled_steady_le {r : Fin g.size → ℚ} (hr : SteadyRanks g α r) {k : ℕ} {t : ℚ}
    (hmoved : magnitude (ranksAfter g α (k + 1) - ranksAfter g α k) < t) :
    magnitude (scaled (ranksAfter g α (k + 1)) - scaled r) ≤ 2 * α * t / (1 - α) ^ 2 := by
  have hP := substochastic_transitionMatrix g
  have hα : 0 < 1 - α := sub_pos.mpr h1
  have hsum := sum_ranksAfter_ge h0 h1 hg k
  have hpos := sum_ranksAfter_pos h0 h1 hg k
  have hnear := hr.magnitude_sub_le hP h0 (ranksAfter g α k)
  rw [← ranksAfter_succ] at hnear
  have hdistance : (1 - α) * magnitude (ranksAfter g α (k + 1) - r) ≤ α * t :=
    hnear.trans (mul_le_mul_of_nonneg_left hmoved.le h0)
  have hfar := magnitude_nonneg (ranksAfter g α (k + 1) - r)
  calc magnitude (scaled (ranksAfter g α (k + 1)) - scaled r)
      ≤ 2 * magnitude (ranksAfter g α (k + 1) - r) / ∑ i, ranksAfter g α (k + 1) i :=
        magnitude_scaled_sub_le (hr.nonneg hP h0 h1 (restart_nonneg h1)) hpos
          (sum_steady_pos hg h0 h1 hr)
    _ ≤ 2 * magnitude (ranksAfter g α (k + 1) - r) / (1 - α) :=
        div_le_div_of_nonneg_left (by positivity) hα hsum
    _ = 2 * ((1 - α) * magnitude (ranksAfter g α (k + 1) - r)) / (1 - α) ^ 2 := by
        field_simp
    _ ≤ 2 * (α * t) / (1 - α) ^ 2 := by
        refine div_le_div_of_nonneg_right ?_ (by positivity)
        exact mul_le_mul_of_nonneg_left hdistance zero_le_two
    _ = 2 * α * t / (1 - α) ^ 2 := by ring

end Accuracy

/-- With a damping factor below one exactly one vector of ranks is steady. The ranks of a successful
ranking, one for every vertex in order, are near it, both scaled to sum to one: the bound grows with
the tolerance and as the factor comes close to one, and is `4 / 100000` with the usual
parameters. -/
theorem rank_near_steady (hg : g.size ≠ 0) :
    (∀ (o : RankingOptions ℚ), 0 ≤ o.damping → o.damping < 1 → 0 < o.tolerance →
      (∃! r, SteadyRanks g o.damping r) ∧
      ∀ ranks iterations r, rank o g = .ok (ranks, iterations) → SteadyRanks g o.damping r →
        ranks.names = g.names ∧
        distance g ranks (scaled r) ≤ 2 * o.damping * o.tolerance / (1 - o.damping) ^ 2) ∧
    ∀ ranks iterations r, rank .usualExact g = .ok (ranks, iterations) →
      SteadyRanks g (1 / 2) r → distance g ranks (scaled r) ≤ 4 / 100000 := by
  have hnear : ∀ (o : RankingOptions ℚ), 0 ≤ o.damping → o.damping < 1 →
      ∀ ranks iterations r, rank o g = .ok (ranks, iterations) → SteadyRanks g o.damping r →
        ranks.names = g.names ∧
        distance g ranks (scaled r) ≤ 2 * o.damping * o.tolerance / (1 - o.damping) ^ 2 := by
    intro o h0 h1 ranks iterations r hok hr
    obtain ⟨k, _, _, hmoved, _, rfl⟩ := rank_ok hok
    rw [distance_zip]
    exact ⟨names_zip _, magnitude_scaled_steady_le hg h0 h1 hr hmoved⟩
  refine ⟨fun o h0 h1 _ => ⟨?_, hnear o h0 h1⟩, ?_⟩
  · exact existsUnique_steady (substochastic_transitionMatrix g) h0 h1 _
  · intro ranks iterations r hok hr
    have hdamping : RankingOptions.usualExact.damping = 1 / 2 := rfl
    have hbound := (hnear .usualExact (by norm_num [hdamping]) (by norm_num [hdamping]) ranks
      iterations r hok hr).2
    refine hbound.trans (le_of_eq ?_)
    norm_num [RankingOptions.usualExact]

/-- The steady ranks of books, people and shelves. -/
def librarySteady : Fin libraryGraph.size → ℚ := ![1 / 6, 4 / 9, 7 / 36]

/-- What ranking them with a large tolerance gives. -/
def libraryRanks : Table ℚ := [("Book", 1 / 5), ("Person", 8 / 15), ("Shelf", 4 / 15)]

theorem rank_near_steady_library :
    SteadyRanks libraryGraph (1 / 2) librarySteady ∧
    rank ⟨1 / 2, 1 / 2, 10⟩ libraryGraph = .ok (libraryRanks, 1) ∧
    distance libraryGraph libraryRanks (scaled librarySteady) ≤ 2 := by
  have hsteady : SteadyRanks libraryGraph (1 / 2) librarySteady := by
    unfold SteadyRanks IsSteady
    decide +kernel
  have hrank : rank ⟨1 / 2, 1 / 2, 10⟩ libraryGraph = .ok (libraryRanks, 1) := by
    decide +kernel
  have hnear := (((rank_near_steady (g := libraryGraph) (by decide)).1 ⟨1 / 2, 1 / 2, 10⟩
    (by norm_num) (by norm_num) (by norm_num)).2 _ _ _ hrank hsteady).2
  exact ⟨hsteady, hrank, hnear.trans (by norm_num)⟩

end EntityAtlas.Ranking
