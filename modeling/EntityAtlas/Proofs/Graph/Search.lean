import EntityAtlas.Proofs.Graph.Walk

/-!
# The two-sided search

The search keeps a trail and a fringe on either side. The invariant of one side is that its trail
holds exactly what lies within a number of steps of its start, each entity with a chain back to the
start that is no longer than that number, and that what is not on the fringe has no neighbour
outside the trail. While the two trails share no entity, every walk from start to end is longer than
the two numbers together; so the first entity that becomes known to both sides lies on a shortest
walk, although the search stops there in the middle of a level.

The rounds are counted down from twice the number of entities. `Settles` is the same search with no
such bound: it is reached before the rounds run out, because each round but the last lengthens one
of the two trails.
-/

namespace EntityAtlas.Route

/-- What the search comes to from two fringes and two trails, however many rounds it takes: always
the smaller fringe grows, and the search stops at the first entity known to both sides or when a
fringe is empty. -/
inductive Settles (g : EntityGraph) :
    List String → List String → Trail → Trail → Option (List String) → Prop where
  /-- One of the fringes is empty. -/
  | exhausted {forward backward : List String} {ahead behind : Trail}
      (h : forward = [] ∨ backward = []) : Settles g forward backward ahead behind none
  /-- Growing the forward fringe meets the other side. -/
  | metAhead {forward backward : List String} {ahead behind trail : Trail} {w : String}
      (hf : forward ≠ []) (hb : backward ≠ []) (hle : forward.length ≤ backward.length)
      (h : grow behind (stepsOut g.successors forward) [] ahead = .met w trail) :
      Settles g forward backward ahead behind
        (some (trail.chain w ++ (behind.chain w).reverse.tail))
  /-- The forward fringe grows by a whole level. -/
  | grownAhead {forward backward fringe : List String} {ahead behind trail : Trail}
      {r : Option (List String)} (hf : forward ≠ []) (hb : backward ≠ [])
      (hle : forward.length ≤ backward.length)
      (h : grow behind (stepsOut g.successors forward) [] ahead = .grown fringe trail)
      (rest : Settles g fringe backward trail behind r) : Settles g forward backward ahead behind r
  /-- Growing the backward fringe meets the other side. -/
  | metBehind {forward backward : List String} {ahead behind trail : Trail} {w : String}
      (hf : forward ≠ []) (hb : backward ≠ []) (hlt : backward.length < forward.length)
      (h : grow ahead (stepsOut g.predecessors backward) [] behind = .met w trail) :
      Settles g forward backward ahead behind
        (some (ahead.chain w ++ (trail.chain w).reverse.tail))
  /-- The backward fringe grows by a whole level. -/
  | grownBehind {forward backward fringe : List String} {ahead behind trail : Trail}
      {r : Option (List String)} (hf : forward ≠ []) (hb : backward ≠ [])
      (hlt : backward.length < forward.length)
      (h : grow ahead (stepsOut g.predecessors backward) [] behind = .grown fringe trail)
      (rest : Settles g forward fringe ahead trail r) : Settles g forward backward ahead behind r

/-- One side of the search after `depth` whole levels from `root`. -/
structure Level (next : String → List String) (root : String) (depth : Nat) (fringe : List String)
    (trail : Trail) : Prop where
  nodup : (trail.map Prod.fst).Nodup
  /-- What is on the trail is at the end of a chain that is not too long. -/
  route : ∀ v, trail.reached v = true →
    IsRoute next root v (trail.chain v) ∧ (trail.chain v).length ≤ depth + 1
  /-- What lies within `depth` steps is on the trail. -/
  complete : ∀ n v, n ≤ depth → Steps next n root v → trail.reached v = true
  fringe_reached : ∀ v ∈ fringe, trail.reached v = true
  /-- Off the fringe no neighbour is missing. -/
  closed : ∀ v, trail.reached v = true → v ∈ fringe ∨ ∀ w ∈ next v, trail.reached w = true

/-- The right answer to a search: nothing when the end cannot be reached, else a route that is no
longer than any walk. -/
def Answers (g : EntityGraph) (s t : String) : Option (List String) → Prop
  | none => ∀ n, ¬ Steps g.successors n s t
  | some chain => IsRoute g.successors s t chain ∧
      ∀ n, Steps g.successors n s t → chain.length ≤ n + 1

/-- No entity is known to both sides. -/
def Apart (one other : Trail) : Prop := ∀ v, one.reached v = true → other.reached v = false

variable {next : String → List String} {g : EntityGraph}

theorem Apart.symm {one other : Trail} (h : Apart one other) : Apart other one := by
  intro v hv
  cases ho : one.reached v with
  | false => rfl
  | true =>
    have := h v ho
    rw [hv] at this
    exact absurd this (by decide)

/-! ## Trails -/

namespace Trail

theorem reached_iff {trail : Trail} {name : String} :
    trail.reached name = true ↔ name ∈ trail.map Prod.fst := by
  unfold Trail.reached
  simp

theorem reached_cons {trail : Trail} {w name : String} {via : Option String} :
    Trail.reached ((w, via) :: trail) name = true ↔ name = w ∨ trail.reached name = true := by
  simp only [reached_iff, List.map_cons, List.mem_cons]

theorem chain_cons_self {trail : Trail} {v w : String} :
    Trail.chain ((w, some v) :: trail) w = trail.chain v ++ [w] := by
  simp [Trail.chain]

theorem chain_cons_of_ne {trail : Trail} {w name : String} {via : Option String} (h : w ≠ name) :
    Trail.chain ((w, via) :: trail) name = trail.chain name := by
  simp [Trail.chain, h]

end Trail

/-! ## Growing one side by a level -/

theorem grow_cons_reached {other trail : Trail} {v w : String} {steps : List (String × String)}
    {fringe : List String} (h : trail.reached w = true) :
    grow other ((v, w) :: steps) fringe trail =
      if other.reached w then .met w trail else grow other steps fringe trail := by
  simp [grow, h]

theorem grow_cons_new {other trail : Trail} {v w : String} {steps : List (String × String)}
    {fringe : List String} (h : trail.reached w = false) :
    grow other ((v, w) :: steps) fringe trail =
      if other.reached w then .met w ((w, some v) :: trail)
      else grow other steps (fringe ++ [w]) ((w, some v) :: trail) := by
  simp [grow, h]

theorem mem_stepsOut {fringe : List String} {v w : String} :
    (v, w) ∈ stepsOut next fringe ↔ v ∈ fringe ∧ w ∈ next v := by
  unfold stepsOut
  rw [List.mem_flatMap]
  constructor
  · rintro ⟨x, hx, hm⟩
    obtain ⟨y, hy, he⟩ := List.mem_map.mp hm
    obtain ⟨rfl, rfl⟩ := Prod.mk.inj he
    exact ⟨hx, hy⟩
  · rintro ⟨hv, hw⟩
    exact ⟨v, hv, List.mem_map.mpr ⟨w, hw, rfl⟩⟩

/-- A side in the middle of growing: `fringe` and `trail` as far as they have come from the whole
level `old`. The chains of `old` stay, new ones are longer by at most one, and the new entities are
those of the new fringe. -/
structure Growing (next : String → List String) (root : String) (depth : Nat) (old : Trail)
    (fringe : List String) (trail : Trail) : Prop where
  nodup : (trail.map Prod.fst).Nodup
  route : ∀ v, trail.reached v = true →
    IsRoute next root v (trail.chain v) ∧ (trail.chain v).length ≤ depth + 2
  kept : ∀ v, old.reached v = true → trail.reached v = true ∧ trail.chain v = old.chain v
  fringe_reached : ∀ v ∈ fringe, trail.reached v = true
  fresh : ∀ v, trail.reached v = true → old.reached v = true ∨ v ∈ fringe
  length_eq : trail.length = old.length + fringe.length

namespace Growing

variable {root : String} {depth : Nat} {old trail : Trail} {fringe : List String}

theorem start {forward : List String} (h : Level next root depth forward old) :
    Growing next root depth old [] old where
  nodup := h.nodup
  route v hv := ⟨(h.route v hv).1, by have := (h.route v hv).2; omega⟩
  kept v hv := ⟨hv, rfl⟩
  fringe_reached v hv := absurd hv List.not_mem_nil
  fresh v hv := Or.inl hv
  length_eq := rfl

theorem extend (h : Growing next root depth old fringe trail) {v w : String}
    (hv : old.reached v = true) (hlen : (old.chain v).length ≤ depth + 1) (hw : w ∈ next v)
    (hnew : trail.reached w = false) :
    Growing next root depth old (fringe ++ [w]) ((w, some v) :: trail) := by
  have hne : ∀ x, trail.reached x = true → w ≠ x := by
    rintro x hx rfl
    rw [hnew] at hx
    exact absurd hx (by decide)
  have hkv := h.kept v hv
  refine ⟨?_, ?_, ?_, ?_, ?_, ?_⟩
  · rw [List.map_cons, List.nodup_cons]
    refine ⟨fun hm => ?_, h.nodup⟩
    exact hne w (Trail.reached_iff.mpr hm) rfl
  · -- the chain of `w` is that of `v` with `w` at its end
    intro x hx
    rcases Trail.reached_cons.mp hx with rfl | hx
    · rw [Trail.chain_cons_self]
      refine ⟨(h.route v hkv.1).1.append_singleton hw, ?_⟩
      rw [hkv.2, List.length_append, List.length_singleton]
      omega
    · rw [Trail.chain_cons_of_ne (hne x hx)]
      exact h.route x hx
  · intro x hx
    obtain ⟨hr, hc⟩ := h.kept x hx
    exact ⟨Trail.reached_cons.mpr (Or.inr hr), by rw [Trail.chain_cons_of_ne (hne x hr), hc]⟩
  · intro x hx
    rcases List.mem_append.mp hx with hx | hx
    · exact Trail.reached_cons.mpr (Or.inr (h.fringe_reached x hx))
    · exact Trail.reached_cons.mpr (Or.inl (List.mem_singleton.mp hx))
  · intro x hx
    rcases Trail.reached_cons.mp hx with rfl | hx
    · exact Or.inr (List.mem_append_right _ (List.mem_singleton.mpr rfl))
    · rcases h.fresh x hx with h1 | h1
      · exact Or.inl h1
      · exact Or.inr (List.mem_append_left _ h1)
  · have := h.length_eq
    simp only [List.length_cons, List.length_append, List.length_nil]
    omega

end Growing

/-- What growing comes to, for any part `steps` of the steps out of a level that is still to be
followed: either an entity of the other side, at the end of a chain that is longer by at most one,
or all of `steps` followed and nothing met. -/
theorem grow_cases {root : String} {depth : Nat} {old other : Trail} {forward : List String}
    (hL : Level next root depth forward old) :
    ∀ (steps : List (String × String)) (fringe : List String) (trail : Trail),
      (∀ p ∈ steps, p.1 ∈ forward ∧ p.2 ∈ next p.1) →
      Growing next root depth old fringe trail → Apart trail other →
      (∃ w trail', grow other steps fringe trail = .met w trail' ∧ other.reached w = true ∧
        IsRoute next root w (trail'.chain w) ∧ (trail'.chain w).length ≤ depth + 2) ∨
      (∃ fringe' trail', grow other steps fringe trail = .grown fringe' trail' ∧
        Growing next root depth old fringe' trail' ∧ Apart trail' other ∧
        (∀ v, trail.reached v = true → trail'.reached v = true) ∧
        ∀ p ∈ steps, trail'.reached p.2 = true) := by
  intro steps
  induction steps with
  | nil =>
    intro fringe trail _ hG hA
    exact Or.inr ⟨fringe, trail, rfl, hG, hA, fun v hv => hv,
      fun p hp => absurd hp List.not_mem_nil⟩
  | cons p steps ih =>
    intro fringe trail hsteps hG hA
    obtain ⟨v, w⟩ := p
    obtain ⟨hv, hw⟩ := hsteps (v, w) List.mem_cons_self
    have hrest : ∀ p ∈ steps, p.1 ∈ forward ∧ p.2 ∈ next p.1 :=
      fun p hp => hsteps p (List.mem_cons_of_mem _ hp)
    cases hr : trail.reached w with
    | true =>
      -- an entity of this side cannot be known to the other side
      have ho : other.reached w = false := hA w hr
      rw [grow_cons_reached hr, ho]
      rcases ih fringe trail hrest hG hA with hmet | ⟨fringe', trail', hgrow, hG', hA', hmono, hall⟩
      · exact Or.inl hmet
      · refine Or.inr ⟨fringe', trail', hgrow, hG', hA', hmono, fun p hp => ?_⟩
        rcases List.mem_cons.mp hp with rfl | hp
        · exact hmono w hr
        · exact hall p hp
    | false =>
      have hvr := hL.fringe_reached v hv
      have hG1 := hG.extend hvr (hL.route v hvr).2 hw hr
      rw [grow_cons_new hr]
      cases ho : other.reached w with
      | true =>
        have hwr : Trail.reached ((w, some v) :: trail) w = true :=
          Trail.reached_cons.mpr (Or.inl rfl)
        exact Or.inl ⟨w, _, rfl, ho, hG1.route w hwr⟩
      | false =>
        have hA1 : Apart ((w, some v) :: trail) other := by
          intro x hx
          rcases Trail.reached_cons.mp hx with rfl | hx
          · exact ho
          · exact hA x hx
        rcases ih _ _ hrest hG1 hA1 with hmet | ⟨fringe', trail', hgrow, hG', hA', hmono, hall⟩
        · exact Or.inl hmet
        · refine Or.inr ⟨fringe', trail', hgrow, hG', hA', fun x hx => ?_, fun p hp => ?_⟩
          · exact hmono x (Trail.reached_cons.mpr (Or.inr hx))
          · rcases List.mem_cons.mp hp with rfl | hp
            · exact hmono w (Trail.reached_cons.mpr (Or.inl rfl))
            · exact hall p hp

/-- Growing a level meets the other side one step further, or ends in the next level, still apart
from the other side. -/
theorem grow_level {root : String} {depth : Nat} {old other : Trail} {forward : List String}
    (hL : Level next root depth forward old) (hd : Apart old other) :
    (∃ w trail, grow other (stepsOut next forward) [] old = .met w trail ∧
      other.reached w = true ∧ IsRoute next root w (trail.chain w) ∧
      (trail.chain w).length ≤ depth + 2) ∨
    (∃ fringe trail, grow other (stepsOut next forward) [] old = .grown fringe trail ∧
      Level next root (depth + 1) fringe trail ∧ Apart trail other ∧
      trail.length = old.length + fringe.length) := by
  rcases grow_cases hL (stepsOut next forward) [] old (fun p hp => mem_stepsOut.mp hp)
    (.start hL) hd with hmet | ⟨fringe, trail, hgrow, hG, hA, hmono, hall⟩
  · exact Or.inl hmet
  · refine Or.inr ⟨fringe, trail, hgrow, ?_, hA, hG.length_eq⟩
    have hnext : ∀ v, old.reached v = true → ∀ w ∈ next v, trail.reached w = true := by
      intro v hv w hw
      rcases hL.closed v hv with hf | hc
      · exact hall (v, w) (mem_stepsOut.mpr ⟨hf, hw⟩)
      · exact hmono w (hc w hw)
    refine ⟨hG.nodup, hG.route, ?_, hG.fringe_reached, ?_⟩
    · intro n v hn hv
      by_cases hle : n ≤ depth
      · exact hmono v (hL.complete n v hle hv)
      · obtain rfl : n = depth + 1 := by omega
        cases hv with
        | tail hu hw => exact hnext _ (hL.complete depth _ le_rfl hu) _ hw
    · intro v hv
      rcases hG.fresh v hv with ho | hf
      · exact Or.inr (hnext v ho)
      · exact Or.inl hf

/-! ## Both sides -/

theorem level_start (next : String → List String) (root : String) :
    Level next root 0 [root] [(root, none)] where
  nodup := by simp
  route v hv := by
    have hroot : v = root := by
      have := Trail.reached_iff.mp hv
      simpa using this
    rw [hroot]
    have hchain : Trail.chain [(root, none)] root = [root] := by simp [Trail.chain]
    rw [hchain]
    exact ⟨IsRoute.singleton root, by simp⟩
  complete n v hn hv := by
    obtain rfl : n = 0 := by omega
    cases hv
    exact Trail.reached_iff.mpr (by simp)
  fringe_reached v hv := Trail.reached_iff.mpr (by simpa using hv)
  closed v hv := Or.inl (by simpa using Trail.reached_iff.mp hv)

/-- With an empty fringe a side holds all that can be reached. -/
theorem Level.all_reached {root : String} {depth : Nat} {trail : Trail}
    (h : Level next root depth [] trail) {n : Nat} {v : String} (hs : Steps next n root v) :
    trail.reached v = true := by
  induction hs with
  | refl => exact h.complete 0 _ (Nat.zero_le _) (.refl _)
  | tail _ hw ih =>
    rcases h.closed _ (ih h) with hf | hc
    · exact absurd hf List.not_mem_nil
    · exact hc _ hw

theorem apart_start {s t : String} (hne : s ≠ t) : Apart [(s, none)] [(t, none)] := by
  intro v hv
  obtain rfl : v = s := by simpa using Trail.reached_iff.mp hv
  simp [Trail.reached, Ne.symm hne]

section Sides

variable {s t : String} {i j : Nat} {forward backward : List String} {ahead behind : Trail}

/-- While the sides are apart, every walk is longer than both depths together. -/
theorem lt_of_apart (hA : Level g.successors s i forward ahead)
    (hB : Level g.predecessors t j backward behind) (hd : Apart ahead behind) {n : Nat}
    (h : Steps g.successors n s t) : i + j < n := by
  by_contra hle
  obtain ⟨v, hv, hvt⟩ := h.split (min n i) (Nat.min_le_left n i)
  have h1 := hA.complete (min n i) v (Nat.min_le_right n i) hv
  have h2 := hB.complete (n - min n i) v (by omega) hvt.reverse
  have h3 := hd v h1
  rw [h2] at h3
  exact absurd h3 (by decide)

/-- What the search settles on is right. -/
theorem Settles.answers {r : Option (List String)}
    (h : Settles g forward backward ahead behind r) :
    ∀ {i j : Nat}, Level g.successors s i forward ahead →
      Level g.predecessors t j backward behind → Apart ahead behind → Answers g s t r := by
  induction h with
  | @exhausted forward backward ahead behind hempty =>
    intro i j hA hB hd n hn
    have ht : behind.reached t = true := hB.complete 0 t (Nat.zero_le _) (.refl t)
    have hs : ahead.reached s = true := hA.complete 0 s (Nat.zero_le _) (.refl s)
    rcases hempty with rfl | rfl
    · rw [hd t (hA.all_reached hn)] at ht
      exact absurd ht (by decide)
    · rw [hd.symm s (hB.all_reached hn.reverse)] at hs
      exact absurd hs (by decide)
  | @metAhead forward backward ahead behind trail w hf hb hle hgrow =>
    intro i j hA hB hd
    rcases grow_level hA hd with ⟨w', trail', hg, hw, hroute, hlen⟩ | ⟨_, _, hg, _⟩
    · rw [hgrow] at hg
      obtain ⟨rfl, rfl⟩ := Growth.met.inj hg
      obtain ⟨hback, hblen⟩ := hB.route w hw
      refine ⟨hroute.meet hback, fun n hn => ?_⟩
      have hlt := lt_of_apart hA hB hd hn
      have hpos := hback.length_pos
      simp only [List.length_append, List.length_tail, List.length_reverse]
      omega
    · rw [hgrow] at hg
      cases hg
  | @grownAhead forward backward fringe ahead behind trail r hf hb hle hgrow _ ih =>
    intro i j hA hB hd
    rcases grow_level hA hd with ⟨_, _, hg, _⟩ | ⟨fringe', trail', hg, hA', hd', _⟩
    · rw [hgrow] at hg
      cases hg
    · rw [hgrow] at hg
      obtain ⟨rfl, rfl⟩ := Growth.grown.inj hg
      exact ih hA' hB hd'
  | @metBehind forward backward ahead behind trail w hf hb hlt hgrow =>
    intro i j hA hB hd
    rcases grow_level hB hd.symm with ⟨w', trail', hg, hw, hroute, hlen⟩ | ⟨_, _, hg, _⟩
    · rw [hgrow] at hg
      obtain ⟨rfl, rfl⟩ := Growth.met.inj hg
      obtain ⟨hfront, hflen⟩ := hA.route w hw
      refine ⟨hfront.meet hroute, fun n hn => ?_⟩
      have hlt := lt_of_apart hA hB hd hn
      have hpos := hroute.length_pos
      simp only [List.length_append, List.length_tail, List.length_reverse]
      omega
    · rw [hgrow] at hg
      cases hg
  | @grownBehind forward backward fringe ahead behind trail r hf hb hlt hgrow _ ih =>
    intro i j hA hB hd
    rcases grow_level hB hd.symm with ⟨_, _, hg, _⟩ | ⟨fringe', trail', hg, hB', hd', _⟩
    · rw [hgrow] at hg
      cases hg
    · rw [hgrow] at hg
      obtain ⟨rfl, rfl⟩ := Growth.grown.inj hg
      exact ih hA hB' hd'.symm

end Sides

/-! ## The bound on the rounds -/

/-- With more rounds left than either trail can still grow, the bounded search settles. -/
theorem settles_search {s t : String} (size : Nat)
    (hsA : ∀ {i : Nat} {fringe : List String} {trail : Trail},
      Level g.successors s i fringe trail → trail.length ≤ size)
    (hsB : ∀ {j : Nat} {fringe : List String} {trail : Trail},
      Level g.predecessors t j fringe trail → trail.length ≤ size) :
    ∀ (rounds : Nat) {i j : Nat} {forward backward : List String} {ahead behind : Trail},
      Level g.successors s i forward ahead → Level g.predecessors t j backward behind →
      Apart ahead behind →
      (forward ≠ [] → backward ≠ [] → 2 * size + 2 ≤ rounds + ahead.length + behind.length) →
      0 < rounds →
      Settles g forward backward ahead behind (search g rounds forward backward ahead behind) := by
  intro rounds
  induction rounds with
  | zero => intro _ _ _ _ _ _ _ _ _ _ h; exact absurd h (Nat.lt_irrefl 0)
  | succ rounds ih =>
    intro i j forward backward ahead behind hA hB hd hbound _
    by_cases hempty : forward = [] ∨ backward = []
    · have hcond : (forward.isEmpty || backward.isEmpty) = true := by simpa using hempty
      rw [search, if_pos hcond]
      exact .exhausted hempty
    · obtain ⟨hf, hb⟩ := not_or.mp hempty
      have hcond : ¬ (forward.isEmpty || backward.isEmpty) = true := by simpa using hempty
      have hroom := hbound hf hb
      have hlA := hsA hA
      have hlB := hsB hB
      rw [search, if_neg hcond]
      by_cases hle : forward.length ≤ backward.length
      · rw [if_pos hle]
        rcases grow_level hA hd with ⟨w, trail, hgrow, _⟩ | ⟨fringe, trail, hgrow, hA', hd', hlen⟩
        · rw [hgrow]
          exact .metAhead hf hb hle hgrow
        · rw [hgrow]
          refine .grownAhead hf hb hle hgrow (ih hA' hB hd' (fun hne _ => ?_) (by omega))
          have := List.length_pos_iff.mpr hne
          omega
      · rw [if_neg hle]
        have hlt : backward.length < forward.length := by omega
        rcases grow_level hB hd.symm with
          ⟨w, trail, hgrow, _⟩ | ⟨fringe, trail, hgrow, hB', hd', hlen⟩
        · rw [hgrow]
          exact .metBehind hf hb hlt hgrow
        · rw [hgrow]
          refine .grownBehind hf hb hlt hgrow (ih hA hB' hd'.symm (fun _ hne => ?_) (by omega))
          have := List.length_pos_iff.mpr hne
          omega

end EntityAtlas.Route
