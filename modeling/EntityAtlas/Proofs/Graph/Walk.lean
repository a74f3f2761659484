import EntityAtlas.Proofs.Graph.Edges
import Mathlib.Data.List.Chain

/-!
# Walks along neighbours and along edges

Two views of a way through the graph. `Steps next n u v` only counts: `n` times to a neighbour.
`Hops g u names v` also names the association of every edge that is followed. Walks of both kinds
between the same two entities have the same lengths, so a shortest one may be looked for among the
neighbours and then be named hop by hop.
-/

namespace EntityAtlas.Route

/-- `n` steps, each to a neighbour, lead from `u` to `v`. -/
inductive Steps (next : String → List String) : Nat → String → String → Prop where
  | refl (v : String) : Steps next 0 v v
  | tail {n : Nat} {u v w : String} (h : Steps next n u v) (hw : w ∈ next v) :
    Steps next (n + 1) u w

/-- A chain of names from `u` to `v` in which each is a neighbour of the one before it. -/
structure IsRoute (next : String → List String) (u v : String) (chain : List String) : Prop where
  head : chain.head? = some u
  last : chain.getLast? = some v
  linked : chain.IsChain fun a b => b ∈ next a

/-- Edges with the given association names, one after the other, lead from `u` to `v`. -/
inductive Hops (g : EntityGraph) : String → List String → String → Prop where
  | refl (v : String) : Hops g v [] v
  | head {e : Edge} {names : List String} {v : String} (he : e ∈ g.edges)
      (h : Hops g e.target names v) : Hops g e.source (e.association.name :: names) v

/-- The given edges, one after the other, lead from `u` to `v`. -/
inductive Way (g : EntityGraph) : String → List Edge → String → Prop where
  | stay (v : String) : Way g v [] v
  | step {e : Edge} {path : List Edge} {v : String} (he : e ∈ g.edges)
      (rest : Way g e.target path v) : Way g e.source (e :: path) v

variable {next : String → List String} {g : EntityGraph}

namespace Steps

theorem head {n : Nat} {u v w : String} (hv : v ∈ next u) (h : Steps next n v w) :
    Steps next (n + 1) u w := by
  induction h with
  | refl => exact .tail (.refl u) hv
  | tail _ hw ih => exact .tail (ih hv) hw

theorem split {n : Nat} {u w : String} (h : Steps next n u w) :
    ∀ k ≤ n, ∃ v, Steps next k u v ∧ Steps next (n - k) v w := by
  induction h with
  | refl =>
    intro k hk
    obtain rfl : k = 0 := by omega
    exact ⟨_, .refl _, .refl _⟩
  | @tail n x y z hxy hz ih =>
    intro k hk
    by_cases hkn : k ≤ n
    · obtain ⟨v, hv, hvy⟩ := ih k hkn
      refine ⟨v, hv, ?_⟩
      rw [show n + 1 - k = n - k + 1 by omega]
      exact .tail hvy hz
    · obtain rfl : k = n + 1 := by omega
      refine ⟨z, .tail hxy hz, ?_⟩
      rw [Nat.sub_self]
      exact .refl z

/-- Steps to successors are steps to predecessors the other way round. -/
theorem reverse {n : Nat} {u v : String} (h : Steps g.successors n u v) :
    Steps g.predecessors n v u := by
  induction h with
  | refl => exact .refl _
  | tail _ hw ih => exact ih.head (EntityGraph.mem_predecessors.mpr hw)

end Steps

namespace IsRoute

theorem ne_nil {u v : String} {chain : List String} (h : IsRoute next u v chain) : chain ≠ [] := by
  intro hnil
  have := h.head
  rw [hnil] at this
  simp at this

theorem length_pos {u v : String} {chain : List String} (h : IsRoute next u v chain) :
    0 < chain.length := List.length_pos_iff.mpr h.ne_nil

theorem singleton (v : String) : IsRoute next v v [v] := ⟨rfl, rfl, List.isChain_singleton v⟩

theorem append_singleton {u v w : String} {chain : List String} (h : IsRoute next u v chain)
    (hw : w ∈ next v) : IsRoute next u w (chain ++ [w]) := by
  refine ⟨?_, by simp, ?_⟩
  · rw [List.head?_append, h.head]
    rfl
  · refine h.linked.append (List.isChain_singleton w) ?_
    intro x hx y hy
    rw [h.last] at hx
    obtain rfl : v = x := Option.some.inj hx
    obtain rfl : w = y := Option.some.inj hy
    exact hw

theorem steps {u v : String} {chain : List String} (h : IsRoute next u v chain) :
    Steps next (chain.length - 1) u v := by
  induction chain generalizing u with
  | nil => exact absurd rfl h.ne_nil
  | cons a rest ih =>
    obtain rfl : a = u := Option.some.inj h.head
    cases rest with
    | nil =>
      obtain rfl : a = v := Option.some.inj h.last
      exact .refl a
    | cons b rest =>
      have hlinked := List.isChain_cons_cons.mp h.linked
      have hlast : (b :: rest).getLast? = some v := by
        rw [← h.last, List.getLast?_cons_cons]
      exact (ih ⟨rfl, hlast, hlinked.2⟩).head hlinked.1

/-- Two routes that meet, the second one walked backwards, join to one. -/
theorem meet {u v w : String} {front back : List String} (hf : IsRoute g.successors u w front)
    (hb : IsRoute g.predecessors v w back) :
    IsRoute g.successors u v (front ++ back.reverse.tail) := by
  obtain ⟨init, rfl⟩ : ∃ init, back = init ++ [w] := by
    obtain ⟨init, x, rfl⟩ := List.eq_nil_or_concat' back |>.resolve_left hb.ne_nil
    have hx : (init ++ [x]).getLast? = some w := hb.last
    rw [List.getLast?_concat] at hx
    exact ⟨init, by rw [Option.some.inj hx]⟩
  have hrev : (init ++ [w]).reverse = w :: init.reverse := by simp
  have hchain : (w :: init.reverse).IsChain fun a b => b ∈ g.successors a := by
    rw [← hrev, List.isChain_reverse]
    exact hb.linked.imp fun a b hab => EntityGraph.mem_predecessors.mp hab
  rw [hrev, List.tail_cons]
  refine ⟨?_, ?_, ?_⟩
  · rw [List.head?_append, hf.head]
    rfl
  · have hv : (w :: init.reverse).getLast? = some v := by
      rw [← hrev, List.getLast?_reverse]
      exact hb.head
    cases hi : init.reverse with
    | nil =>
      rw [hi] at hv
      obtain rfl : w = v := Option.some.inj hv
      rw [List.append_nil]
      exact hf.last
    | cons x rest =>
      rw [hi, List.getLast?_cons_cons] at hv
      rw [List.getLast?_append, hv]
      rfl
  · refine hf.linked.append (List.isChain_cons.mp hchain).2 ?_
    intro x hx y hy
    rw [hf.last] at hx
    obtain rfl : w = x := Option.some.inj hx
    exact (List.isChain_cons.mp hchain).1 y hy

end IsRoute

namespace Hops

theorem steps {u v : String} {names : List String} (h : Hops g u names v) :
    Steps g.successors names.length u v := by
  induction h with
  | refl => exact .refl _
  | head he _ ih => exact ih.head (EntityGraph.mem_successors.mpr ⟨_, he⟩)

theorem exists_way {u v : String} {names : List String} (h : Hops g u names v) :
    ∃ path, Way g u path v ∧ path.map (·.association.name) = names := by
  induction h with
  | refl v => exact ⟨[], .stay v, rfl⟩
  | @head e names v he _ ih =>
    obtain ⟨path, hpath, hnames⟩ := ih
    exact ⟨e :: path, .step he hpath, by rw [List.map_cons, hnames]⟩

end Hops

namespace Way

variable {u v : String} {path : List Edge}

theorem hops (h : Way g u path v) : Hops g u (path.map (·.association.name)) v := by
  induction h with
  | stay v => exact .refl v
  | step he _ ih => exact .head he ih

/-- A way leads through a larger graph as well. -/
theorem mono {g' : EntityGraph} (h : Way g u path v) (hsub : ∀ e ∈ g.edges, e ∈ g'.edges) :
    Way g' u path v := by
  induction h with
  | stay v => exact .stay v
  | step he _ ih => exact .step (hsub _ he) ih

/-- A way does not leave the vertices that edges lead to. -/
theorem forall_mem {P : String → Prop} (h : Way g u path v) (hu : P u)
    (hedges : ∀ e ∈ g.edges, P e.target) : ∀ name ∈ u :: path.map (·.target), P name := by
  induction h with
  | stay v => exact List.forall_mem_singleton.mpr hu
  | step he _ ih => exact List.forall_mem_cons.mpr ⟨hu, ih (hedges _ he)⟩

end Way

end EntityAtlas.Route
