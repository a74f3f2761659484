import EntityAtlas.Graph.Basic
import EntityAtlas.Graph.Scalar
import EntityAtlas.Metric.Error

/-!
# Entity ranking

Entities are ranked by structural importance: rank flows along the edges from an entity to those it
belongs to, parallel edges carrying a share each, while a part of all rank is spread evenly. The
ranks are found by repeating the flow until they settle. An entity without outgoing edges passes
nothing on, so rank leaks away; the result is scaled to sum to one.
-/

namespace EntityAtlas

/-- The parameters of a ranking. -/
structure RankingOptions (α : Type) where
  /-- The part of all rank that flows along the edges. -/
  damping : α
  /-- The ranks have settled when they move by less than this in total. -/
  tolerance : α
  /-- The number of iterations allowed. -/
  limit : Int

/-- Half of all rank flows, and a movement by a hundred-thousandth counts as settled. -/
def RankingOptions.usual : RankingOptions Float :=
  { damping := 0.5, tolerance := 1e-5, limit := 1000 }

namespace Ranking

variable {α : Type} [Scalar α]

open Scalar

/-- The number of edges between every two entities, row by row in the order of the vertices. -/
def adjacency (g : EntityGraph) : List (List Nat) :=
  g.names.map fun s => g.names.map fun t => g.multiplicity s t

/-- A row of counts as shares of its sum, or all zero when there is nothing to share. -/
@[specialize] def shares (row : List Nat) : List α :=
  let total := row.foldl (· + ·) 0
  row.map fun n => if total = 0 then ofNat 0 else div (ofNat n) (ofNat total)

/-- The transition matrix: which share of its rank each entity passes to each. -/
@[specialize] def transitions (g : EntityGraph) : List (List α) := (adjacency g).map shares

/-- The flow of ranks along a matrix: what each entity receives. -/
@[specialize] def flow (matrix : List (List α)) (ranks : List α) : List α :=
  (matrix.zip ranks).foldl
    (fun received (row, rank) => received.zipWith add (row.map fun share => mul share rank))
    (ranks.map fun _ => ofNat 0)

/-- One iteration. -/
@[specialize] def update (damping restart : α) (matrix : List (List α)) (ranks : List α) : List α :=
  (flow matrix ranks).map fun received => add (mul damping received) restart

/-- How far ranks have moved in total. -/
@[specialize] def movement (before after : List α) : α :=
  sum (after.zipWith (fun a b => abs (sub a b)) before)

/-- Iterates until the ranks settle, at most `remaining` times after `done` iterations. -/
@[specialize] def settle (o : RankingOptions α) (restart : α) (matrix : List (List α)) :
    Nat → Nat → List α → Except RankingFault (List α × Nat)
  | 0, _, _ => .error (.unsettled o.limit)
  | remaining + 1, done, ranks =>
    let updated := update o.damping restart matrix ranks
    if updated.any isNaN then .error (.notANumber (done + 1))
    else if less (movement ranks updated) o.tolerance then .ok (updated, done + 1)
    else settle o restart matrix remaining (done + 1) updated

/-- Scales ranks to sum to one. -/
@[specialize] def normalise (ranks : List α) : Except RankingFault (List α) :=
  let total := sum ranks
  if isFinite total && less (ofNat 0) total then .ok (ranks.map fun r => div r total)
  else .error .noMass

/-- The settled ranks of the entities, before scaling, with the number of iterations. -/
@[specialize] def settled (o : RankingOptions α) (g : EntityGraph) :
    Except RankingFault (List α × Nat) :=
  let n := g.size
  if n = 0 then .error .empty
  else
    let restart := div (sub (ofNat 1) o.damping) (ofNat n)
    let start : List α := g.names.map fun _ => div (ofNat 1) (ofNat n)
    settle o restart (transitions g) o.limit.toNat 0 start

/-- The ranks of the entities, in the order of the vertices, with the number of iterations. -/
@[specialize] def rank (o : RankingOptions α) (g : EntityGraph) :
    Except RankingFault (Table α × Nat) := do
  let (ranks, iterations) ← settled o g
  return (g.names.zip (← normalise ranks), iterations)

end Ranking

end EntityAtlas
