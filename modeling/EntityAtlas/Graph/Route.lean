import EntityAtlas.Graph.Basic
import EntityAtlas.Metric.Error

/-!
# Join routes

A join route is a shortest chain of edges from the counted entity to the pivot, given as the names
of the associations on it. The search grows breadth-first levels from both ends at once, always the
smaller of the two fringes, and stops at the first entity known to both sides; among equally short
chains this decides which one is found. Where several edges join two neighbours, the association
with the fewest declared options is taken, and of these the one with the least name.
-/

namespace EntityAtlas

/-- What one side of a search has reached: each entity with the neighbour through which it was
reached first, the latest entity in front. The starting entity has no such neighbour. -/
abbrev Trail := List (String × Option String)

namespace Trail

/-- Whether the entity has been reached. -/
def reached (trail : Trail) (name : String) : Bool := trail.any (·.1 = name)

/-- The entities from the start of the trail to `name`. -/
def chain : Trail → String → List String
  | [], _ => []
  | (reached, via) :: earlier, name =>
    if reached = name then
      match via with
      | none => [name]
      | some previous => chain earlier previous ++ [name]
    else chain earlier name

end Trail

namespace Route

/-- What comes of growing a fringe by one level. -/
inductive Growth where
  /-- An entity that the other side knows, with the trail up to it. -/
  | met (name : String) (trail : Trail)
  /-- A whole new fringe. -/
  | grown (fringe : List String) (trail : Trail)

/-- Follows steps out of a fringe, each from an entity of it to a neighbour, until one reaches an
entity of the other side. -/
def grow (other : Trail) : List (String × String) → List String → Trail → Growth
  | [], fringe, trail => .grown fringe trail
  | (v, w) :: steps, fringe, trail =>
    let (fringe, trail) :=
      if trail.reached w then (fringe, trail) else (fringe ++ [w], (w, some v) :: trail)
    if other.reached w then .met w trail else grow other steps fringe trail

/-- The steps out of a fringe. -/
def stepsOut (neighbours : String → List String) (fringe : List String) : List (String × String) :=
  fringe.flatMap fun v => (neighbours v).map fun w => (v, w)

/-- Searches on from two fringes; each round that is not the last reaches a new entity on one of
the two sides, so twice as many rounds as there are entities suffice. -/
def search (g : EntityGraph) :
    Nat → List String → List String → Trail → Trail → Option (List String)
  | 0, _, _, _, _ => none
  | rounds + 1, forward, backward, ahead, behind =>
    if forward.isEmpty || backward.isEmpty then none
    else if forward.length ≤ backward.length then
      match grow behind (stepsOut g.successors forward) [] ahead with
      | .met w ahead => some (ahead.chain w ++ (behind.chain w).reverse.tail)
      | .grown fringe ahead => search g rounds fringe backward ahead behind
    else
      match grow ahead (stepsOut g.predecessors backward) [] behind with
      | .met w behind => some (ahead.chain w ++ (behind.chain w).reverse.tail)
      | .grown fringe behind => search g rounds forward fringe ahead behind

/-- A shortest chain of entities from `source` to `target`. -/
def vertices? (g : EntityGraph) (source target : String) : Option (List String) :=
  search g (2 * g.size + 2) [source] [target] [(source, none)] [(target, none)]

/-- Whether an association is to be preferred to another, or nothing tells them apart. -/
def preferred (a b : Association) : Bool :=
  if a.options.length = b.options.length then Text.notAfter a.name b.name
  else a.options.length < b.options.length

/-- Whether nothing tells two associations apart. -/
def tied (a b : Association) : Bool := a.options.length = b.options.length && a.name = b.name

/-- Picks the association to join on among those between two neighbours. -/
def pickAmong (source target : String) (candidates : List Association) :
    Except MetricError Association :=
  match candidates.mergeSort preferred with
  | [] => .error (.noJoinPath source target .unreachable)
  | [a] => .ok a
  | a :: b :: rest =>
    if tied a b then
      .error (.ambiguousJoin source target (((a :: b :: rest).filter (tied a)).map (·.name)))
    else .ok a

/-- Picks the association to join on between two neighbours of a graph. -/
def pick (g : EntityGraph) (source target : String) : Except MetricError Association :=
  pickAmong source target (g.between source target)

/-- Picks the association of every hop of a chain. -/
def pickAll (g : EntityGraph) : List String → Except MetricError (List Association)
  | u :: v :: rest => do
    let a ← pick g u v
    return a :: (← pickAll g (v :: rest))
  | _ => .ok []

/-- The names of the associations on a shortest chain from `source` to `target`; none are needed
to stay in place. -/
def resolve (g : EntityGraph) (source target : String) : Except MetricError (List String) :=
  if !g.has source then .error (.unknownEntity source)
  else if !g.has target then .error (.unknownEntity target)
  else if source = target then .ok []
  else match vertices? g source target with
    | none => .error (.noJoinPath source target .unreachable)
    | some chain => do return (← pickAll g chain).map (·.name)

end Route

end EntityAtlas
