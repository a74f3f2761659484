import EntityAtlas.Request.Provider

/-!
# Finding a join path

The join path between two entities whose tables exist, as a request of its own.
-/

namespace EntityAtlas.JoinPath

variable {ε : Type}

/-- Finds the join path between two entities of a provider's snapshot. -/
def find (p : Provider) (source pivot : String) : Recorded ε (Outcome (List String)) :=
  p.withSnapshot fun s => do
    EntityGraph.note s.existing
    let g := EntityGraph.ofExisting s
    Route.note g source pivot
    match Route.resolve g source pivot with
    | .ok path => return .ok path
    | .error e => return .fail e.message

end EntityAtlas.JoinPath
