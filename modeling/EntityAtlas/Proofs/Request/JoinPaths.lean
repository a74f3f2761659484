import EntityAtlas.Proofs.Metric.ChosenEdges
import EntityAtlas.Proofs.Request.Batch
import EntityAtlas.Request.Path

/-!
# The join path that is reported

A join path can be asked for as a request of its own, left to be found while an instruction is
compiled, or be given with the instruction. The request looks for it among the entities whose tables
exist, by name; compiling looks up the two entities first and checks that their tables exist; a
given path is only expanded. Where names differ all three agree.
-/

namespace EntityAtlas

open Recorded

namespace JoinPath

variable {ε : Type} {s : Snapshot} {i : MetricInstruction} {pivot : String}

/-- The request for a join path succeeds with what is resolved among the existing entities, or fails
with the wording of the condition. -/
theorem ensures_find (mapped : Bool) (source pivot : String) :
    Ensures (find ⟨.ok s, mapped⟩ source pivot : Recorded ε (Outcome (List String))) (· = .ok
      (match Route.resolve (EntityGraph.ofExisting s) source pivot with
        | .ok path => .ok path
        | .error e => .fail e.message)) := by
  refine Metrics.ensures_withSnapshot mapped ?_
  refine (Metrics.succeeds_graphNote s.existing).bind fun _ _ => ?_
  refine (Metrics.succeeds_routeNote _ source pivot).bind fun _ _ => ?_
  cases Route.resolve (EntityGraph.ofExisting s) source pivot with
  | ok path => exact ensures_pure rfl
  | error e => exact ensures_pure rfl

/-- Where a path is resolved among the existing entities, it is the one with which the instruction
is compiled. -/
theorem compile_of_resolve {path : List String} (hnd : (s.entities.map (·.name)).Nodup)
    (hpivot : i.pivot = some pivot) (hnone : i.joinPath = none)
    (h : Route.resolve (EntityGraph.ofExisting s) i.entity pivot = .ok path) :
    (Planner.ofSnapshot s).compile i =
      (Planner.ofSnapshot s).compile { i with joinPath := some path } := by
  obtain ⟨hs, ht, _⟩ := Route.hops_of_resolve h
  obtain ⟨entity, hentity, hpresent, hname⟩ := Snapshot.has_ofExisting.mp hs
  obtain ⟨goal, hgoal, hgoalPresent, hgoalName⟩ := Snapshot.has_ofExisting.mp ht
  have he : s.entity? i.entity = some entity := hname ▸ Snapshot.entity?_of_mem hnd hentity
  have hp : s.entity? pivot = some goal := hgoalName ▸ Snapshot.entity?_of_mem hnd hgoal
  refine Planner.compile_given he hpivot hp ?_
  rw [Planner.joinPath_searched hnone hpresent hgoalPresent, hname, hgoalName]
  exact h

/-- Where nothing is resolved among the existing entities, the instruction does not compile. -/
theorem compile_of_not_resolve {e : MetricError} (hpivot : i.pivot = some pivot)
    (hnone : i.joinPath = none)
    (h : Route.resolve (EntityGraph.ofExisting s) i.entity pivot = .error e) :
    ∃ e', (Planner.ofSnapshot s).compile i = .error e' := by
  cases hq : (Planner.ofSnapshot s).compile i with
  | error e' => exact ⟨e', rfl⟩
  | ok q =>
    obtain ⟨entity, goal, path, he, hp, hpath⟩ := Planner.joinPath_ok_of_compile hpivot hq
    obtain ⟨hpresent, hgoalPresent⟩ := Planner.present_of_joinPath hnone hpath
    rw [Planner.joinPath_searched hnone hpresent hgoalPresent, Snapshot.name_of_entity? he,
      Snapshot.name_of_entity? hp] at hpath
    exact absurd (h.symm.trans hpath) (fun hcontra => nomatch hcontra)

/-- The request for the join path of an instruction and compiling the instruction agree, in a
snapshot whose entities have different names. If the request succeeds with a path, then compiling
the instruction and compiling it with that path given come to the same, a query with that path or
the same condition; if it fails, the instruction does not compile. -/
theorem join_paths_agree (hnd : (s.entities.map (·.name)).Nodup) (hpivot : i.pivot = some pivot)
    (hnone : i.joinPath = none) :
    ∃ outcome : Outcome (List String),
      (∀ mapped, Ensures (find ⟨.ok s, mapped⟩ i.entity pivot : Recorded ε (Outcome (List String)))
        (· = .ok outcome)) ∧
      ((∃ path, outcome = .ok path ∧
          (Planner.ofSnapshot s).compile i =
            (Planner.ofSnapshot s).compile { i with joinPath := some path } ∧
          ∀ q, (Planner.ofSnapshot s).compile i = .ok q → q.joinPath = path) ∨
        ∃ message e, outcome = .fail message ∧
          (Planner.ofSnapshot s).compile i = .error e) := by
  refine ⟨_, fun mapped => ensures_find mapped i.entity pivot, ?_⟩
  cases h : Route.resolve (EntityGraph.ofExisting s) i.entity pivot with
  | ok path =>
    have hsame := compile_of_resolve hnd hpivot hnone h
    refine Or.inl ⟨path, rfl, hsame, fun q hq => ?_⟩
    rw [hsame] at hq
    exact Planner.joinPath_of_compile (i := { i with joinPath := some path }) hpivot rfl hq
  | error e =>
    obtain ⟨e', herror⟩ := compile_of_not_resolve hpivot hnone h
    exact Or.inr ⟨e.message, e', rfl, herror⟩

/-! ## Orders by region -/

/-- Orders of customers, who live in regions. -/
def orderSnapshot : Snapshot :=
  { entities :=
      [⟨"Order", "orders", some "id", [], true⟩, ⟨"Customer", "customers", some "id", [], true⟩,
       ⟨"Region", "regions", some "id", [], true⟩]
    associations :=
      [("Order", [reference "customer" "customer_id" "Customer"]),
       ("Customer", [reference "region" "region_id" "Region"])]
    schemaVersion := none }

/-- The instruction to count the orders of every region. -/
def countByRegion : MetricInstruction := ⟨.int 1, "Order", some "Region", none, none⟩

/-- The orders of every region. -/
def ordersByRegion : GroupedQuery :=
  { entity := "Order", tableName := "orders", pivot := "Region", pivotAlias := "t2", groupBy := "id"
    joinPath := ["customer", "region"]
    joins :=
      [⟨"customer", "customers", "t1", [⟨"t0", "customer_id", "id"⟩]⟩,
       ⟨"region", "regions", "t2", [⟨"t1", "region_id", "id"⟩]⟩] }

theorem join_paths_agree_orders :
    (orderSnapshot.entities.map (·.name)).Nodup ∧
      Ensures (find ⟨.ok orderSnapshot, false⟩ "Order" "Region" :
          Recorded Empty (Outcome (List String)))
        (· = .ok (.ok ["customer", "region"])) ∧
      (Planner.ofSnapshot orderSnapshot).compile
        { countByRegion with joinPath := some ["customer", "region"] } =
          .ok (.grouped ordersByRegion) := by
  have hnd : (orderSnapshot.entities.map (·.name)).Nodup := by decide +kernel
  have hq : (Planner.ofSnapshot orderSnapshot).compile countByRegion =
      .ok (.grouped ordersByRegion) := by decide +kernel
  obtain ⟨outcome, hfind, hagree⟩ :=
    @join_paths_agree Empty orderSnapshot countByRegion "Region" hnd rfl rfl
  rcases hagree with ⟨path, rfl, hsame, hpath⟩ | ⟨_, e, _, herror⟩
  · obtain rfl : ["customer", "region"] = path := hpath _ hq
    exact ⟨hnd, hfind false, hsame ▸ hq⟩
  · rw [hq] at herror
    cases herror

end JoinPath

end EntityAtlas
