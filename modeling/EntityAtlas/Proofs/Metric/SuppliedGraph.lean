import EntityAtlas.Proofs.Metric.Refusals

/-!
# Supplying a graph

A planner may be given the graph in which it looks for join paths. It does search that graph, and
reports what stops the search, if the graph has a vertex. A graph without vertices counts as none:
instead of reporting that it does not have the entity, the planner searches the entities whose
tables exist, as if no graph had been supplied.
-/

namespace EntityAtlas

/-- The join path of an instruction has to be looked for: its entities are known and have tables,
the pivot has a key to group by, and no path is given. -/
structure Unrouted (s : Snapshot) (i : MetricInstruction) (entity pivot : Entity) : Prop where
  entity_eq : s.entity? i.entity = some entity
  pivot_eq : ∃ name, i.pivot = some name ∧ s.entity? name = some pivot
  keyed : Keyed pivot
  entity_present : entity.present = true
  pivot_present : pivot.present = true
  joinPath_eq : i.joinPath = none

namespace Planner

variable {p : Planner} {s : Snapshot} {g : EntityGraph} {i : MetricInstruction}
  {entity pivot : Entity}

/-- A planner looks for the join path of an instruction in a graph: it uses the path that is
resolved there, and reports what is reported there. -/
structure Searches (p : Planner) (g : EntityGraph) (i : MetricInstruction)
    (source target : String) : Prop where
  found : ∀ path, Route.resolve g source target = .ok path →
    p.compile i = p.compile { i with joinPath := some path } ∧
      ∀ q, p.compile i = .ok q → q.joinPath = path
  failed : ∀ e, Route.resolve g source target = .error e → p.compile i = .error e

/-- What stops the search for a path is reported, once the key of the pivot has been found. -/
theorem compile_of_joinPath_error {e : MetricError} {name : String}
    (he : p.snapshot.entity? i.entity = some entity) (hname : i.pivot = some name)
    (hp : p.snapshot.entity? name = some pivot) (hkey : Keyed pivot)
    (hpath : p.joinPath i entity pivot = .error e) : p.compile i = .error e := by
  obtain ⟨key, hkey⟩ := hkey
  have hgroup := groupingKey_eq_ok.mpr hkey
  simp only [compile, compilePivot, entity_eq_ok.mpr he, hname, entity_eq_ok.mpr hp, hgroup, hpath,
    bind, Except.bind]

theorem searches_graph (h : Unrouted p.snapshot i entity pivot) :
    p.Searches p.graph i entity.name pivot.name := by
  obtain ⟨name, hname, hp⟩ := h.pivot_eq
  have hsearch := joinPath_searched (p := p) h.joinPath_eq h.entity_present h.pivot_present
  constructor
  · intro path hpath
    have hsame := compile_given h.entity_eq hname hp (hsearch.trans hpath)
    refine ⟨hsame, fun q hq => ?_⟩
    rw [hsame] at hq
    exact joinPath_of_compile (i := { i with joinPath := some path }) hname rfl hq
  · intro e he
    exact compile_of_joinPath_error h.entity_eq hname hp h.keyed (hsearch.trans he)

/-! ## Graphs without vertices -/

theorem ofSnapshot_empty (hg : g.size = 0) : ofSnapshot s (some g) = ofSnapshot s := if_pos hg

theorem ofSnapshot_supplied (hg : g.size ≠ 0) : ofSnapshot s (some g) = ⟨s, g⟩ := if_neg hg

theorem resolve_of_empty (hg : g.size = 0) (source target : String) :
    Route.resolve g source target = .error (.unknownEntity source) := by
  have hnone : g.has source = false := by
    rw [EntityGraph.has, List.length_eq_zero_iff.mp hg]
    rfl
  rw [Route.resolve, hnone]
  rfl

/-- A path breaks over an unknown entity only if no entity of that name is listed. -/
theorem entity?_of_breaks {source goal name : String} {owner : Entity} {path : List String}
    {e : MetricError} (h : Breaks s source goal owner path e) (he : e = .unknownEntity name) :
    s.entity? name = none := by
  induction h with
  | unnamed => cases he
  | unlisted _ _ hnone => rwa [MetricError.unknownEntity.inj he] at hnone
  | unjoined => cases he
  | later _ _ _ _ _ ih => exact ih he

/-- An instruction is refused over an unknown entity only if no entity of that name is listed. -/
theorem entity?_of_refused {name : String} (h : Refused s i (.unknownEntity name)) :
    s.entity? name = none := by
  cases h with
  | entity hnone => exact hnone
  | pivot _ _ hnone => exact hnone
  | grouping _ _ _ hgroup =>
    cases hgroup with
    | broken _ _ hbreaks => exact entity?_of_breaks hbreaks rfl

theorem not_searches_empty (h : Unrouted s i entity pivot) (hg : g.size = 0) :
    ¬ (ofSnapshot s (some g)).Searches g i entity.name pivot.name := by
  intro hsearches
  have hfailed := hsearches.failed _ (resolve_of_empty hg entity.name pivot.name)
  rw [ofSnapshot_empty hg] at hfailed
  have hunknown := entity?_of_refused (compile_eq_error.mp hfailed)
  rw [Snapshot.entity?_self h.entity_eq] at hunknown
  cases hunknown

/-- A graph that is supplied is searched exactly if it has a vertex. Without any it makes no
difference: the graph of the entities whose tables exist is searched. -/
theorem supplied_searched (h : Unrouted s i entity pivot) (g : EntityGraph) :
    ((ofSnapshot s (some g)).Searches g i entity.name pivot.name ↔ g.size ≠ 0) ∧
    (g.size = 0 →
      (ofSnapshot s (some g)).Searches (EntityGraph.ofExisting s) i entity.name pivot.name) := by
  refine ⟨⟨fun hsearches hg => not_searches_empty h hg hsearches, fun hg => ?_⟩, fun hg => ?_⟩
  · rw [ofSnapshot_supplied hg]
    exact searches_graph h
  · rw [ofSnapshot_empty hg]
    exact searches_graph h

/-! ## Deliveries by region -/

/-- Deliveries go to a region, and are for customers who live in one. -/
def deliverySnapshot : Snapshot :=
  { entities :=
      [⟨"Delivery", "deliveries", some "id", [], true⟩,
       ⟨"Customer", "customers", some "id", [], true⟩, ⟨"Region", "regions", some "id", [], true⟩]
    associations :=
      [("Delivery", [reference "destination" "region_id" "Region",
         reference "customer" "customer_id" "Customer"]),
       ("Customer", [reference "region" "region_id" "Region"])]
    schemaVersion := none }

/-- The references by way of customers alone. -/
def customerGraph : EntityGraph :=
  .build deliverySnapshot.entities
    [("Delivery", [reference "customer" "customer_id" "Customer"]),
     ("Customer", [reference "region" "region_id" "Region"])]

/-- The instruction to count the deliveries of every region. -/
def deliveriesByRegion : MetricInstruction := ⟨.int 1, "Delivery", some "Region", none, none⟩

theorem supplied_searched_deliveries :
    Unrouted deliverySnapshot deliveriesByRegion
      ⟨"Delivery", "deliveries", some "id", [], true⟩ ⟨"Region", "regions", some "id", [], true⟩ ∧
    Route.resolve customerGraph "Delivery" "Region" = .ok ["customer", "region"] ∧
    (ofSnapshot deliverySnapshot (some customerGraph)).compile deliveriesByRegion =
      (ofSnapshot deliverySnapshot (some customerGraph)).compile
        { deliveriesByRegion with joinPath := some ["customer", "region"] } := by
  have h : Unrouted deliverySnapshot deliveriesByRegion
      ⟨"Delivery", "deliveries", some "id", [], true⟩ ⟨"Region", "regions", some "id", [], true⟩ :=
    ⟨by decide +kernel, ⟨"Region", rfl, by decide +kernel⟩, ⟨"id", rfl, by decide⟩, rfl, rfl, rfl⟩
  have hpath : Route.resolve customerGraph "Delivery" "Region" = .ok ["customer", "region"] := by
    decide +kernel
  have hsearches := (supplied_searched h customerGraph).1.mpr (by decide +kernel)
  exact ⟨h, hpath, (hsearches.found _ hpath).1⟩

/-- The counts of the deliveries to every region, by the shortest path of all. -/
def deliveriesDirectly : GroupedQuery :=
  { entity := "Delivery", tableName := "deliveries", pivot := "Region", pivotAlias := "t1"
    groupBy := "id", joinPath := ["destination"]
    joins := [⟨"destination", "regions", "t1", [⟨"t0", "region_id", "id"⟩]⟩] }

/-- In the graph without vertices no path is found, but a query is made with one. -/
theorem empty_graph_replaced :
    Route.resolve ⟨[], []⟩ "Delivery" "Region" = .error (.unknownEntity "Delivery") ∧
    (ofSnapshot deliverySnapshot (some ⟨[], []⟩)).compile deliveriesByRegion =
      .ok (.grouped deliveriesDirectly) ∧
    ¬ (ofSnapshot deliverySnapshot (some ⟨[], []⟩)).Searches ⟨[], []⟩ deliveriesByRegion
      "Delivery" "Region" := by
  have hempty : Route.resolve ⟨[], []⟩ "Delivery" "Region" = .error (.unknownEntity "Delivery") :=
    resolve_of_empty rfl _ _
  have hcompiled : (ofSnapshot deliverySnapshot (some ⟨[], []⟩)).compile deliveriesByRegion =
      .ok (.grouped deliveriesDirectly) := by decide +kernel
  refine ⟨hempty, hcompiled, fun hsearches => ?_⟩
  have hfailed := hsearches.failed _ hempty
  rw [hcompiled] at hfailed
  cases hfailed

end Planner

end EntityAtlas
