import EntityAtlas.Proofs.Metric.Course
import EntityAtlas.Proofs.Metric.JoinablePivots

/-!
# Joins that stay on existing tables

A join path is looked for among the entities whose tables exist, but its names are followed in the
whole snapshot. Where names are distinct, both see the same associations: every hop leads along an
edge of the search to an entity whose table exists, no chain of references between existing entities
has fewer hops, and so no entity is visited twice. A hop is joined in one step, or in two if there
is a table in between.
-/

namespace EntityAtlas

/-- Entities have different names, every owner has one list of associations, and the associations in
it have different names. -/
structure Snapshot.DistinctNames (s : Snapshot) : Prop where
  entities : (s.entities.map (·.name)).Nodup
  owners : s.associations.names.Nodup
  owned : ∀ entry ∈ s.associations, (entry.2.map (·.name)).Nodup

/-! ## Following the edges of the search -/

namespace Snapshot.DistinctNames

variable {s : Snapshot} (hs : s.DistinctNames)

include hs

theorem nodup_associationsOf (owner : String) : ((s.associationsOf owner).map (·.name)).Nodup := by
  unfold associationsOf Table.findD
  cases hfind : s.associations.find? owner with
  | none => exact List.nodup_nil
  | some owned => exact hs.owned _ (Table.mem_of_find?_eq_some hfind)

/-- The name of an association with a fixed target stands for it. -/
theorem joinable?_eq {owner goal : String} {a : Association} (ha : a ∈ s.associationsOf owner)
    (hd : a.target = .direct goal) : s.joinable? owner a.name = some a := by
  have hpoly : (decide (a.name = a.name) && !a.isPolymorphic) = true := by
    simp [Association.isPolymorphic, hd]
  cases hfind : s.joinable? owner a.name with
  | none => exact absurd hpoly (List.find?_eq_none.mp hfind a ha)
  | some b =>
    obtain ⟨hb, hname, _⟩ := Snapshot.joinable?_spec hfind
    rw [List.inj_on_of_nodup_map (hs.nodup_associationsOf owner) hb ha hname]

/-- An edge of the search is an association of its source with an entity whose table exists. -/
theorem edge_spec {e : Edge} (he : e ∈ (EntityGraph.ofExisting s).edges) :
    e.association ∈ s.associationsOf e.source ∧ e.association.kind = .belongsTo ∧
      e.association.target = .direct e.target ∧
      ∃ target, s.entity? e.target = some target ∧ target.present = true := by
  obtain ⟨_, htarget, hedge, hdirect, owned, hentry, hmem⟩ := EntityGraph.mem_edges_build he
  obtain ⟨hkind, htargets⟩ : e.association.kind = .belongsTo ∧
      e.association.target = .direct e.target := by
    have href := Association.refersTo_iff.mpr ⟨hedge, hdirect⟩
    simpa [Association.refersTo] using href
  obtain ⟨target, hlisted, hpresent, hname⟩ := Snapshot.has_ofExisting.mp htarget
  have howned : s.associations.find? e.source = some owned := by
    rw [Snapshot.existing_associations] at hentry
    exact Table.find?_of_mem hs.owners (List.mem_filter.mp hentry).1
  refine ⟨?_, hkind, htargets, target, ?_, hpresent⟩
  · rw [Snapshot.associationsOf, Table.findD, howned]
    exact hmem
  · rw [← hname]
    exact Snapshot.entity?_of_mem hs.entities hlisted

/-- Along a way of the search the names of its edges lead from one existing entity to the next. -/
theorem belongs_of_way {u v : String} {path : List Edge}
    (h : Route.Way (EntityGraph.ofExisting s) u path v) :
    ∀ {owner : Entity}, s.entity? u = some owner → ∃ hops final, Belongs s owner hops final ∧
      Follows s owner (path.map (·.association.name)) hops final ∧ final.name = v := by
  induction h with
  | stay v =>
    intro owner ho
    exact ⟨[], owner, .self owner, .stay owner, Snapshot.name_of_entity? ho⟩
  | @step e path v he _ ih =>
    intro owner ho
    obtain ⟨hmem, hkind, hd, target, ht, hpresent⟩ := hs.edge_spec he
    obtain ⟨hops, final, hbelongs, hF, hv⟩ := ih ht
    rw [← Snapshot.name_of_entity? ho] at hmem
    exact ⟨(e.association, target) :: hops, final, .hop hmem hkind hd ht hpresent hbelongs,
      .hop (hs.joinable?_eq hmem hd) hd ht hF, hv⟩

end Snapshot.DistinctNames

/-! ## Chains with the fewest hops -/

namespace Belongs

variable {s : Snapshot} {owner final : Entity} {hops : List Hop}

/-- From every entity that is visited the rest of the hops leads on. -/
theorem exists_suffix (h : Belongs s owner hops final) (ho : s.entity? owner.name = some owner)
    {e : Entity} (he : s.entity? e.name = some e)
    (hmem : e.name ∈ owner.name :: hops.map (·.2.name)) :
    ∃ rest, Belongs s e rest final ∧ rest.length ≤ hops.length := by
  have hsame : ∀ {owner : Entity}, s.entity? owner.name = some owner → e.name = owner.name →
      owner = e := by
    intro owner ho hname
    rw [hname, ho] at he
    exact Option.some.inj he
  induction h with
  | self owner =>
    obtain rfl := hsame ho (List.mem_singleton.mp hmem)
    exact ⟨[], .self owner, Nat.le_refl _⟩
  | hop ha hkind hd ht hpresent rest ih =>
    rcases List.mem_cons.mp hmem with hname | hlater
    · obtain rfl := hsame ho hname
      exact ⟨_, .hop ha hkind hd ht hpresent rest, Nat.le_refl _⟩
    · obtain ⟨suffix, hsuffix, hlength⟩ := ih (Snapshot.entity?_self ht) hlater
      exact ⟨suffix, hsuffix, Nat.le_succ_of_le hlength⟩

/-- With the fewest hops no entity is visited twice. -/
theorem nodup_of_least (h : Belongs s owner hops final) (ho : s.entity? owner.name = some owner)
    (hleast : ∀ others, Belongs s owner others final → hops.length ≤ others.length) :
    (owner.name :: hops.map (·.2.name)).Nodup := by
  induction h with
  | self owner => exact List.nodup_singleton _
  | @hop owner target final a goal hops ha hkind hd ht hpresent rest ih =>
    have htarget := Snapshot.entity?_self ht
    refine List.nodup_cons.mpr ⟨fun hagain => ?_, ih htarget fun others hothers => ?_⟩
    · -- the owner would be reached again, and the hops up to there could be left out
      obtain ⟨suffix, hsuffix, hlength⟩ := rest.exists_suffix htarget ho hagain
      have hle := hleast suffix hsuffix
      rw [List.length_cons] at hle
      omega
    · have hle := hleast _ (.hop ha hkind hd ht hpresent hothers)
      rw [List.length_cons, List.length_cons] at hle
      omega

/-- Every hop leads to an entity of the snapshot whose table exists. -/
theorem present_of_mem (h : Belongs s owner hops final) :
    ∀ x ∈ hops, x.2 ∈ s.entities ∧ x.2.present = true := by
  induction h with
  | self owner => exact fun x hx => absurd hx List.not_mem_nil
  | hop _ _ _ ht hpresent _ ih =>
    exact List.forall_mem_cons.mpr ⟨⟨List.mem_of_find?_eq_some ht, hpresent⟩, ih⟩

end Belongs

/-! ## The steps of a hop -/

/-- The steps along a hop: one for a table in between, if there is one, and last the one that joins
the table of the target, which exists. -/
structure JoinsHop (s : Snapshot) (hop : Hop) (steps : List JoinStep) : Prop where
  length_eq : steps.length = if hop.1.through.isSome then 2 else 1
  last : ∃ step, steps.getLast? = some step ∧ step.tableName = hop.2.tableName
  target : hop.2 ∈ s.entities ∧ hop.2.present = true

theorem joinsHop_stepsFrom {s : Snapshot} {hop : Hop}
    (htarget : hop.2 ∈ s.entities ∧ hop.2.present = true) (position : Nat) :
    JoinsHop s hop (Planner.stepsFrom position (hop.1.legs hop.2)) := by
  obtain ⟨a, e⟩ := hop
  refine ⟨?_, ?_, htarget⟩
  · rw [Planner.length_stepsFrom]
    cases hthrough : a.through <;> simp [Association.legs, hthrough]
  · cases hthrough : a.through <;>
      simp [Association.legs, hthrough, Planner.stepsFrom, Planner.step]

/-- The steps of some hops are those of the first, then those of the second, and so on. -/
theorem exists_runs {s : Snapshot} {hops : List Hop}
    (htargets : ∀ x ∈ hops, x.2 ∈ s.entities ∧ x.2.present = true) : ∀ position : Nat,
    ∃ runs, Planner.stepsFrom position (legsOf hops) = runs.flatten ∧
      List.Forall₂ (JoinsHop s) hops runs := by
  induction hops with
  | nil => exact fun _ => ⟨[], rfl, .nil⟩
  | cons hop hops ih =>
    intro position
    obtain ⟨htarget, hrest⟩ := List.forall_mem_cons.mp htargets
    have hlegs : legsOf (hop :: hops) = hop.1.legs hop.2 ++ legsOf hops := rfl
    obtain ⟨runs, hruns, hjoins⟩ := ih hrest (position + (hop.1.legs hop.2).length)
    refine ⟨_ :: runs, ?_, .cons (joinsHop_stepsFrom htarget position) hjoins⟩
    rw [hlegs, Planner.stepsFrom_append, hruns, List.flatten_cons]

theorem length_flatten_runs {s : Snapshot} {hops : List Hop} {runs : List (List JoinStep)}
    (h : List.Forall₂ (JoinsHop s) hops runs) :
    runs.flatten.length = hops.length + hops.countP (·.1.through.isSome) := by
  induction h with
  | nil => rfl
  | @cons hop run hops runs hrun _ ih =>
    rw [List.flatten_cons, List.length_append, ih, hrun.length_eq, List.countP_cons,
      List.length_cons]
    split <;> omega

/-! ## Queries whose path is searched -/

/-- The joins of a query stay on tables that exist: the counted entity and the pivot have theirs,
and some hops by references lead from the one to the other through entities that have theirs, with
the fewest hops there are and past no entity twice; the steps are those of the hops. -/
structure StaysOnTables (s : Snapshot) (q : Query) (entity pivot : Entity) (hops : List Hop) :
    Prop where
  counted : q.tableName = entity.tableName ∧ entity.present = true
  grouped : (∀ z, q = .zeroFilled z → z.pivotTableName = pivot.tableName) ∧ pivot.present = true
  belongs : Belongs s entity hops pivot
  least : ∀ others, Belongs s entity others pivot → hops.length ≤ others.length
  once : (entity.name :: hops.map (·.2.name)).Nodup
  runs : ∃ runs, q.joins = runs.flatten ∧ List.Forall₂ (JoinsHop s) hops runs
  length_joins : q.joins.length = hops.length + hops.countP (·.1.through.isSome)

/-- Where names are distinct, a query with a pivot whose join path is searched for stays on tables
that exist. -/
theorem joins_stay_on_tables {s : Snapshot} {i : MetricInstruction} {q : Query} {name : String}
    (hs : s.DistinctNames) (hname : i.pivot = some name) (hnone : i.joinPath = none)
    (hq : (Planner.ofSnapshot s).compile i = .ok q) :
    ∃ entity pivot hops, s.entity? i.entity = some entity ∧ s.entity? name = some pivot ∧
      Follows s entity q.joinPath hops pivot ∧ StaysOnTables s q entity pivot hops := by
  obtain ⟨entity, pivot, key, hops, hplan, htable, hzeros⟩ := Planner.compile_planned hq hname
  obtain ⟨name', hname', hp⟩ := hplan.pivot_eq
  obtain rfl : name = name' := Option.some.inj (hname.symm.trans hname')
  have he : s.entity? i.entity = some entity := hplan.entity_eq
  obtain ⟨hentity, hpivot⟩ := Planner.present_of_joinPath hnone hplan.path_eq
  have hresolve := hplan.path_eq
  rw [Planner.joinPath_searched hnone hentity hpivot] at hresolve
  obtain ⟨hstart, hend, hhops⟩ := Route.hops_of_resolve hresolve
  -- the names of the path lead along the edges that the search has found
  obtain ⟨path, hway, hpath⟩ := hhops.exists_way
  obtain ⟨hops', final, hbelongs, hF, _⟩ := hs.belongs_of_way hway (Snapshot.entity?_self he)
  rw [hpath] at hF
  obtain ⟨rfl, rfl⟩ := hplan.follows.unique hF
  have hleast : ∀ others, Belongs s entity others pivot → hops.length ≤ others.length := by
    intro others hothers
    have hstored := Snapshot.hasTable_of_entity? he hentity
    obtain ⟨shortest, hshortest, _, hfewest⟩ :=
      Route.resolve_of_hops hstart hend (hothers.hops hstored)
    obtain rfl : q.joinPath = shortest := Except.ok.inj (hresolve.symm.trans hshortest)
    have hle := hfewest _ (hothers.hops hstored)
    rwa [hF.path_eq, List.length_map, List.length_map] at hle
  obtain ⟨runs, hruns, hjoins⟩ := exists_runs hbelongs.present_of_mem 0
  rw [← hplan.joins_eq] at hruns
  refine ⟨entity, pivot, hops, he, hp, hF, ?_⟩
  exact
    { counted := ⟨htable, hentity⟩
      grouped := ⟨hzeros, hpivot⟩
      belongs := hbelongs
      least := hleast
      once := hbelongs.nodup_of_least (Snapshot.entity?_self he) hleast
      runs := ⟨runs, hruns, hjoins⟩
      length_joins := by rw [hruns, length_flatten_runs hjoins] }

/-! ## Orders by regions -/

/-- Orders and their customers, who have regions by a table in between. Depots have regions too,
but their table is missing. -/
def customerRegions : Snapshot :=
  { entities :=
      [⟨"Order", "orders", some "id", [], true⟩, ⟨"Customer", "customers", some "id", [], true⟩,
        ⟨"Region", "regions", some "id", [], true⟩, ⟨"Depot", "depots", some "id", [], false⟩]
    associations :=
      [("Order", [⟨"depot", .belongsTo, .direct "Depot", [], [("depot_id", "id")], none⟩,
          ⟨"customer", .belongsTo, .direct "Customer", [], [("customer_id", "id")], none⟩]),
       ("Customer", [⟨"region", .belongsTo, .direct "Region", [], [],
          some ⟨"addresses", [("id", "customer_id")], [("region_id", "id")]⟩⟩]),
       ("Depot", [⟨"region", .belongsTo, .direct "Region", [], [("region_id", "id")], none⟩])]
    schemaVersion := none }

/-- The orders of every region, by the addresses of the customers. -/
def ordersByCustomerRegion : GroupedQuery :=
  { entity := "Order", tableName := "orders", pivot := "Region", pivotAlias := "t3"
    groupBy := "id", joinPath := ["customer", "region"]
    joins := [⟨"customer", "customers", "t1", [⟨"t0", "customer_id", "id"⟩]⟩,
      ⟨"region", "addresses", "t2", [⟨"t1", "id", "customer_id"⟩]⟩,
      ⟨"region", "regions", "t3", [⟨"t2", "region_id", "id"⟩]⟩] }

theorem joins_stay_on_tables_regions :
    customerRegions.DistinctNames ∧ ∃ entity pivot hops,
      StaysOnTables customerRegions (.grouped ordersByCustomerRegion) entity pivot hops ∧
        hops.length = 2 := by
  have hs : customerRegions.DistinctNames :=
    ⟨by decide +kernel, by decide +kernel, by decide +kernel⟩
  have hq : (Planner.ofSnapshot customerRegions).compile
      ⟨.int 1, "Order", some "Region", none, none⟩ = .ok (.grouped ordersByCustomerRegion) := by
    decide +kernel
  obtain ⟨entity, pivot, hops, _, _, hF, hstays⟩ := joins_stay_on_tables hs rfl rfl hq
  have hlength : hops.length = ordersByCustomerRegion.joinPath.length := by
    have hpath : ordersByCustomerRegion.joinPath = hops.map (·.1.name) := hF.path_eq
    rw [hpath, List.length_map]
  exact ⟨hs, entity, pivot, hops, hstays, hlength⟩

end EntityAtlas
