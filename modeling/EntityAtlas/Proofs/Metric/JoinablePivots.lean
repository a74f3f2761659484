import EntityAtlas.Proofs.Metric.ChosenEdges
import EntityAtlas.Proofs.Metric.Refusals

/-!
# Pivots that can be joined

Where an entity belongs to a pivot through entities whose tables exist, a join path is found: one
with the fewest hops, and at every hop by the preferred association. Columns play no part in this
choice. So the instruction is refused for want of a join path exactly if one of the chosen
associations has no columns on which the table of its target is joined, although another way may
have them.
-/

namespace EntityAtlas

/-- An entity belongs to another along some hops: each is a belongs-to association with a fixed
target, declared by the entity reached so far, and leads to an entity whose table exists. -/
inductive Belongs (s : Snapshot) : Entity → List Hop → Entity → Prop where
  | self (e : Entity) : Belongs s e [] e
  | hop {owner target final : Entity} {a : Association} {goal : String} {hops : List Hop}
      (ha : a ∈ s.associationsOf owner.name) (hkind : a.kind = .belongsTo)
      (hd : a.target = .direct goal) (ht : s.entity? goal = some target)
      (hpresent : target.present = true) (rest : Belongs s target hops final) :
      Belongs s owner ((a, target) :: hops) final

namespace Snapshot

variable {s : Snapshot}

theorem hasTable_of_entity? {name : String} {e : Entity} (he : s.entity? name = some e)
    (hpresent : e.present = true) : s.hasTable e.name = true :=
  hasTable_iff.mpr ⟨e, List.mem_of_find?_eq_some he, hpresent, rfl⟩

end Snapshot

/-- Where an entity belongs to another, edges between existing entities lead there. -/
theorem Belongs.hops {s : Snapshot} {owner final : Entity} {hops : List Hop}
    (h : Belongs s owner hops final) (ho : s.hasTable owner.name = true) :
    Route.Hops (EntityGraph.ofExisting s) owner.name (hops.map (·.1.name)) final.name := by
  induction h with
  | self e => exact .refl e.name
  | @hop owner target final a goal hops ha hkind hd ht hpresent _ ih =>
    have htarget := Snapshot.hasTable_of_entity? ht hpresent
    have href : a.refersTo target.name = true := by
      rw [Snapshot.name_of_entity? ht]
      simp [Association.refersTo, hkind, hd]
    obtain ⟨e, he, htriple⟩ := EntityGraph.exists_edge_of_reference ho htarget ha href
    obtain ⟨hsource, hgoal, hname⟩ := Edge.triple_eq htriple
    have hrest := ih htarget
    rw [← hgoal] at hrest
    rw [List.map_cons, ← hsource, ← hname]
    exact .head he hrest

/-! ## The way that is chosen -/

namespace Route

variable {entities : List Entity} {associations : Table (List Association)}
  {source target : String}
  (hs : (EntityGraph.build entities associations).has source = true)
  (ht : (EntityGraph.build entities associations).has target = true)

include hs ht

/-- Where edges lead from one vertex to another, a chain of them is chosen. -/
theorem exists_chosen {names : List String}
    (h : Hops (EntityGraph.build entities associations) source names target) :
    ∃ chain picked,
      Chosen (EntityGraph.build entities associations) source target chain picked := by
  by_cases hne : source = target
  · exact ⟨[source], [], .inl ⟨hne, rfl⟩, rfl⟩
  · have hanswer := answers_vertices hs ht hne
    cases hv : vertices? (EntityGraph.build entities associations) source target with
    | none =>
      rw [hv] at hanswer
      exact absurd h.steps (hanswer _)
    | some chain =>
      rw [hv] at hanswer
      obtain ⟨picked, hpicked, _⟩ := pickAll_ok hanswer.1
      exact ⟨chain, picked, .inr ⟨hne, hv⟩, hpicked⟩

variable {chain : List String} {picked : List Association}
  (h : Chosen (EntityGraph.build entities associations) source target chain picked)

include h

theorem Chosen.bestAlong : BestAlong (EntityGraph.build entities associations) chain picked := by
  have hhead := (h.ends hs ht).1
  obtain ⟨rest, rfl⟩ := List.head?_eq_some_iff.mp hhead
  exact bestAlong_of_pickAll h.picked_eq

/-- No other way has fewer hops than the one that is chosen. -/
theorem Chosen.length_le {names : List String}
    (ho : Hops (EntityGraph.build entities associations) source names target) :
    picked.length ≤ names.length := by
  obtain ⟨shortest, hshortest, _, hleast⟩ := resolve_of_hops hs ht ho
  rw [h.resolve_eq hs ht] at hshortest
  have hlength := hleast names ho
  rwa [← Except.ok.inj hshortest, List.length_map] at hlength

end Route

/-! ## Hops without columns -/

/-- Where the names of the chosen associations lead along them, the only way to be refused for want
of a join path is a chosen association without columns. -/
theorem Searched.refused_iff {s : Snapshot} {i : MetricInstruction} {entity pivot : Entity}
    {chain : List String} {picked : List Association} {e : MetricError}
    (hnd : (s.entities.map (·.name)).Nodup) (h : Searched s i entity pivot chain picked)
    (hkey : Keyed pivot) (hun : Unshadowed s chain picked) :
    ((Planner.ofSnapshot s).compile i = .error e ∧ e.code = "no_join_path") ↔
      ∃ x, (chain.zip picked).find? (·.2.arrivalColumns.isEmpty) = some x ∧
        e = .noJoinPath entity.name pivot.name (.noColumns x.1 x.2.name) := by
  obtain ⟨name, hname, hpivot⟩ := h.pivot_eq
  obtain ⟨hops, hF, rfl, hnames⟩ := follows_of_unshadowed hnd h.chosen.picked_eq h.head_eq
    h.last_eq h.entity_self h.pivot_self hun
  obtain rfl : chain = entity.name :: hops.map (·.2.name) := by
    obtain ⟨rest, hrest⟩ := List.head?_eq_some_iff.mp h.head_eq
    rw [hnames, hrest, List.tail_cons]
  have hleads := Planner.joinPath_eq_ok.mp h.joinPath_eq
  rw [← hF.breaks_iff]
  constructor
  · rintro ⟨herror, hcode⟩
    rcases Planner.fault_or_breaks h.entity_eq hname hpivot hleads hF herror with
      ⟨fault, rfl⟩ | hbreaks
    · simp [MetricError.code] at hcode
    · exact hbreaks
  · intro hbreaks
    refine ⟨Planner.compile_eq_error.mpr
      (.grouping h.entity_eq hname hpivot (.broken hkey hleads hbreaks)), ?_⟩
    obtain ⟨x, _, rfl⟩ := hF.breaks_iff.mp hbreaks
    rfl

/-- Where an entity belongs to the pivot that it is to be grouped by, a way with the fewest hops is
chosen, at every hop the preferred association. Unless another association stands before a chosen
one under its name, the instruction is refused for want of a join path exactly if a chosen
association has no columns on which the table of its target is joined, and the first of these is
reported; whether another way has columns makes no difference. -/
theorem refused_over_columns {s : Snapshot} {i : MetricInstruction} {entity pivot : Entity}
    {name : String} {hops : List Hop} (hnd : (s.entities.map (·.name)).Nodup)
    (he : s.entity? i.entity = some entity) (hname : i.pivot = some name)
    (hp : s.entity? name = some pivot) (hentity : entity.present = true)
    (hpivot : pivot.present = true) (hkey : Keyed pivot) (hnone : i.joinPath = none)
    (hbelongs : Belongs s entity hops pivot) :
    ∃ chain picked, Searched s i entity pivot chain picked ∧
      Route.BestAlong (EntityGraph.ofExisting s) chain picked ∧
      (∀ others, Belongs s entity others pivot → picked.length ≤ others.length) ∧
      (Unshadowed s chain picked → ∀ e,
        ((Planner.ofSnapshot s).compile i = .error e ∧ e.code = "no_join_path") ↔
          ∃ x, (chain.zip picked).find? (·.2.arrivalColumns.isEmpty) = some x ∧
            e = .noJoinPath entity.name pivot.name (.noColumns x.1 x.2.name)) := by
  have hstored := Snapshot.hasTable_of_entity? he hentity
  have hs : (EntityGraph.ofExisting s).has entity.name = true :=
    (Snapshot.has_ofExisting_eq s entity.name).trans hstored
  have ht : (EntityGraph.ofExisting s).has pivot.name = true :=
    (Snapshot.has_ofExisting_eq s pivot.name).trans (Snapshot.hasTable_of_entity? hp hpivot)
  obtain ⟨chain, picked, hchosen⟩ := Route.exists_chosen hs ht (hbelongs.hops hstored)
  have hsearched : Searched s i entity pivot chain picked :=
    ⟨he, ⟨name, hname, hp⟩, hnone, hentity, hpivot, hchosen⟩
  refine ⟨chain, picked, hsearched, hchosen.bestAlong hs ht, fun others hothers => ?_, ?_⟩
  · have hlength := hchosen.length_le hs ht (hothers.hops hstored)
    rwa [List.length_map] at hlength
  · intro hun e
    exact hsearched.refused_iff hnd hkey hun

/-! ## Orders by city and by region -/

/-- Orders of customers, who live in cities of regions. Orders also belong to batches, which belong
to regions but have no key that an order could refer to. -/
def shopSnapshot : Snapshot :=
  { entities :=
      [⟨"Order", "orders", some "id", [], true⟩, ⟨"Batch", "batches", none, [], true⟩,
       ⟨"Customer", "customers", some "id", [], true⟩, ⟨"City", "cities", some "id", [], true⟩,
       ⟨"Region", "regions", some "id", [], true⟩]
    associations :=
      [("Order",
        [⟨"batch", .belongsTo, .direct "Batch", [], [], none⟩,
         reference "customer" "customer_id" "Customer"]),
       ("Batch", [reference "region" "region_id" "Region"]),
       ("Customer", [reference "city" "city_id" "City"]),
       ("City", [reference "region" "region_id" "Region"])]
    schemaVersion := none }

/-- From orders to the cities of their customers. -/
def toCity : List Hop :=
  [(reference "customer" "customer_id" "Customer", ⟨"Customer", "customers", some "id", [], true⟩),
   (reference "city" "city_id" "City", ⟨"City", "cities", some "id", [], true⟩)]

/-- From orders to the regions of their customers. -/
def toRegion : List Hop :=
  toCity ++
    [(reference "region" "region_id" "Region", ⟨"Region", "regions", some "id", [], true⟩)]

theorem refused_over_columns_city :
    Belongs shopSnapshot ⟨"Order", "orders", some "id", [], true⟩ toCity
        ⟨"City", "cities", some "id", [], true⟩ ∧
      ∀ e, (Planner.ofSnapshot shopSnapshot).compile
          ⟨.int 1, "Order", some "City", none, none⟩ = .error e → e.code ≠ "no_join_path" := by
  have hbelongs : Belongs shopSnapshot ⟨"Order", "orders", some "id", [], true⟩ toCity
      ⟨"City", "cities", some "id", [], true⟩ := by
    refine .hop (by decide +kernel) rfl rfl (by decide +kernel) rfl ?_
    exact .hop (by decide +kernel) rfl rfl (by decide +kernel) rfl (.self _)
  refine ⟨hbelongs, fun e he hcode => ?_⟩
  obtain ⟨chain, picked, hsearched, _, _, hrefused⟩ := refused_over_columns
    (i := ⟨.int 1, "Order", some "City", none, none⟩) (by decide +kernel) (by decide +kernel) rfl
    (by decide +kernel) rfl rfl ⟨"id", rfl, by decide +kernel⟩ rfl hbelongs
  have hfound : Route.vertices? (EntityGraph.ofExisting shopSnapshot) "Order" "City" =
      some ["Order", "Customer", "City"] := by
    decide +kernel
  have hpicked : Route.pickAll (EntityGraph.ofExisting shopSnapshot) ["Order", "Customer", "City"] =
      .ok (toCity.map (·.1)) := by
    decide +kernel
  obtain rfl : ["Order", "Customer", "City"] = chain := by
    rcases hsearched.chosen.chain_eq with ⟨heq, _⟩ | ⟨_, hchain⟩
    · exact absurd heq (by decide)
    · exact Option.some.inj (hfound.symm.trans hchain)
  obtain rfl : toCity.map (·.1) = picked :=
    Except.ok.inj (hpicked.symm.trans hsearched.chosen.picked_eq)
  have hcolumns : ((["Order", "Customer", "City"].zip (toCity.map (·.1))).find?
      fun x => x.2.arrivalColumns.isEmpty) = none := by
    decide +kernel
  obtain ⟨x, hx, _⟩ := (hrefused (by decide +kernel) e).mp ⟨he, hcode⟩
  rw [hcolumns] at hx
  cases hx

/-- The orders of every region can be joined by way of customers, but the shorter way by batches is
chosen, and it has no columns. -/
theorem region_refused :
    (shopSnapshot.entities.map (·.name)).Nodup ∧
      shopSnapshot.entity? "Order" = some ⟨"Order", "orders", some "id", [], true⟩ ∧
      shopSnapshot.entity? "Region" = some ⟨"Region", "regions", some "id", [], true⟩ ∧
      Keyed ⟨"Region", "regions", some "id", [], true⟩ ∧
      Belongs shopSnapshot ⟨"Order", "orders", some "id", [], true⟩ toRegion
        ⟨"Region", "regions", some "id", [], true⟩ ∧
      (∀ l ∈ legsOf toRegion, l.columns ≠ []) ∧
      (Planner.ofSnapshot shopSnapshot).compile ⟨.int 1, "Order", some "Region", none, none⟩ =
        .error (.noJoinPath "Order" "Region" (.noColumns "Order" "batch")) := by
  refine ⟨by decide +kernel, by decide +kernel, by decide +kernel, ⟨"id", rfl, by decide +kernel⟩,
    ?_, by decide +kernel, by decide +kernel⟩
  refine .hop (by decide +kernel) rfl rfl (by decide +kernel) rfl ?_
  refine .hop (by decide +kernel) rfl rfl (by decide +kernel) rfl ?_
  exact .hop (by decide +kernel) rfl rfl (by decide +kernel) rfl (.self _)

end EntityAtlas
