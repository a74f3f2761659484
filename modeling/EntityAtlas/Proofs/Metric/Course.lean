import EntityAtlas.Proofs.Metric.Expansion

/-!
# What a query is made from

An instruction names things; a query is made from the things themselves. The course of an
instruction is the counted entity and, if there is a pivot, the hops that lead to it with the key
and the attribute to group by. A compiled query is a function of its course, so nothing else of the
instruction shows in it, and everything in the course comes from the snapshot.
-/

namespace EntityAtlas

/-- How the rows of an entity are grouped: by the key of a pivot that some hops lead to, and by an
attribute of it where one is reported. -/
structure Grouping where
  pivot : Entity
  key : String
  hops : List Hop
  reported : Option String

/-- The counted entity and how its rows are grouped, if they are. -/
structure Course where
  entity : Entity
  grouping : Option Grouping

namespace Course

/-- The hops to the pivot. -/
def hops (c : Course) : List Hop :=
  match c.grouping with
  | none => []
  | some g => g.hops

/-- The query that is made of a course. -/
def query (c : Course) : Query :=
  match c.grouping with
  | none => .count ⟨c.entity.name, c.entity.tableName⟩
  | some ⟨pivot, key, hops, none⟩ =>
    .grouped
      { entity := c.entity.name, tableName := c.entity.tableName, pivot := pivot.name
        pivotAlias := tableAlias (legsOf hops).length, groupBy := key
        joinPath := hops.map (·.1.name), joins := Planner.stepsFrom 0 (legsOf hops) }
  | some ⟨pivot, key, hops, some name⟩ =>
    .zeroFilled
      { entity := c.entity.name, tableName := c.entity.tableName, pivot := pivot.name
        pivotTableName := pivot.tableName, pivotAlias := tableAlias (legsOf hops).length
        primaryKey := key, pivotAttribute := name, joinPath := hops.map (·.1.name)
        joins := Planner.stepsFrom 0 (legsOf hops) }

theorem joins_query (c : Course) : c.query.joins = Planner.stepsFrom 0 (legsOf c.hops) := by
  obtain ⟨entity, grouping⟩ := c
  cases grouping with
  | none => rfl
  | some g =>
    obtain ⟨pivot, key, hops, reported⟩ := g
    cases reported with
    | none => rfl
    | some name => rfl

end Course

/-- The course of an instruction: the entities are looked up by name, and the path, given or found,
is followed to the pivot. -/
inductive LeadsTo (p : Planner) (i : MetricInstruction) : Course → Prop where
  | total {entity : Entity} (he : p.snapshot.entity? i.entity = some entity)
      (hnone : i.pivot = none) : LeadsTo p i ⟨entity, none⟩
  | grouped {entity pivot : Entity} {name key : String} {path : List String} {hops : List Hop}
      (he : p.snapshot.entity? i.entity = some entity) (hname : i.pivot = some name)
      (hp : p.snapshot.entity? name = some pivot) (hkey : pivot.primaryKey = some key)
      (hpath : p.joinPath i entity pivot = .ok path)
      (hF : Follows p.snapshot entity path hops pivot) :
      LeadsTo p i ⟨entity, some ⟨pivot, key, hops, i.pivotAttribute⟩⟩

/-- The names of a path are those of the associations that it leads along. -/
theorem Follows.path_eq {s : Snapshot} {owner final : Entity} {path : List String}
    {hops : List Hop} (h : Follows s owner path hops final) : path = hops.map (·.1.name) := by
  induction h with
  | stay e => rfl
  | hop ha _ _ _ ih =>
    obtain ⟨_, hname, _⟩ := Snapshot.joinable?_spec ha
    rw [List.map_cons, hname, ← ih]

/-- A hop follows an association of the snapshot to an entity of the snapshot. -/
theorem Follows.mem_hops {s : Snapshot} {owner final : Entity} {path : List String}
    {hops : List Hop} (h : Follows s owner path hops final) :
    ∀ x ∈ hops, (∃ owner, x.1 ∈ s.associationsOf owner) ∧ x.2 ∈ s.entities := by
  induction h with
  | stay e => exact fun x hx => absurd hx List.not_mem_nil
  | hop ha _ ht _ ih =>
    obtain ⟨hmem, _⟩ := Snapshot.joinable?_spec ha
    exact List.forall_mem_cons.mpr ⟨⟨⟨_, hmem⟩, List.mem_of_find?_eq_some ht⟩, ih⟩

namespace LeadsTo

variable {p : Planner} {i : MetricInstruction}

/-- An instruction has one course only. -/
theorem unique {c c' : Course} (h : LeadsTo p i c) (h' : LeadsTo p i c') : c = c' := by
  cases h with
  | total he hnone =>
    cases h' with
    | total he' _ => rw [Option.some.inj (he.symm.trans he')]
    | grouped _ hname _ _ _ _ =>
      rw [hnone] at hname
      cases hname
  | grouped he hname hp hkey hpath hF =>
    cases h' with
    | total _ hnone =>
      rw [hnone] at hname
      cases hname
    | grouped he' hname' hp' hkey' hpath' hF' =>
      obtain rfl := Option.some.inj (he.symm.trans he')
      obtain rfl := Option.some.inj (hname.symm.trans hname')
      obtain rfl := Option.some.inj (hp.symm.trans hp')
      obtain rfl := Option.some.inj (hkey.symm.trans hkey')
      obtain rfl := Except.ok.inj (hpath.symm.trans hpath')
      obtain ⟨rfl, _⟩ := hF.unique hF'
      rfl

/-- The hops of a course are hops of the snapshot. -/
theorem mem_hops {c : Course} (h : LeadsTo p i c) :
    ∀ x ∈ c.hops, (∃ owner, x.1 ∈ p.snapshot.associationsOf owner) ∧ x.2 ∈ p.snapshot.entities := by
  cases h with
  | total _ _ => exact fun x hx => absurd hx List.not_mem_nil
  | grouped _ _ _ _ _ hF => exact hF.mem_hops

end LeadsTo

/-- What is asked of a course before a query is made of it: the hops have columns on which the
tables of their targets are joined, and an attribute that is reported is one of the pivot. -/
structure Course.Admitted (c : Course) : Prop where
  columns : ∀ x ∈ c.hops, x.1.arrivalColumns ≠ []
  reported : ∀ g name, c.grouping = some g → g.reported = some name → name ∈ g.pivot.attributeNames

/-- A compiled query is the query of the course of its instruction. -/
theorem query_of_compile {p : Planner} {i : MetricInstruction} {q : Query}
    (h : p.compile i = .ok q) : ∃ c, LeadsTo p i c ∧ c.Admitted ∧ q = c.query := by
  rcases Planner.compile_ok h with ⟨hnone, entity, he, rfl⟩ |
    ⟨entity, pivot, key, path, hops, joins, label, hplan, hquery⟩
  · refine ⟨⟨entity, none⟩, .total he hnone, ⟨fun x hx => absurd hx List.not_mem_nil, ?_⟩, rfl⟩
    intro g name hg
    cases hg
  · obtain ⟨name, hname, hp⟩ := hplan.pivot_eq
    refine ⟨_, .grouped hplan.entity_eq hname hp hplan.key_eq hplan.path_eq hplan.follows,
      ⟨hplan.columns, ?_⟩, ?_⟩
    · intro g reported hg hreported
      cases hg
      rcases hquery with ⟨hattr, _⟩ | ⟨reported', hattr, hmem, _, _⟩
      · exact absurd (hattr.symm.trans hreported) (fun h => nomatch h)
      · rwa [Option.some.inj (hreported.symm.trans hattr)]
    · rw [hplan.joins_eq, hplan.label_eq, hplan.follows.path_eq] at hquery
      rcases hquery with ⟨hattr, rfl⟩ | ⟨reported, hattr, _, _, rfl⟩
      · rw [hattr]
        rfl
      · rw [hattr]
        rfl

end EntityAtlas
