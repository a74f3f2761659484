import EntityAtlas.Proofs.Sql.PivotCounts

/-!
# Names in compiled queries

The tables of a compiled query with a pivot go by `t0`, `t1`, … in the order in which they are
joined. Every join starts from the table that its association leads from, which is joined before it,
and the last table is that of the pivot. So every name that a rendering looks up is declared. A
zero-filled query refers to its keys once more, as columns of a union, and there a key without a
name cannot be referred to.
-/

namespace EntityAtlas

/-- Equalities between columns of the table under a name and columns of the joined table. -/
def pairsUnder (label : String) (columns : List (String × String)) : List ColumnPair :=
  columns.map fun c => ⟨label, c.1, c.2⟩

/-- The joins of some hops from the table under one name to the table under another. A hop without a
table in between is joined from the table of its owner; of the two joins of a hop with one, the
first is joined from the table of the owner, and the second from the table in between. -/
inductive JoinedAlong : String → List Hop → List JoinStep → String → Prop where
  | stay (label : String) : JoinedAlong label [] [] label
  | direct {owner last : String} {a : Association} {target : Entity} {hops : List Hop}
      {joins : List JoinStep} {s : JoinStep} (hthrough : a.through = none)
      (hname : s.association = a.name) (htable : s.tableName = target.tableName)
      (hpairs : s.pairs = pairsUnder owner a.joinColumns)
      (rest : JoinedAlong s.label hops joins last) :
      JoinedAlong owner ((a, target) :: hops) (s :: joins) last
  | between {owner last : String} {a : Association} {t : ThroughTable} {target : Entity}
      {hops : List Hop} {joins : List JoinStep} {first second : JoinStep}
      (hthrough : a.through = some t)
      (hname : first.association = a.name) (htable : first.tableName = t.tableName)
      (hpairs : first.pairs = pairsUnder owner t.sourceColumns)
      (hname' : second.association = a.name) (htable' : second.tableName = target.tableName)
      (hpairs' : second.pairs = pairsUnder first.label t.targetColumns)
      (rest : JoinedAlong second.label hops joins last) :
      JoinedAlong owner ((a, target) :: hops) (first :: second :: joins) last

namespace Sql

/-- The names of a query with a pivot: the joined tables go by `t1`, `t2`, …, the names are in
scope, the joins follow the hops, and the last table is that of the pivot. -/
structure Scoped (q : Query) (pivot : Entity) (hops : List Hop) : Prop where
  labels_eq : q.joins.map (·.label) =
    (List.range q.joins.length).map fun k => tableAlias (k + 1)
  inScope : InScope q.tableName q.joins q.pivotAlias
  along : JoinedAlong (tableAlias 0) hops q.joins q.pivotAlias
  last : q.pivotAlias = ((q.joins.map (·.label)).getLast?).getD (tableAlias 0)
  pivot_table : (Render.tables q.tableName q.joins).find? q.pivotAlias = some pivot.tableName
  zeros_table : ∀ z, q = .zeroFilled z → z.pivotTableName = pivot.tableName

end Sql

/-- The columns that are declared of the table under a name: those that the equalities of the joins
refer to, and the keys for the table of the pivot. -/
def Query.declared (q : Query) (label : String) : List String :=
  (if label = q.pivotAlias then q.keys else []) ++ q.joins.flatMap fun s =>
    s.pairs.flatMap fun p => (if p.leftAlias = label then [p.leftColumn] else []) ++
      if s.label = label then [p.rightColumn] else []

namespace Sql

/-- A key of a zero-filled query has no name. -/
def Nameless : Query → Prop
  | .zeroFilled q => "" ∈ Render.keys q
  | _ => False

/-- Every name in the selection of a query is declared where it is looked up. -/
structure Resolved (q : Query) (s : Selection) : Prop where
  /-- The tables stand in the order in which they take part. -/
  sources_eq : Evaluate.sources s.source =
    (takingPart q.tableName q.joins).map fun part => ⟨part.2, part.1⟩
  /-- A condition is between the joined table and one that stands before it. -/
  ordered : ∀ (k : Nat) (j : Join), s.source.joins[k]? = some j → ∀ c ∈ j.conditions,
    c.1.table ∈ ((Evaluate.sources s.source).take (k + 1)).map (·.label) ∧
      c.2.table = j.source.label
  /-- The keys are columns of the pivot. -/
  keys_eq : s.keys = q.keys.map fun k => ⟨q.pivotAlias, k⟩
  /-- Every column is declared of its table. -/
  declared : ∀ ref ∈ Evaluate.references s, ref.column ∈ q.declared ref.table

/-- A query is rendered, all names declared, unless it is zero-filled and a key has no name. The
union of a zero-filled query has a column under the name of every key. -/
structure Renders (q : Query) : Prop where
  nameless : Nameless q → render q = .error (.undeclared "")
  named : ¬Nameless q → ∃ statement s, render q = .ok statement ∧ statement.counted? = some s ∧
    Resolved q s ∧ ∀ z, q = .zeroFilled z → statement = .combined s (Render.zeros z) ∧
      Evaluate.labels s = Render.keys z ++ [measureLabel]

/-! ## Planned joins -/

theorem joinedAlong_stepsFrom (hops : List Hop) : ∀ position : Nat,
    JoinedAlong (tableAlias position) hops (Planner.stepsFrom position (legsOf hops))
      (tableAlias (position + (legsOf hops).length)) := by
  induction hops with
  | nil =>
    intro position
    exact .stay _
  | cons x hops ih =>
    intro position
    obtain ⟨a, target⟩ := x
    have hlegs : legsOf ((a, target) :: hops) = a.legs target ++ legsOf hops := rfl
    rw [hlegs]
    unfold Association.legs
    cases hthrough : a.through with
    | none =>
      have hrest := ih (position + 1)
      rw [show position + 1 + (legsOf hops).length = position + ((legsOf hops).length + 1) by omega]
        at hrest
      exact .direct hthrough rfl rfl rfl hrest
    | some t =>
      have hrest := ih (position + 1 + 1)
      rw [show position + 1 + 1 + (legsOf hops).length =
        position + ((legsOf hops).length + 1 + 1) by omega] at hrest
      exact .between hthrough rfl rfl rfl rfl rfl rfl hrest

theorem labels_stepsFrom (position : Nat) (legs : List Leg) :
    (Planner.stepsFrom position legs).map (·.label) =
      (List.range legs.length).map fun k => tableAlias (position + k + 1) := by
  induction legs generalizing position with
  | nil => rfl
  | cons l legs ih =>
    rw [Planner.stepsFrom, List.map_cons, ih, List.length_cons, List.range_succ_eq_map,
      List.map_cons, List.map_map]
    refine congrArg (_ :: ·) (List.map_congr_left fun k _ => ?_)
    show tableAlias (position + 1 + k + 1) = tableAlias (position + (k + 1) + 1)
    rw [show position + 1 + k = position + (k + 1) by omega]

theorem scoped_of_planned {p : Planner} {i : MetricInstruction} {q : Query} {entity pivot : Entity}
    {key : String} {hops : List Hop}
    (h : Planner.Planned p i entity pivot key q.joinPath hops q.joins q.pivotAlias)
    (htable : q.tableName = entity.tableName)
    (hzeros : ∀ z, q = .zeroFilled z → z.pivotTableName = pivot.tableName) :
    Scoped q pivot hops := by
  have hjoins := h.joins_eq
  have hlabel := h.label_eq
  have hscope := inScope_stepsFrom q.tableName (legsOf hops)
  have halong := joinedAlong_stepsFrom hops 0
  have hlabels := labels_stepsFrom 0 (legsOf hops)
  have hlast : (tableAlias (legsOf hops).length, pivot.tableName) ∈
      takingPart q.tableName (Planner.stepsFrom 0 (legsOf hops)) := by
    rw [htable, ← lastTable_of_follows h.follows]
    exact List.mem_of_getElem? (takingPart_last _ _)
  have hfind : (Render.tables q.tableName (Planner.stepsFrom 0 (legsOf hops))).find?
      (tableAlias (legsOf hops).length) = some pivot.tableName :=
    Table.find?_ofEntries_of_mem hscope.nodup hlast
  -- from here on the joins and the name of the pivot stand for the plan
  simp only [Nat.zero_add] at halong hlabels
  rw [← hlabel] at hscope halong hfind
  rw [← hjoins] at hscope halong hfind hlabels
  have hlength : (legsOf hops).length = q.joins.length := by
    rw [hjoins, Planner.length_stepsFrom]
  refine ⟨hlength ▸ hlabels, hscope, halong, ?_, hfind, hzeros⟩
  rw [hlabels, hlabel, List.getLast?_map, List.getLast?_range]
  cases (legsOf hops).length with
  | zero => rfl
  | succ n => rfl

/-! ## Rendering -/

/-- The counts of a query by its keys. -/
def selection (q : Query) : Selection := selectionOf q.tableName q.joins q.pivotAlias q.keys

theorem mem_declared_key {q : Query} {k : String} (h : k ∈ q.keys) :
    k ∈ q.declared q.pivotAlias := by
  unfold Query.declared
  rw [if_pos rfl]
  exact List.mem_append_left _ h

theorem mem_declared_pair {q : Query} {s : JoinStep} {pair : ColumnPair} (hs : s ∈ q.joins)
    (hpair : pair ∈ s.pairs) :
    pair.leftColumn ∈ q.declared pair.leftAlias ∧ pair.rightColumn ∈ q.declared s.label := by
  have hdeclared : ∀ {label column : String},
      column ∈ (if pair.leftAlias = label then [pair.leftColumn] else []) ++
        (if s.label = label then [pair.rightColumn] else []) → column ∈ q.declared label := by
    intro label column h
    exact List.mem_append_right _
      (List.mem_flatMap.mpr ⟨s, hs, List.mem_flatMap.mpr ⟨pair, hpair, h⟩⟩)
  constructor
  · refine hdeclared (List.mem_append_left _ ?_)
    rw [if_pos rfl]
    exact List.mem_singleton.mpr rfl
  · refine hdeclared (List.mem_append_right _ ?_)
    rw [if_pos rfl]
    exact List.mem_singleton.mpr rfl

/-- Where the names of a query are in scope, every name in its selection is declared. -/
theorem resolved_selection {q : Query} (h : InScope q.tableName q.joins q.pivotAlias) :
    Resolved q (selection q) := by
  refine ⟨sources_fromOf _ _, ?_, rfl, ?_⟩
  · intro k j hj c hc
    obtain ⟨s, hs, rfl⟩ : ∃ s, q.joins[k]? = some s ∧ joinOf s = j := by
      have hmap : (q.joins.map joinOf)[k]? = some j := hj
      rw [List.getElem?_map] at hmap
      exact Option.map_eq_some_iff.mp hmap
    obtain ⟨pair, hpair, rfl⟩ := List.mem_map.mp hc
    have hearlier := h.earlier k s hs pair hpair
    refine ⟨?_, rfl⟩
    rw [show Evaluate.sources (selection q).source = _ from sources_fromOf _ _, ← List.map_take,
      List.map_map]
    exact hearlier
  · intro ref href
    rcases List.mem_append.mp href with hkey | hcond
    · obtain ⟨k, hk, rfl⟩ := List.mem_map.mp hkey
      exact mem_declared_key hk
    · obtain ⟨j, hj, hj'⟩ := List.mem_flatMap.mp hcond
      obtain ⟨s, hs, rfl⟩ := List.mem_map.mp hj
      obtain ⟨ab, hab, href⟩ := List.mem_flatMap.mp hj'
      obtain ⟨pair, hpair, rfl⟩ := List.mem_map.mp hab
      obtain ⟨hleft, hright⟩ := mem_declared_pair hs hpair
      rcases List.mem_cons.mp href with rfl | href
      · exact hleft
      · rw [List.mem_singleton.mp href]
        exact hright

/-- A query with a pivot whose names are in scope is rendered unless a key has no name. -/
theorem renders_of_inScope {p : Planner} {i : MetricInstruction} {q : Query} {name : String}
    (hq : p.compile i = .ok q) (hname : i.pivot = some name)
    (h : InScope q.tableName q.joins q.pivotAlias) : Renders q := by
  cases q with
  | count q =>
    have hnone := Planner.compile_count hq
    rw [hname] at hnone
    cases hnone
  | grouped q =>
    refine ⟨fun hn => hn.elim, fun _ => ⟨_, _, render_grouped_of_inScope h, rfl,
      resolved_selection h, fun z hz => ?_⟩⟩
    cases hz
  | zeroFilled q =>
    have hrender := render_zeroFilled_of_inScope h (measureLabel_not_mem_keys hq)
    refine ⟨fun (hempty : "" ∈ Render.keys q) => ?_, fun (hnamed : "" ∉ Render.keys q) => ?_⟩
    · rw [hrender, if_pos hempty]
    · rw [if_neg hnamed] at hrender
      refine ⟨_, _, hrender, rfl, resolved_selection h, fun z hz => ?_⟩
      obtain rfl : q = z := Query.zeroFilled.inj hz
      refine ⟨rfl, labels_of_named ?_ hnamed⟩
      rw [selectionOf, List.map_map]
      exact List.map_id _

/-- The names of a compiled query with a pivot are in scope along the hops of its join path, and the
query is rendered unless it is zero-filled and a key has no name. -/
theorem compile_scoped {p : Planner} {i : MetricInstruction} {q : Query} {name : String}
    (hq : p.compile i = .ok q) (hname : i.pivot = some name) :
    ∃ entity pivot hops, p.snapshot.entity? i.entity = some entity ∧
      p.snapshot.entity? name = some pivot ∧
      Follows p.snapshot entity q.joinPath hops pivot ∧ q.tableName = entity.tableName ∧
      Scoped q pivot hops ∧ Renders q := by
  obtain ⟨entity, pivot, key, hops, hplan, htable, hzeros⟩ := Planner.compile_planned hq hname
  obtain ⟨name', hname', hpivot⟩ := hplan.pivot_eq
  obtain rfl : name = name' := Option.some.inj (hname.symm.trans hname')
  have hscoped := scoped_of_planned hplan htable hzeros
  exact ⟨entity, pivot, hops, hplan.entity_eq, hpivot, hplan.follows, htable, hscoped,
    renders_of_inScope hq hname hscoped.inScope⟩

/-! ## Orders by the group of their tags -/

/-- Orders have tags through a table in between, and tags belong to groups. -/
def orderSnapshot : Snapshot :=
  { entities :=
      [⟨"Order", "orders", some "id", [], true⟩, ⟨"Tag", "tags", some "id", [], true⟩,
       ⟨"Group", "groups", some "id", ["name"], true⟩]
    associations :=
      [("Order", [⟨"tags", .hasManyThrough, .direct "Tag", [], [],
          some ⟨"order_tags", [("id", "order_id")], [("tag_id", "id")]⟩⟩]),
       ("Tag", [⟨"group", .belongsTo, .direct "Group", [], [("group_id", "id")], none⟩])]
    schemaVersion := none }

/-- The orders by the group of their tags, with the name of the group. -/
def ordersByGroup : ZeroFilledQuery :=
  { entity := "Order", tableName := "orders", pivot := "Group", pivotTableName := "groups"
    pivotAlias := "t3", primaryKey := "id", pivotAttribute := "name", joinPath := ["tags", "group"]
    joins :=
      [⟨"tags", "order_tags", "t1", [⟨"t0", "id", "order_id"⟩]⟩,
       ⟨"tags", "tags", "t2", [⟨"t1", "tag_id", "id"⟩]⟩,
       ⟨"group", "groups", "t3", [⟨"t2", "group_id", "id"⟩]⟩] }

theorem compile_scoped_tags : ∃ pivot hops statement s,
    Scoped (.zeroFilled ordersByGroup) pivot hops ∧
      render (.zeroFilled ordersByGroup) = .ok statement ∧ statement.counted? = some s ∧
      Resolved (.zeroFilled ordersByGroup) s := by
  have hq : (Planner.ofSnapshot orderSnapshot).compile
      ⟨.null, "Order", some "Group", some ["tags", "group"], some "name"⟩ =
        .ok (.zeroFilled ordersByGroup) := by decide +kernel
  obtain ⟨_, pivot, hops, _, _, _, _, hscoped, hrenders⟩ := compile_scoped hq rfl
  have hnamed : "" ∉ Render.keys ordersByGroup := by decide +kernel
  obtain ⟨statement, s, hrender, hcounted, hresolved, _⟩ := hrenders.named hnamed
  exact ⟨pivot, hops, statement, s, hscoped, hrender, hcounted, hresolved⟩

/-- An entity whose primary key has no name. -/
def unkeyedSnapshot : Snapshot :=
  { entities := [⟨"P", "p", some "", ["name"], true⟩], associations := [], schemaVersion := none }

/-- The counts of that entity by itself, with its attribute. -/
def unkeyedCount : ZeroFilledQuery :=
  { entity := "P", tableName := "p", pivot := "P", pivotTableName := "p", pivotAlias := "t0"
    primaryKey := "", pivotAttribute := "name", joinPath := [], joins := [] }

/-- The rendering of a compiled query looks a key without a name up in vain. -/
theorem unkeyed_not_rendered :
    (Planner.ofSnapshot unkeyedSnapshot).compile ⟨.int 1, "P", some "P", none, some "name"⟩ =
        .ok (.zeroFilled unkeyedCount) ∧
      render (.zeroFilled unkeyedCount) = .error (.undeclared "") := by
  refine ⟨by decide +kernel, rfl⟩

end Sql

end EntityAtlas
