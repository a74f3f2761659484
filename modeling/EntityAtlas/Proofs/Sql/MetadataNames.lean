import EntityAtlas.Proofs.Except
import EntityAtlas.Proofs.Graph.Edges
import EntityAtlas.Proofs.Metric.Course
import EntityAtlas.Proofs.Sql.PivotCounts
import EntityAtlas.Proofs.Table
import EntityAtlas.Sql.Evaluate
import EntityAtlas.Sql.Render

/-!
# Where the names in a statement come from

Entity, pivot, attribute and path of an instruction are only compared with names of the snapshot.
The tables of a compiled query are tables of the snapshot, its columns are columns of the snapshot,
and its tables go by numbered names; rendering adds no name but a fixed one. Two instructions that
lead along the same associations to the same pivot are rendered to the same statement, whichever way
they were worded.
-/

namespace EntityAtlas

/-! ## Names of a snapshot -/

namespace Association

/-- All pairs of columns that an association declares. -/
def columnPairs (a : Association) : List (String × String) :=
  a.joinColumns ++
    match a.through with
    | some t => t.sourceColumns ++ t.targetColumns
    | none => []

end Association

namespace Snapshot

/-- The associations of all owners. -/
def owned (s : Snapshot) : List Association := s.associations.flatMap (·.2)

/-- The tables of the entities and those in between of the associations. -/
def tableNames (s : Snapshot) : List String :=
  s.entities.map (·.tableName) ++ s.owned.filterMap fun a => a.through.map (·.tableName)

/-- The primary keys, the attributes and the columns of the associations. -/
def columnNames (s : Snapshot) : List String :=
  (s.entities.flatMap fun e => e.primaryKey.toList ++ e.attributeNames) ++
    s.owned.flatMap fun a => a.columnPairs.flatMap fun c => [c.1, c.2]

end Snapshot

/-! ## Names of a query -/

namespace Query

/-- The tables that a query reads. -/
def tables : Query → List String
  | .count q => [q.tableName]
  | .grouped q => q.tableName :: q.joins.map (·.tableName)
  | .zeroFilled q => q.tableName :: q.pivotTableName :: q.joins.map (·.tableName)

/-- The columns that a query refers to. -/
def columns (q : Query) : List String :=
  q.keys ++ q.joins.flatMap fun j => j.pairs.flatMap fun p => [p.leftColumn, p.rightColumn]

/-- The names that a query gives to tables or refers to them by. -/
def aliases (q : Query) : List String :=
  q.pivotAlias :: q.joins.flatMap fun j => j.label :: j.pairs.map (·.leftAlias)

end Query

namespace Sql

namespace Selection

/-- The tables of a selection. -/
def tables (s : Selection) : List String := (Evaluate.sources s.source).map (·.table)

/-- The columns that a selection refers to. -/
def columns (s : Selection) : List String := (Evaluate.references s).map (·.column)

/-- The names that a selection gives to tables or refers to them by. -/
def aliases (s : Selection) : List String :=
  (Evaluate.sources s.source).map (·.label) ++ (Evaluate.references s).map (·.table)

end Selection

namespace Statement

/-- The selections of a statement. -/
def selections : Statement → List Selection
  | .total _ => []
  | .grouped s => [s]
  | .combined first second => [first, second]

/-- The tables of a statement. -/
def tables : Statement → List String
  | .total table => [table]
  | s => s.selections.flatMap (·.tables)

/-- The columns that a statement refers to. -/
def columns (s : Statement) : List String := s.selections.flatMap (·.columns)

/-- The names that a statement gives to tables or refers to them by. -/
def aliases (s : Statement) : List String := s.selections.flatMap (·.aliases)

end Statement

/-! ## Rendering adds no name -/

namespace Render

theorem source_ok {declared : Table String} {label : String} {s : Source}
    (h : source declared label = .ok s) :
    s.label = label ∧ (label, s.table) ∈ declared := by
  unfold source at h
  cases hfind : declared.find? label with
  | none =>
    rw [hfind] at h
    cases h
  | some table =>
    rw [hfind] at h
    obtain rfl := Except.ok.inj h
    exact ⟨rfl, Table.mem_of_find?_eq_some hfind⟩

theorem condition_ok {declared : Table String} {step : JoinStep} {p : ColumnPair}
    {c : ColumnRef × ColumnRef} (h : condition declared step p = .ok c) :
    (⟨p.leftAlias, p.leftColumn⟩, ⟨step.label, p.rightColumn⟩) = c := by
  obtain ⟨left, hleft, h⟩ := Except.bind_eq_ok.mp h
  rw [← (source_ok hleft).1]
  exact Except.ok.inj h

theorem join_ok {declared : Table String} {step : JoinStep} {j : Join}
    (h : join declared step = .ok j) :
    j.source.label = step.label ∧ (step.label, j.source.table) ∈ declared ∧
      j.conditions = step.pairs.map fun p =>
        (⟨p.leftAlias, p.leftColumn⟩, ⟨step.label, p.rightColumn⟩) := by
  obtain ⟨joined, hjoined, h⟩ := Except.bind_eq_ok.mp h
  obtain ⟨conditions, hconditions, h⟩ := Except.bind_eq_ok.mp h
  obtain rfl := Except.ok.inj h
  obtain ⟨hlabel, htable⟩ := source_ok hjoined
  refine ⟨hlabel, htable, ?_⟩
  have hall := (Except.mapM_eq_ok.mp hconditions).imp fun p c => condition_ok
  rw [← List.forall₂_map_left_iff, List.forall₂_eq_eq_eq] at hall
  exact hall.symm

/-- The joined tables are those of the query, and so are the conditions. -/
theorem joined_ok {tableName pivotAlias : String} {joins : List JoinStep} {f : From}
    (h : joined tableName pivotAlias joins = .ok f) :
    (∀ s ∈ Evaluate.sources f, s.table ∈ tableName :: joins.map (·.tableName) ∧
      s.label ∈ rootLabel :: joins.map (·.label)) ∧
    ∀ j ∈ f.joins, ∀ c ∈ j.conditions, ∃ step ∈ joins, ∃ p ∈ step.pairs,
      c = (⟨p.leftAlias, p.leftColumn⟩, ⟨step.label, p.rightColumn⟩) := by
  obtain ⟨_, _, h⟩ := Except.bind_eq_ok.mp h
  obtain ⟨first, hfirst, h⟩ := Except.bind_eq_ok.mp h
  obtain ⟨js, hjs, h⟩ := Except.bind_eq_ok.mp h
  obtain rfl := Except.ok.inj h
  have hdeclared : ∀ {label table}, (label, table) ∈ tables tableName joins →
      table ∈ tableName :: joins.map (·.tableName) := by
    intro label table hmem
    rcases List.mem_cons.mp (Table.mem_of_mem_ofEntries hmem) with heq | hmem
    · exact List.mem_cons.mpr (.inl (Prod.mk.inj heq).2)
    · obtain ⟨step, hstep, heq⟩ := List.mem_map.mp hmem
      exact List.mem_cons_of_mem _ (List.mem_map.mpr ⟨step, hstep, (Prod.mk.inj heq).2⟩)
  have hjoin : ∀ j ∈ js, ∃ step ∈ joins, join (tables tableName joins) step = .ok j := by
    intro j hj
    exact exists_related (Except.mapM_eq_ok.mp hjs) hj
  constructor
  · intro s hs
    rcases List.mem_cons.mp hs with rfl | hs
    · obtain ⟨hlabel, htable⟩ := source_ok hfirst
      exact ⟨hdeclared htable, List.mem_cons.mpr (.inl hlabel)⟩
    · obtain ⟨j, hj, rfl⟩ := List.mem_map.mp hs
      obtain ⟨step, hstep, hok⟩ := hjoin j hj
      obtain ⟨hlabel, htable, _⟩ := join_ok hok
      refine ⟨hdeclared htable, List.mem_cons_of_mem _ ?_⟩
      exact List.mem_map.mpr ⟨step, hstep, hlabel.symm⟩
  · intro j hj c hc
    obtain ⟨step, hstep, hok⟩ := hjoin j hj
    rw [(join_ok hok).2.2] at hc
    obtain ⟨p, hp, rfl⟩ := List.mem_map.mp hc
    exact ⟨step, hstep, p, hp, rfl⟩

end Render

section Joined

variable {tableName pivotAlias : String} {joins : List JoinStep} {f : From}
  (h : Render.joined tableName pivotAlias joins = .ok f) (keys : List String) (m : Measure)

include h

theorem tables_of_joined :
    ∀ t ∈ Selection.tables ⟨keys.map fun k => ⟨pivotAlias, k⟩, m, f⟩,
      t ∈ tableName :: joins.map (·.tableName) := by
  intro t ht
  obtain ⟨s, hs, rfl⟩ := List.mem_map.mp ht
  exact ((Render.joined_ok h).1 s hs).1

/-- A selection over joined tables refers to its keys and to both sides of the pairs. -/
theorem references_of_joined :
    ∀ ref ∈ Evaluate.references ⟨keys.map fun k => ⟨pivotAlias, k⟩, m, f⟩,
      (ref.table = pivotAlias ∧ ref.column ∈ keys) ∨ ∃ step ∈ joins, ∃ p ∈ step.pairs,
        ref = ⟨p.leftAlias, p.leftColumn⟩ ∨ ref = ⟨step.label, p.rightColumn⟩ := by
  intro ref href
  rcases List.mem_append.mp href with hkey | hcond
  · obtain ⟨k, hk, rfl⟩ := List.mem_map.mp hkey
    exact .inl ⟨rfl, hk⟩
  · obtain ⟨j, hj, hcond⟩ := List.mem_flatMap.mp hcond
    obtain ⟨c, hc, hside⟩ := List.mem_flatMap.mp hcond
    obtain ⟨step, hstep, p, hp, rfl⟩ := (Render.joined_ok h).2 j hj c hc
    refine .inr ⟨step, hstep, p, hp, ?_⟩
    simpa using hside

theorem columns_of_joined :
    ∀ c ∈ Selection.columns ⟨keys.map fun k => ⟨pivotAlias, k⟩, m, f⟩,
      c ∈ keys ++ joins.flatMap fun j => j.pairs.flatMap fun p =>
        [p.leftColumn, p.rightColumn] := by
  intro c hc
  obtain ⟨ref, href, rfl⟩ := List.mem_map.mp hc
  rcases references_of_joined h keys m ref href with ⟨_, hkey⟩ | ⟨step, hstep, p, hp, hside⟩
  · exact List.mem_append_left _ hkey
  · refine List.mem_append_right _ (List.mem_flatMap.mpr ⟨step, hstep, ?_⟩)
    refine List.mem_flatMap.mpr ⟨p, hp, ?_⟩
    rcases hside with rfl | rfl
    · exact List.mem_cons_self
    · exact List.mem_cons_of_mem _ List.mem_cons_self

theorem aliases_of_joined :
    ∀ a ∈ Selection.aliases ⟨keys.map fun k => ⟨pivotAlias, k⟩, m, f⟩,
      a ∈ tableAlias 0 :: pivotAlias :: joins.flatMap fun j =>
        j.label :: j.pairs.map (·.leftAlias) := by
  have hstep : ∀ {step a}, step ∈ joins → a ∈ step.label :: step.pairs.map (·.leftAlias) →
      a ∈ tableAlias 0 :: pivotAlias :: joins.flatMap fun j =>
        j.label :: j.pairs.map (·.leftAlias) := by
    intro step a hstep ha
    refine List.mem_cons_of_mem _ (List.mem_cons_of_mem _ ?_)
    exact List.mem_flatMap.mpr ⟨step, hstep, ha⟩
  intro a ha
  rcases List.mem_append.mp ha with hsource | hcolumn
  · obtain ⟨s, hs, rfl⟩ := List.mem_map.mp hsource
    rcases List.mem_cons.mp ((Render.joined_ok h).1 s hs).2 with hroot | hlabel
    · rw [hroot]
      exact List.mem_cons_self
    · obtain ⟨step, hmem, hlabel⟩ := List.mem_map.mp hlabel
      rw [← hlabel]
      exact hstep hmem List.mem_cons_self
  · obtain ⟨ref, href, rfl⟩ := List.mem_map.mp hcolumn
    rcases references_of_joined h keys m ref href with ⟨hpivot, _⟩ | ⟨step, hmem, p, hp, hside⟩
    · rw [hpivot]
      exact List.mem_cons_of_mem _ List.mem_cons_self
    · rcases hside with rfl | rfl
      · exact hstep hmem (List.mem_cons_of_mem _ (List.mem_map.mpr ⟨p, hp, rfl⟩))
      · exact hstep hmem List.mem_cons_self

end Joined

/-- The zeros of a zero-filled query are read from the table of the pivot, under a name of their
own. -/
theorem names_of_zeros (q : ZeroFilledQuery) :
    (Render.zeros q).tables = [q.pivotTableName] ∧ (Render.zeros q).columns = Render.keys q ∧
      ∀ a ∈ (Render.zeros q).aliases, a = Render.zerosLabel := by
  refine ⟨rfl, ?_, ?_⟩
  · simp [Selection.columns, Evaluate.references, Render.zeros, Function.comp_def]
  · intro a ha
    rcases List.mem_append.mp ha with hsource | hcolumn
    · exact List.mem_singleton.mp hsource
    · obtain ⟨ref, href, rfl⟩ := List.mem_map.mp hcolumn
      rcases List.mem_append.mp href with hkey | hcond
      · obtain ⟨k, _, rfl⟩ := List.mem_map.mp hkey
        rfl
      · exact absurd hcond List.not_mem_nil

/-- What is rendered names the tables, the columns and the names of its query only; the zeros of a
zero-filled query go by a name of their own. -/
theorem names_of_render {q : Query} {st : Statement} (h : render q = .ok st) :
    (∀ t ∈ st.tables, t ∈ q.tables) ∧ (∀ c ∈ st.columns, c ∈ q.columns) ∧
      ∀ a ∈ st.aliases, a = Render.zerosLabel ∨ a ∈ tableAlias 0 :: q.aliases := by
  cases q with
  | count q =>
    obtain rfl := Except.ok.inj h
    exact ⟨fun t ht => ht, fun c hc => absurd hc List.not_mem_nil,
      fun a ha => absurd ha List.not_mem_nil⟩
  | grouped q =>
    obtain ⟨f, hf, h⟩ := Except.bind_eq_ok.mp h
    obtain rfl := Except.ok.inj h
    have htables := tables_of_joined hf [q.groupBy] .count
    have hcolumns := columns_of_joined hf [q.groupBy] .count
    have haliases := aliases_of_joined hf [q.groupBy] .count
    simp only [Statement.tables, Statement.columns, Statement.aliases, Statement.selections,
      List.flatMap_cons, List.flatMap_nil, List.append_nil]
    exact ⟨htables, hcolumns, fun a ha => .inr (haliases a ha)⟩
  | zeroFilled q =>
    obtain ⟨f, hf, h⟩ := Except.bind_eq_ok.mp h
    have htables := tables_of_joined hf (Render.keys q) .count
    have hcolumns := columns_of_joined hf (Render.keys q) .count
    have haliases := aliases_of_joined hf (Render.keys q) .count
    by_cases hclash : (Render.keys q).contains measureLabel = true
    · rw [if_pos hclash] at h
      cases h
    by_cases hempty : (Render.keys q).contains "" = true
    · rw [if_neg hclash, if_pos hempty] at h
      cases h
    rw [if_neg hclash, if_neg hempty] at h
    obtain rfl := Except.ok.inj h
    obtain ⟨hzeroTables, hzeroColumns, hzeroAliases⟩ := names_of_zeros q
    simp only [Statement.tables, Statement.columns, Statement.aliases, Statement.selections,
      List.flatMap_cons, List.flatMap_nil, List.append_nil]
    refine ⟨fun t ht => ?_, fun c hc => ?_, fun a ha => ?_⟩
    · rcases List.mem_append.mp ht with ht | ht
      · rcases List.mem_cons.mp (htables t ht) with rfl | ht
        · exact List.mem_cons_self
        · exact List.mem_cons_of_mem _ (List.mem_cons_of_mem _ ht)
      · rw [hzeroTables, List.mem_singleton] at ht
        rw [ht]
        exact List.mem_cons_of_mem _ List.mem_cons_self
    · rcases List.mem_append.mp hc with hc | hc
      · exact hcolumns c hc
      · rw [hzeroColumns] at hc
        exact List.mem_append_left _ hc
    · rcases List.mem_append.mp ha with ha | ha
      · exact .inr (haliases a ha)
      · exact .inl (hzeroAliases a ha)

end Sql

/-! ## Compiling adds no name -/

namespace Snapshot

variable {s : Snapshot}

theorem tableName_mem {e : Entity} (he : e ∈ s.entities) : e.tableName ∈ s.tableNames :=
  List.mem_append_left _ (List.mem_map.mpr ⟨e, he, rfl⟩)

theorem throughTable_mem {a : Association} {t : ThroughTable} (ha : a ∈ s.owned)
    (ht : a.through = some t) : t.tableName ∈ s.tableNames :=
  List.mem_append_right _ (List.mem_filterMap.mpr ⟨a, ha, by rw [ht]; rfl⟩)

theorem key_mem {e : Entity} {key : String} (he : e ∈ s.entities) (hkey : e.primaryKey = some key) :
    key ∈ s.columnNames := by
  refine List.mem_append_left _ (List.mem_flatMap.mpr ⟨e, he, List.mem_append_left _ ?_⟩)
  rw [hkey]
  exact List.mem_singleton.mpr rfl

theorem attribute_mem {e : Entity} {name : String} (he : e ∈ s.entities)
    (hname : name ∈ e.attributeNames) : name ∈ s.columnNames :=
  List.mem_append_left _ (List.mem_flatMap.mpr ⟨e, he, List.mem_append_right _ hname⟩)

theorem columns_mem {a : Association} {c : String × String} (ha : a ∈ s.owned)
    (hc : c ∈ a.columnPairs) : c.1 ∈ s.columnNames ∧ c.2 ∈ s.columnNames := by
  have hpair : ∀ x ∈ [c.1, c.2], x ∈ s.columnNames := fun x hx =>
    List.mem_append_right _ (List.mem_flatMap.mpr ⟨a, ha, List.mem_flatMap.mpr ⟨c, hc, hx⟩⟩)
  exact ⟨hpair _ List.mem_cons_self, hpair _ (List.mem_cons_of_mem _ List.mem_cons_self)⟩

theorem mem_owned {owner : String} {a : Association} (ha : a ∈ s.associationsOf owner) :
    a ∈ s.owned := by
  obtain ⟨l, hl, hmem⟩ := Table.mem_of_mem_findD ha
  exact List.mem_flatMap.mpr ⟨_, hl, hmem⟩

/-- The tables joined along an association, and their columns, are those of the snapshot. -/
theorem legs_mem {a : Association} {target : Entity} (ha : a ∈ s.owned)
    (ht : target ∈ s.entities) : ∀ l ∈ a.legs target, l.table ∈ s.tableNames ∧
      ∀ c ∈ l.columns, c.1 ∈ s.columnNames ∧ c.2 ∈ s.columnNames := by
  intro l hl
  unfold Association.legs at hl
  cases hthrough : a.through with
  | none =>
    simp only [hthrough, List.mem_singleton] at hl
    subst hl
    refine ⟨tableName_mem ht, fun c hc => columns_mem ha ?_⟩
    exact List.mem_append_left _ hc
  | some t =>
    have hpairs : ∀ c ∈ t.sourceColumns ++ t.targetColumns, c ∈ a.columnPairs := by
      intro c hc
      unfold Association.columnPairs
      rw [hthrough]
      exact List.mem_append_right _ hc
    simp only [hthrough, List.mem_cons, List.not_mem_nil, or_false] at hl
    rcases hl with rfl | rfl
    · refine ⟨throughTable_mem ha hthrough, fun c hc => columns_mem ha (hpairs c ?_)⟩
      exact List.mem_append_left _ hc
    · refine ⟨tableName_mem ht, fun c hc => columns_mem ha (hpairs c ?_)⟩
      exact List.mem_append_right _ hc

end Snapshot

/-- The names in a join step: its table and its columns are those of a snapshot, and it numbers the
tables that it joins. -/
structure JoinStep.DrawnFrom (j : JoinStep) (s : Snapshot) : Prop where
  table : j.tableName ∈ s.tableNames
  label : ∃ n, j.label = tableAlias n
  pairs : ∀ p ∈ j.pairs, p.leftColumn ∈ s.columnNames ∧ p.rightColumn ∈ s.columnNames ∧
    ∃ n, p.leftAlias = tableAlias n

theorem drawnFrom_stepsFrom {s : Snapshot} {hops : List Hop}
    (h : ∀ x ∈ hops, (∃ owner, x.1 ∈ s.associationsOf owner) ∧ x.2 ∈ s.entities) :
    ∀ j ∈ Planner.stepsFrom 0 (legsOf hops), j.DrawnFrom s := by
  intro j hj
  obtain ⟨k, l, hl, rfl⟩ := Sql.mem_stepsFrom hj
  obtain ⟨x, hx, hleg⟩ := List.mem_flatMap.mp (List.mem_of_getElem? hl)
  obtain ⟨⟨owner, howner⟩, htarget⟩ := h x hx
  obtain ⟨htable, hcolumns⟩ := Snapshot.legs_mem (Snapshot.mem_owned howner) htarget l hleg
  refine ⟨htable, ⟨k + 1, rfl⟩, fun p hp => ?_⟩
  obtain ⟨c, hc, rfl⟩ := List.mem_map.mp hp
  obtain ⟨hleft, hright⟩ := hcolumns c hc
  exact ⟨hleft, hright, k, rfl⟩

/-- The names of a query: the tables and the columns of a snapshot, and numbered names. -/
structure Query.DrawnFrom (q : Query) (s : Snapshot) : Prop where
  tables : ∀ t ∈ q.tables, t ∈ s.tableNames
  columns : ∀ c ∈ q.columns, c ∈ s.columnNames
  aliases : ∀ a ∈ q.aliases, ∃ n, a = tableAlias n

/-- The names of a statement: the tables and the columns of a snapshot, and numbered names, next to
the one under which the zeros of a zero-filled query are read. -/
structure Sql.Statement.DrawnFrom (st : Sql.Statement) (s : Snapshot) : Prop where
  tables : ∀ t ∈ st.tables, t ∈ s.tableNames
  columns : ∀ c ∈ st.columns, c ∈ s.columnNames
  aliases : ∀ a ∈ st.aliases, a = Sql.Render.zerosLabel ∨ ∃ n, a = tableAlias n

theorem Query.DrawnFrom.render {q : Query} {s : Snapshot} {st : Sql.Statement}
    (h : q.DrawnFrom s) (hst : Sql.render q = .ok st) : st.DrawnFrom s := by
  obtain ⟨htables, hcolumns, haliases⟩ := Sql.names_of_render hst
  refine ⟨fun t ht => h.tables t (htables t ht), fun c hc => h.columns c (hcolumns c hc), ?_⟩
  intro a ha
  refine (haliases a ha).imp_right fun hmem => ?_
  rcases List.mem_cons.mp hmem with rfl | hmem
  · exact ⟨0, rfl⟩
  · exact h.aliases a hmem

/-- A query is drawn from a snapshot if its joins, its keys and its other tables are. -/
theorem Query.drawnFrom_of_joins {q : Query} {s : Snapshot} (hjoins : ∀ j ∈ q.joins, j.DrawnFrom s)
    (hkeys : ∀ k ∈ q.keys, k ∈ s.columnNames) (halias : ∃ n, q.pivotAlias = tableAlias n)
    (htables : ∀ t ∈ q.tables, t ∈ s.tableNames ∨ t ∈ q.joins.map (·.tableName)) :
    q.DrawnFrom s := by
  refine ⟨fun t ht => ?_, fun c hc => ?_, fun a ha => ?_⟩
  · rcases htables t ht with ht | ht
    · exact ht
    · obtain ⟨j, hj, rfl⟩ := List.mem_map.mp ht
      exact (hjoins j hj).table
  · rcases List.mem_append.mp hc with hc | hc
    · exact hkeys c hc
    · obtain ⟨j, hj, hc⟩ := List.mem_flatMap.mp hc
      obtain ⟨p, hp, hc⟩ := List.mem_flatMap.mp hc
      obtain ⟨hleft, hright, _⟩ := (hjoins j hj).pairs p hp
      rcases List.mem_cons.mp hc with rfl | hc
      · exact hleft
      · rw [List.mem_singleton.mp hc]
        exact hright
  · rcases List.mem_cons.mp ha with rfl | ha
    · exact halias
    · obtain ⟨j, hj, ha⟩ := List.mem_flatMap.mp ha
      rcases List.mem_cons.mp ha with rfl | ha
      · exact (hjoins j hj).label
      · obtain ⟨p, hp, rfl⟩ := List.mem_map.mp ha
        exact ((hjoins j hj).pairs p hp).2.2

theorem LeadsTo.drawnFrom {p : Planner} {i : MetricInstruction} {c : Course} (h : LeadsTo p i c)
    (hadmitted : c.Admitted) : c.query.DrawnFrom p.snapshot := by
  have hjoins : ∀ j ∈ c.query.joins, j.DrawnFrom p.snapshot := by
    rw [c.joins_query]
    exact drawnFrom_stepsFrom h.mem_hops
  cases h with
  | total he hnone =>
    refine Query.drawnFrom_of_joins hjoins (fun k hk => absurd hk List.not_mem_nil) ⟨0, rfl⟩ ?_
    intro t ht
    rw [List.mem_singleton.mp ht]
    exact .inl (Snapshot.tableName_mem (List.mem_of_find?_eq_some he))
  | @grouped entity pivot name key path hops he hname hp hkey hpath hF =>
    have hentity := Snapshot.tableName_mem (List.mem_of_find?_eq_some he)
    have hpivot : pivot ∈ p.snapshot.entities := List.mem_of_find?_eq_some hp
    have hprimary := Snapshot.key_mem hpivot hkey
    cases hattr : i.pivotAttribute with
    | none =>
      rw [hattr] at hjoins
      refine Query.drawnFrom_of_joins hjoins ?_ ⟨_, rfl⟩ ?_
      · intro k hk
        rw [List.mem_singleton.mp hk]
        exact hprimary
      · intro t ht
        rcases List.mem_cons.mp ht with rfl | ht
        · exact .inl hentity
        · exact .inr ht
    | some reported =>
      have hreported := Snapshot.attribute_mem hpivot (hadmitted.reported _ reported rfl hattr)
      rw [hattr] at hjoins
      refine Query.drawnFrom_of_joins hjoins ?_ ⟨_, rfl⟩ ?_
      · intro k hk
        rcases Sql.mem_keys hk with rfl | rfl
        · exact hprimary
        · exact hreported
      · intro t ht
        rcases List.mem_cons.mp ht with rfl | ht
        · exact .inl hentity
        · rcases List.mem_cons.mp ht with rfl | ht
          · exact .inl (Snapshot.tableName_mem hpivot)
          · exact .inr ht

/-! ## The wording of an instruction does not show -/

/-- Two courses go from the same entity along the same associations to the same pivot and report the
same attribute of it. -/
structure Course.Alike (c c' : Course) : Prop where
  entity_eq : c.entity = c'.entity
  pivot_eq : c.grouping.map (·.pivot) = c'.grouping.map (·.pivot)
  walk_eq : c.hops.map (·.1) = c'.hops.map (·.1)
  reported_eq : c.grouping.map (·.reported) = c'.grouping.map (·.reported)

theorem LeadsTo.eq_of_alike {p : Planner} {i i' : MetricInstruction} {c c' : Course}
    (h : LeadsTo p i c) (h' : LeadsTo p i' c') (halike : c.Alike c') : c = c' := by
  obtain ⟨hentity, hpivot, hwalk, hreported⟩ := halike
  cases h with
  | @total entity _ _ =>
    cases h' with
    | @total entity' _ _ =>
      obtain rfl : entity = entity' := hentity
      rfl
    | grouped _ _ _ _ _ _ => cases hpivot
  | @grouped entity pivot name key path hops _ _ _ hkey _ hF =>
    cases h' with
    | total _ _ => cases hpivot
    | @grouped entity' pivot' name' key' path' hops' _ _ _ hkey' _ hF' =>
      obtain rfl : entity = entity' := hentity
      obtain rfl : pivot = pivot' := Option.some.inj hpivot
      obtain rfl := Option.some.inj (hkey.symm.trans hkey')
      -- the names of the associations are the path, and a path leads along one list of hops only
      have hpath : path = path' := by
        have hnames := congrArg (List.map (·.name)) hwalk
        rw [List.map_map, List.map_map] at hnames
        exact hF.path_eq.trans (hnames.trans hF'.path_eq.symm)
      subst hpath
      obtain ⟨rfl, _⟩ := hF.unique hF'
      have hsame : i.pivotAttribute = i'.pivotAttribute := Option.some.inj hreported
      rw [hsame]

/-- Where the names of compiled queries come from. The tables and the columns of a query, and of the
statement that it is rendered to, are those of the snapshot, and its tables go by numbered names.
Instructions that lead from the same entity along the same associations to the same pivot and report
the same attribute are rendered alike, whether the path is given or found: so no text of an
instruction shows in the statement but as a name of the snapshot. -/
theorem names_from_metadata {p : Planner} {i : MetricInstruction} {q : Query}
    (hq : p.compile i = .ok q) :
    q.DrawnFrom p.snapshot ∧
      (∀ st, Sql.render q = .ok st → st.DrawnFrom p.snapshot) ∧
      ∃ c, LeadsTo p i c ∧ ∀ i' q' c', p.compile i' = .ok q' → LeadsTo p i' c' → c.Alike c' →
        Sql.render q' = Sql.render q := by
  obtain ⟨c, hleads, hadmitted, rfl⟩ := query_of_compile hq
  have hdrawn := hleads.drawnFrom hadmitted
  refine ⟨hdrawn, fun st hst => hdrawn.render hst, c, hleads, ?_⟩
  intro i' q' c' hq' hleads' halike
  obtain ⟨d, hd, _, rfl⟩ := query_of_compile hq'
  rw [hd.unique hleads', hleads.eq_of_alike hleads' halike]

/-! ## Parcels by the city of their sender -/

/-- Parcels lie in a depot and have a sender; depots and senders are in cities. -/
def parcelSnapshot : Snapshot :=
  { entities :=
      [⟨"Parcel", "parcels", some "id", [], true⟩, ⟨"Person", "people", some "id", [], true⟩,
       ⟨"Depot", "depots", some "id", [], true⟩, ⟨"City", "cities", some "id", ["name"], true⟩]
    associations :=
      [("Parcel",
        [reference "sender" "sender_id" "Person", reference "depot" "depot_id" "Depot"]),
       ("Person", [reference "city" "city_id" "City"]),
       ("Depot", [reference "city" "location_id" "City"])]
    schemaVersion := none }

/-- The parcels sent from every city, by its name. -/
def parcelsByCity : ZeroFilledQuery :=
  { entity := "Parcel", tableName := "parcels", pivot := "City", pivotTableName := "cities"
    pivotAlias := "t2", primaryKey := "id", pivotAttribute := "name"
    joinPath := ["sender", "city"]
    joins :=
      [⟨"sender", "people", "t1", [⟨"t0", "sender_id", "id"⟩]⟩,
       ⟨"city", "cities", "t2", [⟨"t1", "city_id", "id"⟩]⟩] }

/-- From parcels along their senders to cities. -/
def sentFrom : Course :=
  { entity := ⟨"Parcel", "parcels", some "id", [], true⟩
    grouping := some
      { pivot := ⟨"City", "cities", some "id", ["name"], true⟩
        key := "id"
        hops :=
          [(reference "sender" "sender_id" "Person", ⟨"Person", "people", some "id", [], true⟩),
           (reference "city" "city_id" "City", ⟨"City", "cities", some "id", ["name"], true⟩)]
        reported := some "name" } }

theorem names_from_metadata_parcels :
    (∃ st, Sql.render (.zeroFilled parcelsByCity) = .ok st ∧ st.DrawnFrom parcelSnapshot) ∧
      ∀ q, (Planner.ofSnapshot parcelSnapshot).compile
          ⟨.int 2, "Parcel", some "City", some ["sender", "city"], some "name"⟩ = .ok q →
        Sql.render q = Sql.render (.zeroFilled parcelsByCity) := by
  have hq : (Planner.ofSnapshot parcelSnapshot).compile
      ⟨.int 1, "Parcel", some "City", none, some "name"⟩ = .ok (.zeroFilled parcelsByCity) := by
    decide +kernel
  have hF : Follows parcelSnapshot ⟨"Parcel", "parcels", some "id", [], true⟩ ["sender", "city"]
      sentFrom.hops ⟨"City", "cities", some "id", ["name"], true⟩ := by
    refine .hop (by decide +kernel) rfl (by decide +kernel) ?_
    exact .hop (by decide +kernel) rfl (by decide +kernel) (.stay _)
  have hfound : LeadsTo (Planner.ofSnapshot parcelSnapshot)
      ⟨.int 1, "Parcel", some "City", none, some "name"⟩ sentFrom :=
    .grouped (by decide +kernel) rfl (by decide +kernel) rfl (by decide +kernel) hF
  have hgiven : LeadsTo (Planner.ofSnapshot parcelSnapshot)
      ⟨.int 2, "Parcel", some "City", some ["sender", "city"], some "name"⟩ sentFrom :=
    .grouped (by decide +kernel) rfl (by decide +kernel) rfl rfl hF
  obtain ⟨_, hdrawn, c, hleads, hsame⟩ := names_from_metadata hq
  obtain rfl := hleads.unique hfound
  exact ⟨⟨_, rfl, hdrawn _ rfl⟩, fun q hq' => hsame _ q _ hq' hgiven ⟨rfl, rfl, rfl, rfl⟩⟩

end EntityAtlas
