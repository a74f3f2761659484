import EntityAtlas.Proofs.Sql.PivotCounts

/-!
# The column of the counts

A pivot whose key, or an attribute that, is spelled like the label of the counts is refused. A
database knows the columns of the union of a zero-filled count by their names up to letter case, so
a key of another spelling can still be the first column that goes by the name of the counts. The
greatest value is taken of the counts exactly if there is no such key; if there is one, every row
has the value of a key where its count should be. Grouped counts do not refer to a column by its
label.
-/

namespace EntityAtlas

namespace Query

/-- A key of a zero-filled query goes by the name of the counts. -/
def Shadowed : Query → Prop
  | .count _ => False
  | .grouped _ => False
  | .zeroFilled q => ∃ k ∈ Sql.Render.keys q, Sql.sameName k Sql.measureLabel = true

/-- After its key values a row has the number of tuples with these values. -/
def ShowsCount (q : Query) (db : Sql.Database) (row : Sql.Row) : Prop :=
  row[q.keys.length]? = some (.int ((Sql.joinedTuples db q.tableName q.joins).countP fun t =>
    Sql.lastValues db q.tableName q.joins q.keys t = row.take q.keys.length))

/-- After its key values a row has once more the value of a key that goes by the name of the
counts. -/
def ShowsKey (q : Query) (row : Sql.Row) : Prop :=
  ∃ (j : Nat) (key : String), q.keys[j]? = some key ∧ Sql.sameName key Sql.measureLabel = true ∧
    row[q.keys.length]? = row[j]?

end Query

namespace Sql

/-- In a union the label of the counts refers to the column after the keys exactly if no key goes by
that name. -/
theorem unionPosition_measure_iff {s : Selection} {columns : List String}
    (hs : s.keys.map (·.column) = columns) (hnamed : "" ∉ columns) :
    Evaluate.unionPosition s measureLabel = columns.length ↔
      ¬∃ k ∈ columns, sameName k measureLabel = true := by
  constructor
  · rintro hposition ⟨k, hk, hsame⟩
    obtain ⟨i, hi⟩ := List.getElem?_of_mem hk
    obtain ⟨j, key, hj, hkey, _⟩ :=
      unionPosition_of_key hs hnamed hi ((sameName_comm _ _).trans hsame)
    have hlt : j < columns.length := (List.getElem?_eq_some_iff.mp hkey).1
    omega
  · intro hnone
    exact unionPosition_measure hs hnamed fun k hk =>
      Bool.eq_false_iff.mpr fun hsame => hnone ⟨k, hk, hsame⟩

theorem showsCount_append {q : Query} {db : Database} {r : Row × Nat}
    (hlength : r.1.length = q.keys.length)
    (hcount : r.2 = (joinedTuples db q.tableName q.joins).countP fun t =>
      lastValues db q.tableName q.joins q.keys t = r.1) :
    q.ShowsCount db (r.1 ++ [.int r.2]) := by
  unfold Query.ShowsCount
  rw [← hlength, List.getElem?_concat_length, List.take_left, ← hcount]

/-- Every row of a grouped count shows its count, whatever the key is called. -/
theorem showsCount_grouped {q : GroupedQuery} {db : Database} {legs : List Leg}
    (hjoins : q.joins = Planner.stepsFrom 0 legs) (hlabel : q.pivotAlias = tableAlias legs.length)
    (hpairs : ∀ s ∈ q.joins, s.pairs ≠ [])
    (hdb : db.Holds q.tableName q.joins q.pivotAlias [q.groupBy]) :
    ∃ rows, (Statement.grouped (countsBy q.tableName legs [q.groupBy])).run db = .ok rows ∧
      ∀ row ∈ rows, (Query.grouped q).ShowsCount db row := by
  have htuples := joinedTuples_stepsFrom db q.tableName legs
  rw [← hjoins] at htuples
  rw [hjoins, hlabel] at hdb
  rw [hjoins] at hpairs
  obtain ⟨values, hrun, _, hvalues⟩ := rows_countsBy hpairs hdb
  refine ⟨_, hrun, fun row hrow => ?_⟩
  obtain ⟨r, hr, rfl⟩ := List.mem_map.mp hrow
  obtain ⟨_, hcount⟩ := (hvalues r.1 r.2).mp hr
  rw [← hjoins, ← htuples] at hcount
  exact showsCount_append (r := ([r.1], r.2)) rfl hcount

/-- Every row of a zero-filled count shows its count unless a key goes by the name of the counts;
then every row shows a key. -/
theorem shows_zeroFilled {q : ZeroFilledQuery} {db : Database} {legs : List Leg}
    (hjoins : q.joins = Planner.stepsFrom 0 legs) (hlabel : q.pivotAlias = tableAlias legs.length)
    (hlast : lastTable q.tableName (Planner.stepsFrom 0 legs) = q.pivotTableName)
    (hnamed : "" ∉ Render.keys q) (hpairs : ∀ s ∈ q.joins, s.pairs ≠ [])
    (hdb : db.Holds q.tableName q.joins q.pivotAlias (Render.keys q)) :
    ∃ rows,
      (Statement.combined (countsBy q.tableName legs (Render.keys q)) (Render.zeros q)).run db =
        .ok rows ∧
      (¬(Query.zeroFilled q).Shadowed → ∀ row ∈ rows, (Query.zeroFilled q).ShowsCount db row) ∧
      ((Query.zeroFilled q).Shadowed → ∀ row ∈ rows, (Query.zeroFilled q).ShowsKey row) := by
  have htuples := joinedTuples_stepsFrom db q.tableName legs
  rw [← hjoins] at htuples
  rw [hjoins, hlabel] at hdb
  rw [hjoins] at hpairs
  by_cases hshadowed : (Query.zeroFilled q).Shadowed
  · obtain ⟨rows, hrun, hrows⟩ := rows_shadowed hpairs hdb hlast hnamed hshadowed
    exact ⟨rows, hrun, fun h => absurd hshadowed h, fun _ => hrows⟩
  · have hkeys : ∀ k ∈ Render.keys q, sameName k measureLabel = false := fun k hk =>
      Bool.eq_false_iff.mpr fun hsame => hshadowed ⟨k, hk, hsame⟩
    obtain ⟨rows, hrun, _, hrows⟩ := rows_union hpairs hdb hlast hnamed hkeys
    refine ⟨_, hrun, fun _ row hrow => ?_, fun h => absurd h hshadowed⟩
    obtain ⟨r, hr, rfl⟩ := List.mem_map.mp hrow
    obtain ⟨hmem, hcount⟩ := (hrows r.1 r.2).mp hr
    rw [← hjoins, ← htuples] at hcount
    exact showsCount_append (length_of_mem_pivotKeys hmem) hcount

/-- What stands in the column of the counts. No key of a query that compiles is spelled like the
label of the counts. The union of a zero-filled query takes the greatest value of the column after
the keys exactly if no key goes by the name of the counts in another spelling. Over every database
that holds the tables and columns of the query, each row of what it is rendered to shows its count
then, as each row of a grouped count always does, and else the value of a key. -/
theorem count_column {p : Planner} {i : MetricInstruction} {q : Query} {name : String}
    (hq : p.compile i = .ok q) (hname : i.pivot = some name) :
    (∀ k ∈ q.keys, k ≠ measureLabel) ∧
      (∀ counts zeros, render q = .ok (.combined counts zeros) →
        (Evaluate.unionPosition counts measureLabel = q.keys.length ↔ ¬q.Shadowed)) ∧
      ∀ (db : Database) (statement : Statement), (∀ s ∈ q.joins, s.pairs ≠ []) →
        db.Holds q.tableName q.joins q.pivotAlias q.keys → render q = .ok statement →
        ∃ rows, statement.run db = .ok rows ∧
          (¬q.Shadowed → ∀ row ∈ rows, q.ShowsCount db row) ∧
          (q.Shadowed → ∀ row ∈ rows, q.ShowsKey row) := by
  cases q with
  | count q =>
    have hnone := Planner.compile_count hq
    rw [hname] at hnone
    cases hnone
  | grouped q =>
    obtain ⟨_, _, _, hplan, _⟩ := Planner.compile_grouped hq
    have hrender := render_grouped hplan.joins_eq hplan.label_eq
    refine ⟨List.forall_mem_singleton.mpr hplan.key_ne, fun counts zeros h => ?_,
      fun db statement hpairs hdb h => ?_⟩
    · rw [hrender] at h
      cases h
    · obtain rfl := Except.ok.inj (hrender.symm.trans h)
      obtain ⟨rows, hrun, hrows⟩ :=
        showsCount_grouped hplan.joins_eq hplan.label_eq hpairs hdb
      exact ⟨rows, hrun, fun _ => hrows, False.elim⟩
  | zeroFilled q =>
    obtain ⟨_, _, hops, hplan, _, htable, _, hpivot, _⟩ := Planner.compile_zeroFilled hq
    have hlast := lastTable_of_follows hplan.follows
    rw [← htable, ← hpivot] at hlast
    have hmeasure := measureLabel_not_mem_keys hq
    have hrender := render_zeroFilled hplan.joins_eq hplan.label_eq hmeasure
    have hnamed : ∀ {statement}, render (.zeroFilled q) = .ok statement →
        "" ∉ Render.keys q ∧ Statement.combined
          (countsBy q.tableName (legsOf hops) (Render.keys q)) (Render.zeros q) = statement := by
      intro statement h
      rw [hrender] at h
      split at h
      case isTrue => cases h
      case isFalse hne => exact ⟨hne, Except.ok.inj h⟩
    refine ⟨fun k hk heq => hmeasure (heq ▸ hk), fun counts zeros h => ?_,
      fun db statement hpairs hdb h => ?_⟩
    · obtain ⟨hne, heq⟩ := hnamed h
      obtain ⟨rfl, _⟩ := Statement.combined.inj heq
      exact unionPosition_measure_iff (columns_countsBy _ _ _) hne
    · obtain ⟨hne, rfl⟩ := hnamed h
      exact shows_zeroFilled hplan.joins_eq hplan.label_eq hlast hne hpairs hdb

theorem count_column_press : ∃ statement rows,
    render (.zeroFilled pagesOfAuthors) = .ok statement ∧
      statement.run pressDatabase = .ok rows ∧
      ∀ row ∈ rows, (Query.zeroFilled pagesOfAuthors).ShowsCount pressDatabase row := by
  have hq : (Planner.ofSnapshot pressSnapshot).compile
      ⟨.null, "Page", some "Author", none, some "name"⟩ = .ok (.zeroFilled pagesOfAuthors) := by
    decide +kernel
  have hdb : pressDatabase.Holds pagesOfAuthors.tableName pagesOfAuthors.joins
      pagesOfAuthors.pivotAlias (Render.keys pagesOfAuthors) := by decide +kernel
  have hclear : ¬∃ k ∈ Render.keys pagesOfAuthors, sameName k measureLabel = true := by
    decide +kernel
  have hpairs : ∀ s ∈ pagesOfAuthors.joins, s.pairs ≠ [] := by decide +kernel
  obtain ⟨statement, hrender⟩ : ∃ statement, render (.zeroFilled pagesOfAuthors) = .ok statement :=
    ⟨_, rfl⟩
  obtain ⟨_, _, hrows⟩ := count_column hq rfl
  obtain ⟨rows, hrun, hcounts, _⟩ := hrows pressDatabase statement hpairs hdb hrender
  exact ⟨statement, rows, hrender, hrun, hcounts hclear⟩

/-! ## An attribute in capitals -/

/-- An entity with an attribute that is named like the counts, in capitals. -/
def capitalsSnapshot : Snapshot :=
  { entities := [⟨"P", "p", some "id", ["id", "COUNT"], true⟩], associations := []
    schemaVersion := none }

/-- The counts of that entity by itself with this attribute. -/
def capitals : ZeroFilledQuery :=
  { entity := "P", tableName := "p", pivot := "P", pivotTableName := "p", pivotAlias := "t0"
    primaryKey := "id", pivotAttribute := "COUNT", joinPath := [], joins := [] }

/-- One row, whose attribute is a word. -/
def capitalsDatabase : Database := [("p", ⟨["id", "COUNT"], [[.int 1, .text "many"]]⟩)]

theorem sameName_capitals : sameName measureLabel "COUNT" = true := by
  have hupper : "COUNT".toLower = "count" := by decide +kernel
  have hlower : "count".toLower = "count" := by decide +kernel
  exact decide_eq_true (hlower.trans hupper.symm)

/-- The query compiles, and its one row has the word in the place of its count. -/
theorem capitals_shadow_count :
    (Planner.ofSnapshot capitalsSnapshot).compile ⟨.int 1, "P", some "P", none, some "COUNT"⟩ =
        .ok (.zeroFilled capitals) ∧
      capitalsDatabase.Holds capitals.tableName capitals.joins capitals.pivotAlias
        (Render.keys capitals) ∧
      (Query.zeroFilled capitals).Shadowed ∧
      ∃ statement, render (.zeroFilled capitals) = .ok statement ∧
        statement.run capitalsDatabase = .ok [[.int 1, .text "many", .text "many"]] := by
  have hpairs : ∀ s ∈ Planner.stepsFrom 0 [], s.pairs ≠ [] := by decide +kernel
  have hdb : capitalsDatabase.Holds capitals.tableName (Planner.stepsFrom 0 []) (tableAlias 0)
      (Render.keys capitals) := by decide +kernel
  have hposition : Evaluate.unionPosition
      (countsBy capitals.tableName [] (Render.keys capitals)) measureLabel = 1 := by
    have hother : ¬sameName measureLabel "id" = true := by decide +kernel
    have hfirst : ["id", "COUNT", "count"].findIdx? (sameName measureLabel) = some 1 := by
      rw [List.findIdx?_cons, if_neg hother, List.findIdx?_cons, if_pos sameName_capitals]
      rfl
    exact congrArg (·.getD 0) hfirst
  refine ⟨by decide +kernel, hdb, ?_, _, rfl, (run_combined hpairs hdb rfl).trans ?_⟩
  · exact ⟨"COUNT", by decide +kernel, (sameName_comm _ _).trans sameName_capitals⟩
  · rw [hposition]
    decide +kernel

end Sql

end EntityAtlas
