import EntityAtlas.Proofs.Sql.Evaluation
import EntityAtlas.Proofs.Sql.Order

/-!
# Grouped counts

A grouped count has one row for every key value of the pivot that the last row of some tuple has,
with the number of those tuples, in the order of the key values. The tuples are the ways along the
associations of the join path.
-/

namespace EntityAtlas.Sql

open Evaluate

/-- A grouped query whose names are in scope is rendered to the counts by its key. -/
theorem render_grouped_of_inScope {q : GroupedQuery}
    (h : InScope q.tableName q.joins q.pivotAlias) :
    render (.grouped q) =
      .ok (.grouped (selectionOf q.tableName q.joins q.pivotAlias [q.groupBy])) := by
  show Render.grouped q = _
  unfold Render.grouped
  rw [h.joined_eq]
  rfl

/-- Planned joins are rendered to the counts by a column of the table joined last. -/
theorem render_grouped {q : GroupedQuery} {legs : List Leg}
    (hjoins : q.joins = Planner.stepsFrom 0 legs) (hlabel : q.pivotAlias = tableAlias legs.length) :
    render (.grouped q) = .ok (.grouped (countsBy q.tableName legs [q.groupBy])) := by
  have hscope := inScope_stepsFrom q.tableName legs
  rw [← hjoins, ← hlabel] at hscope
  rw [render_grouped_of_inScope hscope, hjoins, hlabel]
  rfl

/-- What a database answers to the counts by some columns. -/
theorem run_countsBy {db : Database} {tableName : String} {legs : List Leg} {columns : List String}
    (hpairs : ∀ s ∈ Planner.stepsFrom 0 legs, s.pairs ≠ [])
    (hdb : db.Holds tableName (Planner.stepsFrom 0 legs) (tableAlias legs.length) columns) :
    (Statement.grouped (countsBy tableName legs columns)).run db =
      .ok (selectionRows (scopeOf db (takingPart tableName (Planner.stepsFrom 0 legs)))
        (countsBy tableName legs columns)) := by
  have hform : (Statement.grouped (countsBy tableName legs columns)).checkForm = .ok () :=
    checkForm_countsBy rfl hpairs
  have hscope : scope db (countsBy tableName legs columns).source =
      .ok (scopeOf db (takingPart tableName (Planner.stepsFrom 0 legs))) := scope_fromOf hdb.tables
  simp only [Statement.run, Statement.rows, hform, hscope, checkColumns_countsBy hdb, bind,
    Except.bind]
  rfl

/-- The rows of the counts by one column: the values that the last row of some tuple has in it, each
with the number of those tuples. -/
theorem rows_countsBy {db : Database} {tableName key : String} {legs : List Leg}
    (hpairs : ∀ s ∈ Planner.stepsFrom 0 legs, s.pairs ≠ [])
    (hdb : db.Holds tableName (Planner.stepsFrom 0 legs) (tableAlias legs.length) [key]) :
    ∃ rows : List (Value × Nat),
      (Statement.grouped (countsBy tableName legs [key])).run db =
        .ok (rows.map fun r => [r.1, .int r.2]) ∧
      rows.Pairwise (fun a b => a.1.less b.1 = true) ∧
      ∀ (k : Value) (n : Nat), (k, n) ∈ rows ↔
        0 < n ∧ n = (ways db tableName legs).countP fun t =>
          lastValues db tableName (Planner.stepsFrom 0 legs) [key] t = [k] := by
  rw [run_countsBy hpairs hdb, selectionRows_countsBy]
  have hsingle : ∀ t, [(lastValues db tableName (Planner.stepsFrom 0 legs) [key] t).headD .null] =
      lastValues db tableName (Planner.stepsFrom 0 legs) [key] t := fun _ => rfl
  generalize lastValues db tableName (Planner.stepsFrom 0 legs) [key] = tag at hsingle ⊢
  have hkeys : ∀ k ∈ distinct ((ways db tableName legs).map tag), [k.headD .null] = k := by
    intro k hk
    obtain ⟨t, _, rfl⟩ := List.mem_map.mp (mem_distinct.mp hk)
    exact hsingle t
  refine ⟨(distinct ((ways db tableName legs).map tag)).map fun k =>
    (k.headD .null, (ways db tableName legs).countP fun t => tag t = k), ?_, ?_, ?_⟩
  · rw [List.map_map]
    refine congrArg _ (List.map_congr_left fun k hk => ?_)
    show k ++ [_] = [k.headD .null] ++ [_]
    rw [hkeys k hk]
  · refine List.pairwise_map.mpr ((pairwise_distinct _).imp_of_mem fun ha hb hab => ?_)
    rw [← hkeys _ ha, ← hkeys _ hb] at hab
    exact Row.before_singleton.mp hab
  · intro k n
    constructor
    · intro h
      obtain ⟨k', hk', heq⟩ := List.mem_map.mp h
      obtain ⟨rfl, rfl⟩ := Prod.mk.inj heq
      obtain ⟨t, ht, htag⟩ := List.mem_map.mp (mem_distinct.mp hk')
      rw [hkeys k' hk']
      exact ⟨List.countP_pos_iff.mpr ⟨t, ht, by simpa using htag⟩, rfl⟩
    · rintro ⟨hpos, rfl⟩
      obtain ⟨t, ht, htag⟩ := List.countP_pos_iff.mp hpos
      have hk : tag t = [k] := by simpa using htag
      exact List.mem_map.mpr ⟨[k], mem_distinct.mpr (hk ▸ List.mem_map_of_mem ht), rfl⟩

/-- A grouped count that compiles is rendered, and over every database that holds its tables and
columns it yields, strictly in the order of the keys, each key that the last row of some tuple has,
with the number of those tuples. The tuples of its joins are the ways from the counted table along
the associations that the names of the join path stand for. -/
theorem grouped_count_rows {p : Planner} {i : MetricInstruction} {q : GroupedQuery} {db : Database}
    (hq : p.compile i = .ok (.grouped q)) (hpairs : ∀ s ∈ q.joins, s.pairs ≠ [])
    (hdb : db.Holds q.tableName q.joins q.pivotAlias [q.groupBy]) :
    (∃ entity pivot hops,
      Planner.Planned p i entity pivot q.groupBy q.joinPath hops q.joins q.pivotAlias ∧
      q.tableName = entity.tableName ∧ lastTable q.tableName q.joins = pivot.tableName ∧
      joinedTuples db q.tableName q.joins = ways db entity.tableName (legsOf hops)) ∧
    ∃ (statement : Statement) (rows : List (Value × Nat)), render (.grouped q) = .ok statement ∧
      statement.run db = .ok (rows.map fun r => [r.1, .int r.2]) ∧
      rows.Pairwise (fun a b => a.1.less b.1 = true) ∧
      ∀ (k : Value) (n : Nat), (k, n) ∈ rows ↔
        0 < n ∧ n = (joinedTuples db q.tableName q.joins).countP fun t =>
          lastValues db q.tableName q.joins [q.groupBy] t = [k] := by
  rcases Planner.compile_ok hq with ⟨_, _, _, hcount⟩ |
    ⟨entity, pivot, key, path, hops, joins, label, hplan, ⟨_, hgrouped⟩ | ⟨_, _, _, _, hzero⟩⟩
  · cases hcount
  · cases hgrouped
    have hjoins := hplan.joins_eq
    have hlabel := hplan.label_eq
    subst hjoins hlabel
    have htuples := joinedTuples_stepsFrom db entity.tableName (legsOf hops)
    refine ⟨⟨entity, pivot, hops, hplan, rfl, lastTable_of_follows hplan.follows, htuples⟩, ?_⟩
    obtain ⟨rows, hrun, hsorted, hrows⟩ := rows_countsBy hpairs hdb
    simp only [htuples]
    exact ⟨_, rows, render_grouped rfl rfl, hrun, hsorted, hrows⟩
  · cases hzero

/-! ## Pages by author -/

/-- Pages with their authors. -/
def pressSnapshot : Snapshot :=
  { entities :=
      [⟨"Page", "pages", some "id", [], true⟩, ⟨"Author", "authors", some "id", ["name"], true⟩]
    associations :=
      [("Page", [⟨"author", .belongsTo, .direct "Author", [], [("author_id", "id")], none⟩])]
    schemaVersion := none }

/-- Two pages of one author, one of nobody and one of an author who is gone. -/
def pressDatabase : Database :=
  [("pages", ⟨["author_id"], [[.int 1], [.null], [.int 1], [.int 7]]⟩),
   ("authors", ⟨["id", "name"], [[.int 2, .text "Ada"], [.int 1, .null]]⟩)]

/-- The pages of every author. -/
def pagesByAuthor : GroupedQuery :=
  { entity := "Page", tableName := "pages", pivot := "Author", pivotAlias := "t1", groupBy := "id"
    joinPath := ["author"]
    joins := [⟨"author", "authors", "t1", [⟨"t0", "author_id", "id"⟩]⟩] }

theorem grouped_count_rows_press :
    ∃ (statement : Statement) (rows : List (Value × Nat)),
      render (.grouped pagesByAuthor) = .ok statement ∧
      statement.run pressDatabase = .ok (rows.map fun r => [r.1, .int r.2]) ∧
      (Value.int 1, 2) ∈ rows ∧ ∀ n, (Value.null, n) ∉ rows := by
  have hq : (Planner.ofSnapshot pressSnapshot).compile ⟨.null, "Page", some "Author", none, none⟩ =
      .ok (.grouped pagesByAuthor) := by decide +kernel
  have hdb : pressDatabase.Holds pagesByAuthor.tableName pagesByAuthor.joins
      pagesByAuthor.pivotAlias [pagesByAuthor.groupBy] := by decide +kernel
  obtain ⟨_, statement, rows, hrender, hrun, _, hrows⟩ :=
    grouped_count_rows hq (by decide +kernel) hdb
  have hnull : ((joinedTuples pressDatabase pagesByAuthor.tableName pagesByAuthor.joins).countP
      fun t => lastValues pressDatabase pagesByAuthor.tableName pagesByAuthor.joins
        [pagesByAuthor.groupBy] t = [.null]) = 0 := by decide +kernel
  refine ⟨statement, rows, hrender, hrun, (hrows _ _).mpr (by decide +kernel), fun n h => ?_⟩
  obtain ⟨hpos, hn⟩ := (hrows _ _).mp h
  omega

end EntityAtlas.Sql
