import EntityAtlas.Proofs.Counts
import EntityAtlas.Proofs.Sql.ZeroFill

/-!
# Counts of tuples by the keys of a pivot

What the two kinds of queries with a pivot have in common: over a database that holds their tables
and columns each yields, in strict order, rows that count the tuples of the joins by the values of
the keys in the last row. They differ in the keys, and in whether keys without tuples have rows.
A zero-filled query does this only if the columns of its union can be told apart.
-/

namespace EntityAtlas

/-- The columns of the pivot that a query reports. -/
def Query.keys : Query → List String
  | .count _ => []
  | .grouped q => [q.groupBy]
  | .zeroFilled q => Sql.Render.keys q

/-- In the union of a zero-filled query every key has a name, and not that of the counts. -/
def Query.Distinguishable : Query → Prop
  | .count _ => True
  | .grouped _ => True
  | .zeroFilled q => ∀ k ∈ Sql.Render.keys q, k ≠ "" ∧ Sql.sameName k Sql.measureLabel = false

instance (q : Query) : Decidable q.Distinguishable :=
  match q with
  | .count _ => inferInstanceAs (Decidable True)
  | .grouped _ => inferInstanceAs (Decidable True)
  | .zeroFilled q => inferInstanceAs (Decidable
      (∀ k ∈ Sql.Render.keys q, k ≠ "" ∧ Sql.sameName k Sql.measureLabel = false))

namespace Sql

section Rows

variable {db : Database} {legs : List Leg}

/-- Rows of single values as rows of lists of one value. -/
def singletons (values : List (Value × Nat)) : List (Row × Nat) := values.map fun r => ([r.1], r.2)

/-- The rows of a grouped count are counts by lists of one value. -/
theorem counts_singletons {tableName key : String} {values : List (Value × Nat)}
    (hsorted : values.Pairwise fun a b => a.1.less b.1 = true)
    (hrows : ∀ (k : Value) (n : Nat), (k, n) ∈ values ↔
      0 < n ∧ n = (ways db tableName legs).countP fun t =>
        lastValues db tableName (Planner.stepsFrom 0 legs) [key] t = [k]) :
    (singletons values).Pairwise (fun a b => a.1.Before b.1) ∧
      Counts (ways db tableName legs)
        (lastValues db tableName (Planner.stepsFrom 0 legs) [key]) (singletons values) := by
  have hbefore : (singletons values).Pairwise (fun a b : Row × Nat => a.1.Before b.1) :=
    List.pairwise_map.mpr (hsorted.imp fun h => Row.before_singleton.mpr h)
  refine ⟨hbefore, Evaluate.nodup_of_before hbefore, ?_, ?_⟩
  · intro r hr
    obtain ⟨v, hv, rfl⟩ := List.mem_map.mp hr
    exact ((hrows v.1 v.2).mp hv).2
  · intro t ht
    -- the last row of a tuple has one value in the column, which is counted at least once
    have hpos : 0 < (ways db tableName legs).countP fun u =>
        lastValues db tableName (Planner.stepsFrom 0 legs) [key] u =
          lastValues db tableName (Planner.stepsFrom 0 legs) [key] t :=
      List.countP_pos_iff.mpr ⟨t, ht, by simp⟩
    unfold singletons
    rw [List.map_map]
    exact List.mem_map.mpr ⟨_, (hrows _ _).mpr ⟨hpos, rfl⟩, rfl⟩

/-- The rows of a zero-filled count are counts by the values of its keys, with a row for those of
every row of the pivot. -/
theorem counts_union {q : ZeroFilledQuery}
    (hpairs : ∀ s ∈ Planner.stepsFrom 0 legs, s.pairs ≠ [])
    (hdb : db.Holds q.tableName (Planner.stepsFrom 0 legs) (tableAlias legs.length) (Render.keys q))
    (hlast : lastTable q.tableName (Planner.stepsFrom 0 legs) = q.pivotTableName)
    (hnamed : "" ∉ Render.keys q) (hcount : ∀ k ∈ Render.keys q, sameName k measureLabel = false) :
    ∃ rows : List (Row × Nat),
      (Statement.combined (countsBy q.tableName legs (Render.keys q)) (Render.zeros q)).run db =
        .ok (rows.map fun r => r.1 ++ [.int r.2]) ∧
      rows.Pairwise (fun a b => a.1.Before b.1) ∧
      Counts (ways db q.tableName legs)
        (lastValues db q.tableName (Planner.stepsFrom 0 legs) (Render.keys q)) rows ∧
      ∀ k, k ∈ rows.map (·.1) ↔ k ∈ pivotKeys db q := by
  obtain ⟨rows, hrun, hsorted, hrows⟩ := rows_union hpairs hdb hlast hnamed hcount
  have hkeys : ∀ k, k ∈ rows.map (·.1) ↔ k ∈ pivotKeys db q := by
    intro k
    constructor
    · intro h
      obtain ⟨r, hr, rfl⟩ := List.mem_map.mp h
      exact ((hrows r.1 r.2).mp hr).1
    · intro h
      exact List.mem_map.mpr ⟨_, (hrows k _).mpr ⟨h, rfl⟩, rfl⟩
  refine ⟨rows, hrun, hsorted, ⟨Evaluate.nodup_of_before hsorted, ?_, ?_⟩, hkeys⟩
  · intro r hr
    exact ((hrows r.1 r.2).mp hr).2
  · intro t ht
    exact (hkeys _).mpr (lastValues_mem_pivotKeys hlast ht)

end Rows

/-- A query with a pivot whose columns can be told apart counts the tuples of its joins by the
values that their last rows have in its keys. -/
theorem counts_of_compile {p : Planner} {i : MetricInstruction} {q : Query} {name : String}
    {db : Database} (hq : p.compile i = .ok q) (hname : i.pivot = some name)
    (hpairs : ∀ s ∈ q.joins, s.pairs ≠ [])
    (hdb : db.Holds q.tableName q.joins q.pivotAlias q.keys) (hd : q.Distinguishable) :
    ∃ (statement : Statement) (rows : List (Row × Nat)), render q = .ok statement ∧
      statement.run db = .ok (rows.map fun r => r.1 ++ [.int r.2]) ∧
      rows.Pairwise (fun a b => a.1.Before b.1) ∧
      Counts (joinedTuples db q.tableName q.joins) (lastValues db q.tableName q.joins q.keys)
        rows := by
  cases q with
  | count q =>
    have hnone := Planner.compile_count hq
    rw [hname] at hnone
    cases hnone
  | grouped q =>
    obtain ⟨_, _, _, hplan, _⟩ := Planner.compile_grouped hq
    have hrender := render_grouped hplan.joins_eq hplan.label_eq
    simp only [Query.tableName, Query.joins, Query.pivotAlias, Query.keys] at hpairs hdb ⊢
    rw [hplan.joins_eq] at hpairs hdb ⊢
    rw [hplan.label_eq] at hdb
    rw [joinedTuples_stepsFrom]
    obtain ⟨values, hrun, hsorted, hrows⟩ := rows_countsBy hpairs hdb
    obtain ⟨hbefore, hcounts⟩ := counts_singletons hsorted hrows
    refine ⟨_, singletons values, hrender, ?_, hbefore, hcounts⟩
    rw [hrun, singletons, List.map_map]
    rfl
  | zeroFilled q =>
    obtain ⟨_, _, _, hplan, _, htable, _, hpivot, _⟩ := Planner.compile_zeroFilled hq
    have hlast := lastTable_of_follows hplan.follows
    rw [← htable, ← hpivot] at hlast
    have hrender :=
      render_zeroFilled hplan.joins_eq hplan.label_eq (measureLabel_not_mem_keys hq)
    rw [if_neg fun h => (hd "" h).1 rfl] at hrender
    simp only [Query.tableName, Query.joins, Query.pivotAlias, Query.keys] at hpairs hdb ⊢
    rw [hplan.joins_eq] at hpairs hdb ⊢
    rw [hplan.label_eq] at hdb
    rw [joinedTuples_stepsFrom]
    obtain ⟨rows, hrun, hsorted, hcounts, _⟩ :=
      counts_union hpairs hdb hlast (fun h => (hd "" h).1 rfl) fun k hk => (hd k hk).2
    exact ⟨_, rows, hrender, hrun, hsorted, hcounts⟩

/-! ## A key that goes by the name of the counts -/

/-- An entity whose primary key is named like the counts up to letter case. -/
def tallySnapshot : Snapshot :=
  { entities := [⟨"P", "p", some "Count", ["Count"], true⟩], associations := []
    schemaVersion := none }

/-- The counts of that entity by itself. -/
def tallies : ZeroFilledQuery :=
  { entity := "P", tableName := "p", pivot := "P", pivotTableName := "p", pivotAlias := "t0"
    primaryKey := "Count", pivotAttribute := "Count", joinPath := [], joins := [] }

/-- One row, with the key five. -/
def tallyDatabase : Database := [("p", ⟨["Count"], [[.int 5]]⟩)]

theorem sameName_tally : sameName measureLabel "Count" = true := by
  have hupper : "Count".toLower = "count" := by decide +kernel
  have hlower : "count".toLower = "count" := by decide +kernel
  exact decide_eq_true (hlower.trans hupper.symm)

/-- The key stands in the place of its count. -/
theorem run_tallies : ∃ statement, render (.zeroFilled tallies) = .ok statement ∧
    statement.run tallyDatabase = .ok [[.int 5, .int 5]] := by
  have hpairs : ∀ s ∈ Planner.stepsFrom 0 [], s.pairs ≠ [] := by decide +kernel
  have hdb : tallyDatabase.Holds tallies.tableName (Planner.stepsFrom 0 []) (tableAlias 0)
      (Render.keys tallies) := by decide +kernel
  have hposition : Evaluate.unionPosition
      (countsBy tallies.tableName [] (Render.keys tallies)) measureLabel = 0 := by
    have hfirst : ["Count", "count"].findIdx? (sameName measureLabel) = some 0 := by
      rw [List.findIdx?_cons, if_pos sameName_tally]
    exact congrArg (·.getD 0) hfirst
  refine ⟨_, rfl, (run_combined hpairs hdb rfl).trans ?_⟩
  rw [hposition]
  decide +kernel

end Sql

end EntityAtlas
