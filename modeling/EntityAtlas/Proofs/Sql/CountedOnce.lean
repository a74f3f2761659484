import EntityAtlas.Proofs.Graph.Edges
import EntityAtlas.Proofs.Sql.PivotCounts

/-!
# Rows that are counted once

Where no two rows of a joined table agree on the columns that it is joined on, a row of the counted
table leads to at most one row at every hop. Its tuple, if it has one, is then the chain of these
rows; so the tuples of the joins are the chains of the counted rows, each row is counted in one
group at most, and the counts add up to the number of rows whose chain reaches the pivot.
-/

namespace EntityAtlas.Sql

/-- No two rows of a table agree on all of some columns; a null agrees with nothing. -/
def Relation.UniqueOn (r : Relation) (columns : List String) : Prop :=
  r.rows.Pairwise fun a b => ¬(columns.all fun c => (r.entry a c).meets (r.entry b c)) = true

instance (r : Relation) (columns : List String) : Decidable (r.UniqueOn columns) :=
  inferInstanceAs (Decidable (r.rows.Pairwise fun a b =>
    ¬(columns.all fun c => (r.entry a c).meets (r.entry b c)) = true))

/-- The rows that a row of a table leads to along some hops, the first that its columns match at
every hop, if there is one for all of them. -/
def chain? (db : Database) : Relation → Row → List Hop → Option (List Row)
  | _, _, [] => some []
  | left, row, (a, target) :: hops =>
    match (partners left row (db.table target.tableName) a.joinColumns).head? with
    | none => none
    | some r => (chain? db (db.table target.tableName) r hops).map (r :: ·)

/-- A row of the counted table with the rows that it leads to along all hops. -/
def trail? (db : Database) (tableName : String) (hops : List Hop) (row : Row) :
    Option (List Row) :=
  (chain? db (db.table tableName) row hops).map (row :: ·)

/-- A row of the counted table takes part in a tuple that has the key values of a result row. -/
def Contributes (db : Database) (q : Query) (row : Row) (r : Row × Nat) : Prop :=
  ∃ t ∈ joinedTuples db q.tableName q.joins, t.head? = some row ∧
    lastValues db q.tableName q.joins q.keys t = r.1

/-- The rows of a query with a pivot count every row of the counted table once at most. -/
structure CountedOnce (db : Database) (q : Query) (hops : List Hop) (rows : List (Row × Nat)) :
    Prop where
  /-- The tuples of the joins are the trails of the counted rows, one for each row at most. -/
  tuples_eq : joinedTuples db q.tableName q.joins =
    (db.table q.tableName).rows.filterMap (trail? db q.tableName hops)
  /-- A count is the number of the rows whose trails end at its key values. -/
  count_eq : ∀ r ∈ rows, r.2 = (db.table q.tableName).rows.countP fun row =>
    (trail? db q.tableName hops row).map (lastValues db q.tableName q.joins q.keys) = some r.1
  /-- A row contributes to one result row at most. -/
  unique : ∀ row, ∀ r ∈ rows, ∀ r' ∈ rows, Contributes db q row r → Contributes db q row r' → r = r'
  /-- All counts add up to the number of the rows that lead to the pivot. -/
  total_eq : total rows = (db.table q.tableName).rows.countP fun row =>
    (chain? db (db.table q.tableName) row hops).isSome

theorem Value.meets_iff {a b : Value} : a.meets b = true ↔ a ≠ .null ∧ a = b := by
  unfold Value.meets
  rw [Bool.and_eq_true, decide_eq_true_eq, decide_eq_true_eq]

/-- Values that one value meets meet each other. -/
theorem Value.meets_of_common {a b c : Value} (hb : a.meets b = true) (hc : a.meets c = true) :
    b.meets c = true := by
  obtain ⟨hne, rfl⟩ := Value.meets_iff.mp hb
  exact hc

/-- A row is joined to one row at most of a table whose rows differ in the columns on the right. -/
theorem partners_eq_head? {left right : Relation} {row : Row} {columns : List (String × String)}
    (h : right.UniqueOn (columns.map (·.2))) :
    partners left row right columns = (partners left row right columns).head?.toList := by
  -- two partners would agree on the columns, since both meet the same row
  have hnone : (partners left row right columns).Pairwise fun _ _ => False := by
    refine (h.filter _).imp_of_mem fun {a b} ha hb hne => hne ?_
    have hma := List.all_eq_true.mp (List.mem_filter.mp ha).2
    have hmb := List.all_eq_true.mp (List.mem_filter.mp hb).2
    rw [List.all_map, List.all_eq_true]
    exact fun c hc => Value.meets_of_common (hma c hc) (hmb c hc)
  cases hp : partners left row right columns with
  | nil => rfl
  | cons a rest =>
    rw [hp] at hnone
    cases rest with
    | nil => rfl
    | cons b rest => exact (List.rel_of_pairwise_cons hnone List.mem_cons_self).elim

section Chains

variable {db : Database} {hops : List Hop}

theorem legsOf_direct (hdirect : ∀ x ∈ hops, x.1.through = none) :
    legsOf hops = hops.map fun x => ⟨x.1.name, x.2.tableName, x.1.joinColumns⟩ := by
  induction hops with
  | nil => rfl
  | cons x hops ih =>
    obtain ⟨hx, hrest⟩ := List.forall_mem_cons.mp hdirect
    have hlegs : x.1.legs x.2 = [⟨x.1.name, x.2.tableName, x.1.joinColumns⟩] := by
      unfold Association.legs
      rw [hx]
    rw [legsOf, List.flatMap_cons, hlegs, List.map_cons]
    exact congrArg _ (ih hrest)

/-- The ways on from a row are its chain, if it has one. -/
theorem waysOn_eq_chain? (hunique : ∀ x ∈ hops,
      (db.table x.2.tableName).UniqueOn (x.1.joinColumns.map (·.2))) :
    ∀ (left : Relation) (row : Row),
      waysOn db left row (hops.map fun x => ⟨x.1.name, x.2.tableName, x.1.joinColumns⟩) =
        (chain? db left row hops).toList := by
  induction hops with
  | nil => intro left row; rfl
  | cons x hops ih =>
    intro left row
    obtain ⟨hx, hrest⟩ := List.forall_mem_cons.mp hunique
    -- at most one row is joined, and the rest of the hops goes on from it
    rw [List.map_cons, waysOn, chain?, partners_eq_head? hx]
    cases (partners left row (db.table x.2.tableName) x.1.joinColumns).head? with
    | none => rfl
    | some r =>
      rw [Option.toList_some, List.flatMap_singleton, List.head?_cons, ih hrest]
      exact Option.toList_map.symm

/-- The ways from all rows of a table are the trails of its rows. -/
theorem ways_eq_trails (tableName : String) (hdirect : ∀ x ∈ hops, x.1.through = none)
    (hunique : ∀ x ∈ hops, (db.table x.2.tableName).UniqueOn (x.1.joinColumns.map (·.2))) :
    ways db tableName (legsOf hops) =
      (db.table tableName).rows.filterMap (trail? db tableName hops) := by
  rw [List.filterMap_eq_flatMap_toList, ways, legsOf_direct hdirect]
  refine List.flatMap_congr fun row _ => ?_
  rw [waysOn_eq_chain? hunique, trail?, Option.toList_map]

theorem exists_step (hdirect : ∀ x ∈ hops, x.1.through = none) {x : Hop} (hx : x ∈ hops) :
    ∃ s ∈ Planner.stepsFrom 0 (legsOf hops), s.tableName = x.2.tableName ∧
      s.pairs.map (·.rightColumn) = x.1.joinColumns.map (·.2) := by
  have hmem : (⟨x.1.name, x.2.tableName, x.1.joinColumns⟩ : Leg) ∈ legsOf hops := by
    rw [legsOf_direct hdirect]
    exact List.mem_map_of_mem hx
  obtain ⟨k, hk⟩ := List.getElem?_of_mem hmem
  refine ⟨_, List.mem_of_getElem? (getElem?_stepsFrom 0 k _ hk), rfl, ?_⟩
  rw [Planner.step, Planner.pairsFrom, List.map_map]
  rfl

/-- Hops without a table in between are joined on their own columns. -/
theorem pairs_ne_nil (hdirect : ∀ x ∈ hops, x.1.through = none)
    (hcolumns : ∀ x ∈ hops, x.1.arrivalColumns ≠ []) :
    ∀ s ∈ Planner.stepsFrom 0 (legsOf hops), s.pairs ≠ [] := by
  intro s hs
  obtain ⟨k, l, hl, rfl⟩ := mem_stepsFrom hs
  rw [legsOf_direct hdirect] at hl
  obtain ⟨x, hx, rfl⟩ := List.mem_map.mp (List.mem_of_getElem? hl)
  have hne := hcolumns x hx
  unfold Association.arrivalColumns at hne
  rw [hdirect x hx] at hne
  exact fun h => hne (List.map_eq_nil_iff.mp h)

end Chains

/-- Counts of the tuples of joins whose tuples are the trails of the counted rows. -/
theorem countedOnce_of_trails {db : Database} {q : Query} {hops : List Hop}
    {rows : List (Row × Nat)}
    (htuples : joinedTuples db q.tableName q.joins =
      (db.table q.tableName).rows.filterMap (trail? db q.tableName hops))
    (hcounts : Counts (joinedTuples db q.tableName q.joins)
      (lastValues db q.tableName q.joins q.keys) rows) : CountedOnce db q hops rows := by
  -- a trail begins with the row that it is the trail of
  have hhead : ∀ t ∈ joinedTuples db q.tableName q.joins, ∀ row, t.head? = some row →
      trail? db q.tableName hops row = some t := by
    intro t ht row hrow
    rw [htuples] at ht
    obtain ⟨row', _, htrail⟩ := List.mem_filterMap.mp ht
    obtain ⟨rest, _, rfl⟩ := Option.map_eq_some_iff.mp htrail
    obtain rfl : row' = row := Option.some.inj hrow
    exact htrail
  refine ⟨htuples, ?_, ?_, ?_⟩
  · intro r hr
    rw [hcounts.count_eq r hr, htuples, List.countP_filterMap]
    refine List.countP_congr fun row _ => ?_
    cases trail? db q.tableName hops row with
    | none => simp
    | some t => simp
  · intro row r hr r' hr' hrow hrow'
    obtain ⟨t, ht, hthead, htkeys⟩ := hrow
    obtain ⟨t', ht', hthead', htkeys'⟩ := hrow'
    have htrail := hhead t ht row hthead
    rw [hhead t' ht' row hthead'] at htrail
    obtain rfl := Option.some.inj htrail
    exact List.inj_on_of_nodup_map hcounts.nodup hr hr' (htkeys.symm.trans htkeys')
  · rw [hcounts.total_eq, htuples, List.length_filterMap_eq_countP]
    refine List.countP_congr fun row _ => ?_
    rw [trail?, Option.isSome_map]

theorem run_total {db : Database} {tableName : String} (entity : String)
    (h : (db.relation? tableName).isSome = true) :
    ∃ statement, render (.count ⟨entity, tableName⟩) = .ok statement ∧
      statement.run db = .ok [[.int (db.table tableName).rows.length]] := by
  refine ⟨.total tableName, rfl, ?_⟩
  have hrows : (Statement.total tableName).rows db =
      .ok [[.int (db.table tableName).rows.length]] := by
    simp only [Statement.rows, Database.relation?_eq_table h]
  exact hrows

/-- A query with a pivot whose hops have no table in between counts every row of the counted table
once at most, over every database in which no two rows of a joined table agree on the columns that
it is joined on. Its counts do not add up to more than the instruction without a pivot counts. The
columns of a zero-filled query must be told apart in its union. -/
theorem counted_once {p : Planner} {i : MetricInstruction} {q : Query} {name : String}
    {entity pivot : Entity} {hops : List Hop} {db : Database}
    (hq : p.compile i = .ok q) (hname : i.pivot = some name)
    (he : p.snapshot.entity? i.entity = some entity)
    (hF : Follows p.snapshot entity q.joinPath hops pivot)
    (hdirect : ∀ x ∈ hops, x.1.through = none)
    (hunique : ∀ s ∈ q.joins, (db.table s.tableName).UniqueOn (s.pairs.map (·.rightColumn)))
    (hdb : db.Holds q.tableName q.joins q.pivotAlias q.keys) (hd : q.Distinguishable) :
    ∃ statement rows, render q = .ok statement ∧
      statement.run db = .ok (rows.map fun r => r.1 ++ [.int r.2]) ∧ CountedOnce db q hops rows ∧
      ∃ (all : Query) (totals : Statement) (n : Nat),
        p.compile { i with pivot := none } = .ok all ∧
        all = .count ⟨entity.name, q.tableName⟩ ∧ render all = .ok totals ∧
        totals.run db = .ok [[.int n]] ∧ total rows ≤ n := by
  obtain ⟨entity', pivot', key, hops', hplan, htable, _⟩ := Planner.compile_planned hq hname
  obtain rfl := Option.some.inj (he.symm.trans hplan.entity_eq)
  obtain ⟨rfl, _⟩ := hF.unique hplan.follows
  have hjoins := hplan.joins_eq
  have hpairs : ∀ s ∈ q.joins, s.pairs ≠ [] := by
    rw [hjoins]
    exact pairs_ne_nil hdirect hplan.columns
  have hhops : ∀ x ∈ hops, (db.table x.2.tableName).UniqueOn (x.1.joinColumns.map (·.2)) := by
    intro x hx
    obtain ⟨s, hs, hstable, hscolumns⟩ := exists_step hdirect hx
    rw [← hstable, ← hscolumns]
    exact hunique s (hjoins ▸ hs)
  have htuples : joinedTuples db q.tableName q.joins =
      (db.table q.tableName).rows.filterMap (trail? db q.tableName hops) := by
    rw [hjoins, joinedTuples_stepsFrom, ways_eq_trails q.tableName hdirect hhops]
  obtain ⟨statement, rows, hrender, hrun, _, hcounts⟩ := counts_of_compile hq hname hpairs hdb hd
  have honce := countedOnce_of_trails htuples hcounts
  have hcounted : (db.relation? q.tableName).isSome = true := hdb.tables _ List.mem_cons_self
  obtain ⟨totals, htotals, hall⟩ := run_total entity.name hcounted
  refine ⟨statement, rows, hrender, hrun, honce, _, totals, (db.table q.tableName).rows.length, ?_,
    rfl, htotals, hall, ?_⟩
  · rw [htable]
    exact Planner.compile_total he
  · rw [honce.total_eq]
    exact List.countP_le_length

/-! ## Comments by the author of their post -/

/-- Comments on posts, which have authors. -/
def threadSnapshot : Snapshot :=
  { entities :=
      [⟨"Comment", "comments", some "id", [], true⟩, ⟨"Post", "posts", some "id", [], true⟩,
       ⟨"Author", "authors", some "id", ["name"], true⟩]
    associations :=
      [("Comment", [reference "post" "post_id" "Post"]),
       ("Post", [reference "author" "author_id" "Author"])]
    schemaVersion := none }

/-- The comments by the author of the post, with the author's name. -/
def commentsByAuthor : ZeroFilledQuery :=
  { entity := "Comment", tableName := "comments", pivot := "Author", pivotTableName := "authors"
    pivotAlias := "t2", primaryKey := "id", pivotAttribute := "name", joinPath := ["post", "author"]
    joins := [⟨"post", "posts", "t1", [⟨"t0", "post_id", "id"⟩]⟩,
      ⟨"author", "authors", "t2", [⟨"t1", "author_id", "id"⟩]⟩] }

/-- Three comments on a post with an author, one on a post without, one on none and one on a post
that is gone. -/
def threadDatabase : Database :=
  [("comments", ⟨["post_id"], [[.int 1], [.int 2], [.int 1], [.null], [.int 9], [.int 1]]⟩),
   ("posts", ⟨["id", "author_id"], [[.int 1, .int 7], [.int 2, .null], [.null, .int 8]]⟩),
   ("authors", ⟨["id", "name"], [[.int 8, .text "Ada"], [.int 7, .text "Bob"]]⟩)]

theorem counted_once_thread : ∃ (statement : Statement) (rows : List (Row × Nat)),
    render (.zeroFilled commentsByAuthor) = .ok statement ∧
      statement.run threadDatabase = .ok (rows.map fun r => r.1 ++ [.int r.2]) ∧
      total rows = 3 := by
  have hq : (Planner.ofSnapshot threadSnapshot).compile
      ⟨.null, "Comment", some "Author", none, some "name"⟩ =
        .ok (.zeroFilled commentsByAuthor) := by
    decide +kernel
  have hF : Follows threadSnapshot ⟨"Comment", "comments", some "id", [], true⟩ ["post", "author"]
      [(reference "post" "post_id" "Post", ⟨"Post", "posts", some "id", [], true⟩),
       (reference "author" "author_id" "Author", ⟨"Author", "authors", some "id", ["name"], true⟩)]
      ⟨"Author", "authors", some "id", ["name"], true⟩ :=
    .hop (by decide +kernel) rfl (by decide +kernel)
      (.hop (by decide +kernel) rfl (by decide +kernel) (.stay _))
  have hdb : threadDatabase.Holds commentsByAuthor.tableName commentsByAuthor.joins
      commentsByAuthor.pivotAlias (Render.keys commentsByAuthor) := by decide +kernel
  obtain ⟨statement, rows, hrender, hrun, honce, _⟩ := counted_once hq rfl (by decide +kernel) hF
    (by decide +kernel) (by decide +kernel) hdb (by decide +kernel)
  refine ⟨statement, rows, hrender, hrun, ?_⟩
  rw [honce.total_eq]
  decide +kernel

/-- Under a key that goes by the name of the counts a table of one row seems to have five. -/
theorem counted_beyond_total :
    (Planner.ofSnapshot tallySnapshot).compile ⟨.int 1, "P", some "P", none, some "Count"⟩ =
        .ok (.zeroFilled tallies) ∧
      Follows tallySnapshot ⟨"P", "p", some "Count", ["Count"], true⟩ tallies.joinPath []
        ⟨"P", "p", some "Count", ["Count"], true⟩ ∧
      (∀ s ∈ tallies.joins, (tallyDatabase.table s.tableName).UniqueOn
        (s.pairs.map (·.rightColumn))) ∧
      tallyDatabase.Holds tallies.tableName tallies.joins tallies.pivotAlias (Render.keys tallies) ∧
      (∃ statement, render (.zeroFilled tallies) = .ok statement ∧
        statement.run tallyDatabase = .ok [[.int 5, .int 5]]) ∧
      ∃ totals, (Planner.ofSnapshot tallySnapshot).compile ⟨.int 1, "P", none, none, some "Count"⟩ =
          .ok (.count ⟨"P", "p"⟩) ∧
        render (.count ⟨"P", "p"⟩) = .ok totals ∧ totals.run tallyDatabase = .ok [[.int 1]] := by
  refine ⟨by decide +kernel, .stay _, by decide +kernel, by decide +kernel, run_tallies,
    .total "p", ?_, rfl, ?_⟩
  · decide +kernel
  · decide +kernel

end EntityAtlas.Sql
