import EntityAtlas.Proofs.Sql.GroupedCount

/-!
# Zero-filled counts

A zero-filled count unites the counts with one zero per row of the pivot and regroups them by the
greatest count. Every group that is counted is one of the pivot's own, since the last row of a tuple
is a row of the pivot's table; so the groups are those of the pivot's rows, and the greatest count
of each is the number of its tuples. A key without a name cannot be referred to in the union: such a
query is not rendered at all.
-/

namespace EntityAtlas.Sql

open Evaluate

/-! ## Regrouping -/

/-- Regrouping rows of keys and a measure by positions at which they have their keys. -/
theorem regroup_pairs {positions : List Nat} {pairs : List (Row × Value)} (measure : Nat)
    (hkeys : ∀ e ∈ pairs, positions.map (fun i => (e.1 ++ [e.2])[i]?.getD .null) = e.1) :
    regroup positions measure (pairs.map fun e => e.1 ++ [e.2]) =
      (distinct (pairs.map (·.1))).map fun k => k ++ [greatest ((pairs.filter (·.1 = k)).map
        fun e => (e.1 ++ [e.2])[measure]?.getD .null)] := by
  have hkeyed : (pairs.map fun e => e.1 ++ [e.2]).map (fun row =>
      (positions.map (fun i => row[i]?.getD .null), row[measure]?.getD .null)) =
      pairs.map fun e => (e.1, (e.1 ++ [e.2])[measure]?.getD .null) := by
    rw [List.map_map]
    refine List.map_congr_left fun e he => ?_
    show (positions.map _, _) = _
    rw [hkeys e he]
  simp only [regroup, hkeyed, List.map_map, List.filter_map, Function.comp_def]

theorem union_pairs (counted all : List Row) (count zero : Row → Value) :
    counted.map (fun k => k ++ [count k]) ++ all.map (fun k => k ++ [zero k]) =
      (counted.map (fun k => (k, count k)) ++ all.map fun k => (k, zero k)).map
        fun e => e.1 ++ [e.2] := by
  rw [List.map_append, List.map_map, List.map_map]
  rfl

/-- Regrouping counts with one zero for each row of a list that has all their keys. -/
theorem regroup_counts {n : Nat} {positions : List Nat} {counted all : List Row} {count : Row → Nat}
    (hlen : ∀ k ∈ all, k.length = n)
    (hkeys : ∀ k ∈ all, ∀ v, positions.map (fun i => (k ++ [v])[i]?.getD .null) = k)
    (hsub : ∀ k ∈ counted, k ∈ all) (hcount : ∀ k, k ∉ counted → count k = 0) :
    regroup positions n ((distinct counted).map (fun k => k ++ [.int (count k)]) ++
        all.map fun k => k ++ [.int 0]) =
      (distinct (distinct counted ++ all)).map fun k => k ++ [.int (count k)] := by
  have hfst : ((distinct counted).map (fun k => (k, Value.int (count k))) ++
      all.map fun k => (k, Value.int 0)).map (·.1) = distinct counted ++ all := by
    rw [List.map_append, List.map_map, List.map_map]
    exact congr (congrArg _ (List.map_id _)) (List.map_id _)
  have hall : ∀ e ∈ (distinct counted).map (fun k => (k, Value.int (count k))) ++
      all.map (fun k => (k, Value.int 0)), e.1 ∈ all := by
    intro e he
    rcases List.mem_append.mp he with h | h
    · obtain ⟨k, hk, rfl⟩ := List.mem_map.mp h
      exact hsub k (mem_distinct.mp hk)
    · obtain ⟨k, hk, rfl⟩ := List.mem_map.mp h
      exact hk
  rw [union_pairs, regroup_pairs n fun e he => hkeys _ (hall e he) _, hfst]
  refine List.map_congr_left fun k hk => ?_
  have hmeasure : ∀ e ∈ ((distinct counted).map (fun k => (k, Value.int (count k))) ++
      all.map fun k => (k, Value.int 0)).filter (·.1 = k),
      (e.1 ++ [e.2])[n]?.getD .null = e.2 := by
    intro e he
    rw [← hlen e.1 (hall e (List.mem_filter.mp he).1), List.getElem?_concat_length]
    rfl
  rw [List.map_congr_left hmeasure]
  congr 2
  refine greatest_eq ?_ ?_
  · -- the count stands among the counts, or is the zero of a row of the list
    by_cases hin : k ∈ counted
    · refine List.mem_map.mpr ⟨(k, .int (count k)), List.mem_filter.mpr ⟨?_, by simp⟩, rfl⟩
      exact List.mem_append_left _ (List.mem_map.mpr ⟨k, mem_distinct.mpr hin, rfl⟩)
    · refine List.mem_map.mpr ⟨(k, .int 0), List.mem_filter.mpr ⟨?_, by simp⟩, ?_⟩
      · rcases List.mem_append.mp (mem_distinct.mp hk) with h | h
        · exact absurd (mem_distinct.mp h) hin
        · exact List.mem_append_right _ (List.mem_map.mpr ⟨k, h, rfl⟩)
      · rw [hcount k hin]
        rfl
  · intro v hv
    obtain ⟨e, he, rfl⟩ := List.mem_map.mp hv
    obtain ⟨hmem, heq⟩ := List.mem_filter.mp he
    have heq : e.1 = k := by simpa using heq
    rcases List.mem_append.mp hmem with h | h
    · obtain ⟨k', _, rfl⟩ := List.mem_map.mp h
      obtain rfl : k' = k := heq
      exact Value.less_irrefl _
    · obtain ⟨k', _, rfl⟩ := List.mem_map.mp h
      show decide ((count k : Int) < 0) = false
      exact decide_eq_false (by omega)

/-! ## Columns of the union -/

theorem sameName_comm (a b : String) : sameName a b = sameName b a :=
  decide_eq_decide.mpr eq_comm

/-- Columns whose names differ in letter case only are the same column. -/
theorem Relation.entry_congr {a b : String} (h : sameName a b = true) (r : Relation) (row : Row) :
    r.entry row a = r.entry row b := by
  have hname : sameName a = sameName b := by
    funext c
    unfold sameName at h ⊢
    rw [of_decide_eq_true h]
  simp only [Relation.entry, Relation.position?, hname]

theorem labels_of_named {s : Selection} {columns : List String}
    (hs : s.keys.map (·.column) = columns) (hnamed : "" ∉ columns) :
    Evaluate.labels s = columns ++ [measureLabel] := by
  have hlabels : s.keys.map (fun k => Statement.columnLabel k.column) = columns := by
    rw [← hs]
    refine List.map_congr_left fun k hk => ?_
    have hmem : k.column ∈ columns := hs ▸ List.mem_map.mpr ⟨k, hk, rfl⟩
    have hne : k.column ≠ "" := fun h => hnamed (h ▸ hmem)
    exact if_neg hne
  unfold Evaluate.labels
  rw [hlabels]

section UnionColumns

variable {s : Selection} {columns : List String} (hs : s.keys.map (·.column) = columns)
  (hnamed : "" ∉ columns)

include hs hnamed

/-- A label of the union refers to the first column that has it, which is a key if any key does. -/
theorem unionPosition_of_key {label : String} {i : Nat} {key : String}
    (hi : columns[i]? = some key) (hlabel : sameName label key = true) :
    ∃ j key', unionPosition s label = j ∧ columns[j]? = some key' ∧ sameName label key' = true := by
  have hlt : i < columns.length := (List.getElem?_eq_some_iff.mp hi).1
  obtain ⟨j, hj⟩ : ∃ j, columns.findIdx? (sameName label) = some j := by
    rw [← Option.isSome_iff_exists, List.findIdx?_isSome, List.any_eq_true]
    exact ⟨key, List.mem_of_getElem? hi, hlabel⟩
  obtain ⟨hjlt, hjname, _⟩ := List.findIdx?_eq_some_iff_getElem.mp hj
  refine ⟨j, columns[j], ?_, List.getElem?_eq_getElem hjlt, hjname⟩
  unfold unionPosition
  rw [labels_of_named hs hnamed, List.findIdx?_append, hj]
  rfl

/-- In a row of key values and a measure the label of a key refers to its value. -/
theorem entry_unionPosition {key : String} (hkey : key ∈ columns) (r : Relation) (row : Row)
    (v : Value) :
    (columns.map (r.entry row) ++ [v])[unionPosition s key]?.getD .null = r.entry row key := by
  obtain ⟨i, hi⟩ := List.getElem?_of_mem hkey
  obtain ⟨j, key', hj, hcolumn, hsame⟩ :=
    unionPosition_of_key hs hnamed hi (decide_eq_true rfl : sameName key key = true)
  have hlt : j < (columns.map (r.entry row)).length := by
    rw [List.length_map]
    exact (List.getElem?_eq_some_iff.mp hcolumn).1
  rw [hj, List.getElem?_append_left hlt, List.getElem?_map, hcolumn]
  exact (Relation.entry_congr hsame r row).symm

theorem entries_unionPosition (r : Relation) (row : Row) (v : Value) :
    (s.keys.map fun k => unionPosition s k.column).map
        (fun i => (columns.map (r.entry row) ++ [v])[i]?.getD .null) =
      columns.map (r.entry row) := by
  have hpositions : (s.keys.map fun k => unionPosition s k.column) =
      columns.map (unionPosition s) := by
    rw [← hs, List.map_map]
    rfl
  rw [hpositions, List.map_map]
  exact List.map_congr_left fun key hkey => entry_unionPosition hs hnamed hkey r row v

/-- Where no key goes by the name of the measure, that label refers to the measure. -/
theorem unionPosition_measure (h : ∀ k ∈ columns, sameName k measureLabel = false) :
    unionPosition s measureLabel = columns.length := by
  have hnone : columns.findIdx? (sameName measureLabel) = none := by
    refine List.findIdx?_eq_none_iff.mpr fun k hk => ?_
    rw [sameName_comm]
    exact h k hk
  have hown : [measureLabel].findIdx? (sameName measureLabel) = some 0 := by decide +kernel
  unfold unionPosition
  rw [labels_of_named hs hnamed, List.findIdx?_append, hnone, hown]
  simp

end UnionColumns

theorem columns_countsBy (tableName : String) (legs : List Leg) (columns : List String) :
    (countsBy tableName legs columns).keys.map (·.column) = columns := by
  unfold countsBy
  rw [List.map_map]
  exact List.map_id _

/-! ## One zero per row of the pivot -/

section Zeros

variable {db : Database} {q : ZeroFilledQuery}

theorem locate?_zeros (r : Relation) (column : String) :
    locate? [(Render.zerosLabel, r)] ⟨Render.zerosLabel, column⟩ =
      (r.position? column).map (0, ·) := by
  have hfirst : List.findIdx? (fun e : String × Relation => sameName e.1 Render.zerosLabel)
      [(Render.zerosLabel, r)] = some 0 := by
    rw [List.findIdx?_cons]
    exact if_pos (decide_eq_true rfl)
  unfold locate?
  simp only [hfirst, List.getElem?_cons_zero, bind, Option.bind]
  cases r.position? column <;> rfl

theorem checkColumns_zeros {r : Relation} (h : ∀ k ∈ Render.keys q, r.hasColumn k = true) :
    checkColumns [(Render.zerosLabel, r)] (Render.zeros q) = .ok () := by
  refine Except.forM_ok fun ref href => ?_
  rcases List.mem_append.mp href with hkey | hcond
  · obtain ⟨k, hk, rfl⟩ := List.mem_map.mp hkey
    unfold check
    rw [locate?_zeros, Option.isSome_map]
    exact if_pos (h k hk)
  · cases hcond

theorem selectionRows_zeros (r : Relation) :
    selectionRows [(Render.zerosLabel, r)] (Render.zeros q) =
      (r.rows.map fun row => (Render.keys q).map (r.entry row)).map fun k => k ++ [.int 0] := by
  have hkeys : keyRows [(Render.zerosLabel, r)] (Render.zeros q) =
      r.rows.map fun row => (Render.keys q).map (r.entry row) := by
    show (r.rows.map fun row => [row]).map _ = _
    rw [List.map_map]
    refine List.map_congr_left fun row _ => ?_
    show ((Render.keys q).map fun k => (⟨Render.zerosLabel, k⟩ : ColumnRef)).map _ = _
    rw [List.map_map]
    refine List.map_congr_left fun k _ => ?_
    show value [(Render.zerosLabel, r)] [row] ⟨Render.zerosLabel, k⟩ = r.entry row k
    unfold value Relation.entry
    rw [locate?_zeros]
    cases r.position? k <;> rfl
  have hmeasure : (Render.zeros q).measure = .zero := rfl
  unfold selectionRows
  rw [hmeasure, hkeys]

end Zeros

/-! ## The whole query -/

/-- A zero-filled query whose names are in scope is rendered to the union of the counts with the
zeros, unless a key has no name. -/
theorem render_zeroFilled_of_inScope {q : ZeroFilledQuery}
    (h : InScope q.tableName q.joins q.pivotAlias) (hmeasure : measureLabel ∉ Render.keys q) :
    render (.zeroFilled q) =
      if "" ∈ Render.keys q then .error (.undeclared "")
      else .ok (.combined (selectionOf q.tableName q.joins q.pivotAlias (Render.keys q))
        (Render.zeros q)) := by
  have hclash : (Render.keys q).contains measureLabel = false := by simpa using hmeasure
  show Render.zeroFilled q = _
  unfold Render.zeroFilled
  rw [h.joined_eq]
  simp only [bind, Except.bind, hclash, Bool.false_eq_true, if_false, List.contains_eq_mem,
    decide_eq_true_eq]
  rfl

/-- Planned joins are rendered to the union of the counts with the zeros, unless a key has no
name. -/
theorem render_zeroFilled {q : ZeroFilledQuery} {legs : List Leg}
    (hjoins : q.joins = Planner.stepsFrom 0 legs) (hlabel : q.pivotAlias = tableAlias legs.length)
    (hmeasure : measureLabel ∉ Render.keys q) :
    render (.zeroFilled q) =
      if "" ∈ Render.keys q then .error (.undeclared "")
      else .ok (.combined (countsBy q.tableName legs (Render.keys q)) (Render.zeros q)) := by
  have hscope := inScope_stepsFrom q.tableName legs
  rw [← hjoins, ← hlabel] at hscope
  rw [render_zeroFilled_of_inScope hscope hmeasure, hjoins, hlabel]
  rfl

/-- What a database answers to the union of the counts with the zeros. -/
theorem run_combined {db : Database} {q : ZeroFilledQuery} {legs : List Leg}
    (hpairs : ∀ s ∈ Planner.stepsFrom 0 legs, s.pairs ≠ [])
    (hdb : db.Holds q.tableName (Planner.stepsFrom 0 legs) (tableAlias legs.length) (Render.keys q))
    (hlast : lastTable q.tableName (Planner.stepsFrom 0 legs) = q.pivotTableName) :
    (Statement.combined (countsBy q.tableName legs (Render.keys q)) (Render.zeros q)).run db =
      .ok (regroup
        ((countsBy q.tableName legs (Render.keys q)).keys.map fun k =>
          unionPosition (countsBy q.tableName legs (Render.keys q)) k.column)
        (unionPosition (countsBy q.tableName legs (Render.keys q)) measureLabel)
        (selectionRows (scopeOf db (takingPart q.tableName (Planner.stepsFrom 0 legs)))
            (countsBy q.tableName legs (Render.keys q)) ++
          selectionRows [(Render.zerosLabel, db.table q.pivotTableName)] (Render.zeros q))) := by
  have hform : (Statement.combined (countsBy q.tableName legs (Render.keys q))
      (Render.zeros q)).checkForm = .ok () := checkForm_countsBy rfl hpairs
  have hfirst : scope db (countsBy q.tableName legs (Render.keys q)).source =
      .ok (scopeOf db (takingPart q.tableName (Planner.stepsFrom 0 legs))) :=
    scope_fromOf hdb.tables
  have hpart := List.mem_of_getElem? (takingPart_last q.tableName legs)
  have htable := hdb.tables _ hpart
  have hcolumns := hdb.reported _ hpart rfl
  rw [hlast] at htable hcolumns
  have hsecond : scope db (Render.zeros q).source =
      .ok [(Render.zerosLabel, db.table q.pivotTableName)] := by
    show ([(⟨q.pivotTableName, Render.zerosLabel⟩ : Source)].mapM _) = _
    rw [List.mapM_cons, Database.relation?_eq_table htable]
    rfl
  simp only [Statement.run, Statement.rows, hform, hfirst, hsecond, checkColumns_countsBy hdb,
    checkColumns_zeros hcolumns, bind, Except.bind]
  rfl

/-- The key values of all rows of the pivot. -/
def pivotKeys (db : Database) (q : ZeroFilledQuery) : List Row :=
  (db.table q.pivotTableName).rows.map fun row =>
    (Render.keys q).map ((db.table q.pivotTableName).entry row)

section Union

variable {db : Database} {q : ZeroFilledQuery} {legs : List Leg}

theorem length_of_mem_pivotKeys {k : Row} (h : k ∈ pivotKeys db q) :
    k.length = (Render.keys q).length := by
  obtain ⟨row, _, rfl⟩ := List.mem_map.mp h
  exact List.length_map _

/-- The last row of a tuple is a row of the pivot. -/
theorem lastValues_mem_pivotKeys
    (hlast : lastTable q.tableName (Planner.stepsFrom 0 legs) = q.pivotTableName) {t : List Row}
    (ht : t ∈ ways db q.tableName legs) :
    lastValues db q.tableName (Planner.stepsFrom 0 legs) (Render.keys q) t ∈ pivotKeys db q := by
  have hrow := getLastD_mem_rows ht
  unfold lastValues
  rw [hlast] at hrow ⊢
  exact List.mem_map.mpr ⟨_, hrow, rfl⟩

theorem entries_pivotKeys (hnamed : "" ∉ Render.keys q) {k : Row} (h : k ∈ pivotKeys db q)
    (v : Value) :
    ((countsBy q.tableName legs (Render.keys q)).keys.map fun k =>
        unionPosition (countsBy q.tableName legs (Render.keys q)) k.column).map
      (fun i => (k ++ [v])[i]?.getD .null) = k := by
  obtain ⟨row, _, rfl⟩ := List.mem_map.mp h
  exact entries_unionPosition (columns_countsBy q.tableName legs _) hnamed _ row v

variable (hpairs : ∀ s ∈ Planner.stepsFrom 0 legs, s.pairs ≠ [])
  (hdb : db.Holds q.tableName (Planner.stepsFrom 0 legs) (tableAlias legs.length) (Render.keys q))
  (hlast : lastTable q.tableName (Planner.stepsFrom 0 legs) = q.pivotTableName)
  (hnamed : "" ∉ Render.keys q)

include hpairs hdb hlast hnamed

/-- Where no key goes by the name of the counts, the rows of the union are the key values in the
table of the pivot, each with the number of tuples whose last row has them. -/
theorem rows_union (hcounts : ∀ k ∈ Render.keys q, sameName k measureLabel = false) :
    ∃ rows : List (Row × Nat),
      (Statement.combined (countsBy q.tableName legs (Render.keys q)) (Render.zeros q)).run db =
        .ok (rows.map fun r => r.1 ++ [.int r.2]) ∧
      rows.Pairwise (fun a b => a.1.Before b.1) ∧
      ∀ (k : Row) (n : Nat), (k, n) ∈ rows ↔ k ∈ pivotKeys db q ∧
        n = (ways db q.tableName legs).countP fun t =>
          lastValues db q.tableName (Planner.stepsFrom 0 legs) (Render.keys q) t = k := by
  have hcolumns := columns_countsBy q.tableName legs (Render.keys q)
  have hsub : ∀ k ∈ (ways db q.tableName legs).map (lastValues db q.tableName
      (Planner.stepsFrom 0 legs) (Render.keys q)), k ∈ pivotKeys db q := by
    intro k hk
    obtain ⟨t, ht, rfl⟩ := List.mem_map.mp hk
    exact lastValues_mem_pivotKeys hlast ht
  have hzeros : selectionRows [(Render.zerosLabel, db.table q.pivotTableName)] (Render.zeros q) =
      (pivotKeys db q).map fun k => k ++ [.int 0] := selectionRows_zeros _
  rw [run_combined hpairs hdb hlast, unionPosition_measure hcolumns hnamed hcounts,
    selectionRows_countsBy, hzeros]
  generalize lastValues db q.tableName (Planner.stepsFrom 0 legs) (Render.keys q) = tag at hsub ⊢
  have hcount : ∀ k, k ∉ (ways db q.tableName legs).map tag →
      ((ways db q.tableName legs).countP fun t => tag t = k) = 0 := by
    intro k hk
    refine List.countP_eq_zero.mpr fun t ht htk => hk ?_
    exact List.mem_map.mpr ⟨t, ht, by simpa using htk⟩
  rw [regroup_counts (fun k hk => length_of_mem_pivotKeys hk)
    (fun k hk v => entries_pivotKeys hnamed hk v) hsub hcount]
  refine ⟨(distinct (distinct ((ways db q.tableName legs).map tag) ++ pivotKeys db q)).map fun k =>
      (k, (ways db q.tableName legs).countP fun t => tag t = k), ?_, ?_, ?_⟩
  · rw [List.map_map]
    rfl
  · exact List.pairwise_map.mpr (pairwise_distinct _)
  · intro k n
    have hmem : k ∈ distinct (distinct ((ways db q.tableName legs).map tag) ++ pivotKeys db q) ↔
        k ∈ pivotKeys db q := by
      rw [mem_distinct, List.mem_append, mem_distinct]
      exact ⟨fun h => h.elim (hsub k) id, Or.inr⟩
    rw [← hmem]
    constructor
    · intro h
      obtain ⟨k', hk', heq⟩ := List.mem_map.mp h
      obtain ⟨rfl, rfl⟩ := Prod.mk.inj heq
      exact ⟨hk', rfl⟩
    · rintro ⟨hk, rfl⟩
      exact List.mem_map.mpr ⟨k, hk, rfl⟩

/-- Where a key goes by the name of the counts, the rows of the union show its value in the place of
the count. -/
theorem rows_shadowed (hshadow : ∃ k ∈ Render.keys q, sameName k measureLabel = true) :
    ∃ rows : List Row,
      (Statement.combined (countsBy q.tableName legs (Render.keys q)) (Render.zeros q)).run db =
        .ok rows ∧
      ∀ row ∈ rows, ∃ (j : Nat) (key : String), (Render.keys q)[j]? = some key ∧
        sameName key measureLabel = true ∧ row[(Render.keys q).length]? = row[j]? := by
  obtain ⟨k₀, hk₀, hname⟩ := hshadow
  obtain ⟨i, hi⟩ := List.getElem?_of_mem hk₀
  have hcolumns := columns_countsBy q.tableName legs (Render.keys q)
  obtain ⟨j, key, hj, hkey, hsame⟩ :=
    unionPosition_of_key hcolumns hnamed hi ((sameName_comm _ _).trans hname)
  have hlt : j < (Render.keys q).length := (List.getElem?_eq_some_iff.mp hkey).1
  have hzeros : selectionRows [(Render.zerosLabel, db.table q.pivotTableName)] (Render.zeros q) =
      (pivotKeys db q).map fun k => k ++ [.int 0] := selectionRows_zeros _
  rw [run_combined hpairs hdb hlast, hj, selectionRows_countsBy, hzeros, union_pairs]
  generalize hp : (List.map _ _ ++ List.map _ _ : List (Row × Value)) = pairs
  have hmem : ∀ e ∈ pairs, e.1 ∈ pivotKeys db q := by
    rw [← hp]
    intro e he
    rcases List.mem_append.mp he with h | h
    · obtain ⟨k, hk, rfl⟩ := List.mem_map.mp h
      obtain ⟨t, ht, rfl⟩ := List.mem_map.mp (mem_distinct.mp hk)
      exact lastValues_mem_pivotKeys hlast ht
    · obtain ⟨k, hk, rfl⟩ := List.mem_map.mp h
      exact hk
  rw [regroup_pairs j fun e he => entries_pivotKeys hnamed (hmem e he) e.2]
  refine ⟨_, rfl, fun row hrow => ⟨j, key, hkey, (sameName_comm _ _).trans hsame, ?_⟩⟩
  obtain ⟨k, hk, rfl⟩ := List.mem_map.mp hrow
  obtain ⟨e, he, rfl⟩ := List.mem_map.mp (mem_distinct.mp hk)
  have hlen := length_of_mem_pivotKeys (hmem e he)
  have hvalue : ∀ v : Value, (e.1 ++ [v])[j]? = e.1[j]? := fun v =>
    List.getElem?_append_left (by omega)
  have hgreatest : greatest ((pairs.filter (·.1 = e.1)).map
      fun e => (e.1 ++ [e.2])[j]?.getD .null) = e.1[j]?.getD .null := by
    refine greatest_eq (List.mem_map.mpr ⟨e, List.mem_filter.mpr ⟨he, by simp⟩, ?_⟩) ?_
    · rw [hvalue]
    · intro v hv
      obtain ⟨f, hf, rfl⟩ := List.mem_map.mp hv
      have hfe : f.1 = e.1 := by simpa using (List.mem_filter.mp hf).2
      rw [hfe, hvalue]
      exact Value.less_irrefl _
  rw [hgreatest, hvalue, ← hlen, List.getElem?_concat_length]
  rw [List.getElem?_eq_getElem (by omega), Option.getD_some]

end Union

/-- The rows of the union where no two labels are the same. -/
theorem rows_combined {db : Database} {q : ZeroFilledQuery} {legs : List Leg}
    (hpairs : ∀ s ∈ Planner.stepsFrom 0 legs, s.pairs ≠ [])
    (hdb : db.Holds q.tableName (Planner.stepsFrom 0 legs) (tableAlias legs.length) (Render.keys q))
    (hlast : lastTable q.tableName (Planner.stepsFrom 0 legs) = q.pivotTableName)
    (hnamed : "" ∉ Render.keys q)
    (hnames : (Render.keys q ++ [measureLabel]).Pairwise fun a b => sameName a b = false) :
    ∃ rows : List (Row × Nat),
      (Statement.combined (countsBy q.tableName legs (Render.keys q)) (Render.zeros q)).run db =
        .ok (rows.map fun r => r.1 ++ [.int r.2]) ∧
      rows.Pairwise (fun a b => a.1.Before b.1) ∧
      ∀ (k : Row) (n : Nat), (k, n) ∈ rows ↔
        (∃ row ∈ (db.table q.pivotTableName).rows,
          (Render.keys q).map ((db.table q.pivotTableName).entry row) = k) ∧
        n = (ways db q.tableName legs).countP fun t =>
          lastValues db q.tableName (Planner.stepsFrom 0 legs) (Render.keys q) t = k := by
  obtain ⟨rows, hrun, hsorted, hrows⟩ := rows_union hpairs hdb hlast hnamed fun k hk =>
    (List.pairwise_append.mp hnames).2.2 k hk measureLabel (List.mem_singleton.mpr rfl)
  simp only [pivotKeys, List.mem_map] at hrows
  exact ⟨rows, hrun, hsorted, hrows⟩

theorem mem_keys {q : ZeroFilledQuery} {k : String} (h : k ∈ Render.keys q) :
    k = q.primaryKey ∨ k = q.pivotAttribute := by
  unfold Render.keys at h
  by_cases hsame : q.pivotAttribute = q.primaryKey
  · rw [if_pos hsame] at h
    exact Or.inl (List.mem_singleton.mp h)
  · rw [if_neg hsame] at h
    simpa using h

/-- No key of a compiled query is named like the counts. -/
theorem measureLabel_not_mem_keys {p : Planner} {i : MetricInstruction} {q : ZeroFilledQuery}
    (hq : p.compile i = .ok (.zeroFilled q)) : measureLabel ∉ Render.keys q := by
  obtain ⟨_, _, _, hplan, _, _, _, _, hne⟩ := Planner.compile_zeroFilled hq
  intro h
  rcases mem_keys h with h | h
  · exact hplan.key_ne h.symm
  · exact hne h.symm

/-- A zero-filled count that compiles is rendered if its keys have names. Over every database that
holds its tables and columns under names that differ, it then yields, strictly in the order of the
keys, each list of key values in the pivot's table, with the number of tuples whose last row has
them. With a key without a name it is not rendered. -/
theorem zero_filled_rows {p : Planner} {i : MetricInstruction} {q : ZeroFilledQuery} {db : Database}
    (hq : p.compile i = .ok (.zeroFilled q)) (hpairs : ∀ s ∈ q.joins, s.pairs ≠ [])
    (hdb : db.Holds q.tableName q.joins q.pivotAlias (Render.keys q))
    (hnames : (Render.keys q ++ [measureLabel]).Pairwise fun a b => sameName a b = false) :
    (∃ entity pivot hops,
      Planner.Planned p i entity pivot q.primaryKey q.joinPath hops q.joins q.pivotAlias ∧
      q.tableName = entity.tableName ∧ q.pivotTableName = pivot.tableName ∧
      lastTable q.tableName q.joins = q.pivotTableName) ∧
    ("" ∈ Render.keys q → render (.zeroFilled q) = .error (.undeclared "")) ∧
    ("" ∉ Render.keys q → ∃ (statement : Statement) (rows : List (Row × Nat)),
      render (.zeroFilled q) = .ok statement ∧
      statement.run db = .ok (rows.map fun r => r.1 ++ [.int r.2]) ∧
      rows.Pairwise (fun a b => a.1.Before b.1) ∧
      ∀ (k : Row) (n : Nat), (k, n) ∈ rows ↔
        (∃ row ∈ (db.table q.pivotTableName).rows,
          (Render.keys q).map ((db.table q.pivotTableName).entry row) = k) ∧
        n = (joinedTuples db q.tableName q.joins).countP fun t =>
          lastValues db q.tableName q.joins (Render.keys q) t = k) := by
  rcases Planner.compile_ok hq with ⟨_, _, _, hcount⟩ |
    ⟨entity, pivot, key, path, hops, joins, label, hplan,
      ⟨_, hgrouped⟩ | ⟨reported, _, _, hreported, hzero⟩⟩
  · cases hcount
  · cases hgrouped
  · have hjoins := hplan.joins_eq
    have hlabel := hplan.label_eq
    have hlast := lastTable_of_follows hplan.follows
    have hmeasure : measureLabel ∉ Render.keys q := by
      intro h
      cases hzero
      rcases mem_keys h with h | h
      · exact hplan.key_ne h.symm
      · exact hreported h.symm
    obtain ⟨hqt, hqp, hqj, hql⟩ : q.tableName = entity.tableName ∧
        q.pivotTableName = pivot.tableName ∧ q.joins = Planner.stepsFrom 0 (legsOf hops) ∧
        q.pivotAlias = tableAlias (legsOf hops).length := by
      cases hzero
      exact ⟨rfl, rfl, hjoins, hlabel⟩
    have hrender := render_zeroFilled hqj hql hmeasure
    rw [← hqt, ← hqp, ← hqj] at hlast
    refine ⟨⟨entity, pivot, hops, ?_, hqt, hqp, hlast⟩, fun hempty => ?_, fun hnamed => ?_⟩
    · cases hzero
      exact hplan
    · rw [hrender, if_pos hempty]
    · rw [if_neg hnamed] at hrender
      rw [hqj] at hpairs hdb hlast
      rw [hql] at hdb
      obtain ⟨rows, hrun, hsorted, hrows⟩ := rows_combined hpairs hdb hlast hnamed hnames
      rw [hqj, joinedTuples_stepsFrom]
      exact ⟨_, rows, hrender, hrun, hsorted, hrows⟩

/-! ## Pages of every author -/

/-- The pages of every author, with the author's name. -/
def pagesOfAuthors : ZeroFilledQuery :=
  { entity := "Page", tableName := "pages", pivot := "Author", pivotTableName := "authors"
    pivotAlias := "t1", primaryKey := "id", pivotAttribute := "name", joinPath := ["author"]
    joins := [⟨"author", "authors", "t1", [⟨"t0", "author_id", "id"⟩]⟩] }

theorem zero_filled_rows_press :
    ∃ (statement : Statement) (rows : List (Row × Nat)),
      render (.zeroFilled pagesOfAuthors) = .ok statement ∧
      statement.run pressDatabase = .ok (rows.map fun r => r.1 ++ [.int r.2]) ∧
      ([.int 1, .null], 2) ∈ rows ∧ ([.int 2, .text "Ada"], 0) ∈ rows := by
  have hq : (Planner.ofSnapshot pressSnapshot).compile
      ⟨.null, "Page", some "Author", none, some "name"⟩ = .ok (.zeroFilled pagesOfAuthors) := by
    decide +kernel
  have hdb : pressDatabase.Holds pagesOfAuthors.tableName pagesOfAuthors.joins
      pagesOfAuthors.pivotAlias (Render.keys pagesOfAuthors) := by decide +kernel
  obtain ⟨_, _, hnamed⟩ := zero_filled_rows hq (by decide +kernel) hdb (by decide +kernel)
  obtain ⟨statement, rows, hrender, hrun, _, hrows⟩ := hnamed (by decide +kernel)
  exact ⟨statement, rows, hrender, hrun, (hrows _ _).mpr (by decide +kernel),
    (hrows _ _).mpr (by decide +kernel)⟩

/-- An entity with an attribute without a name. -/
def namelessSnapshot : Snapshot :=
  { entities := [⟨"P", "p", some "id", ["id", ""], true⟩], associations := []
    schemaVersion := none }

/-- The counts of an entity by itself with its attribute without a name. -/
def namelessCount : ZeroFilledQuery :=
  { entity := "P", tableName := "p", pivot := "P", pivotTableName := "p", pivotAlias := "t0"
    primaryKey := "id", pivotAttribute := "", joinPath := [], joins := [] }

/-- A query whose table and columns a database holds is not rendered when a key has no name. -/
theorem zero_filled_nameless :
    (Planner.ofSnapshot namelessSnapshot).compile ⟨.int 1, "P", some "P", none, some ""⟩ =
        .ok (.zeroFilled namelessCount) ∧
      Database.Holds [("p", ⟨["id", ""], []⟩)] namelessCount.tableName namelessCount.joins
        namelessCount.pivotAlias (Render.keys namelessCount) ∧
      render (.zeroFilled namelessCount) = .error (.undeclared "") := by
  refine ⟨by decide +kernel, by decide +kernel, rfl⟩

end EntityAtlas.Sql
