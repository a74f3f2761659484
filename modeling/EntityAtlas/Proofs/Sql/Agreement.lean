import EntityAtlas.Proofs.Sql.PivotCounts

/-!
# Agreement of the two kinds of counts

An instruction that reports an attribute of the pivot counts the same tuples as it does without the
attribute, in smaller groups and with rows for the empty ones. So the counts with one value of the
primary key add up to the grouped count of that key, to zero where the grouped count has no row for
it; and by the primary key alone the two differ in the zeros only.

The union of a zero-filled count refers to its columns by label. A key that goes by the name of the
counts up to letter case stands in their place there, and then the two do not agree.
-/

namespace EntityAtlas

/-- The counts by the primary key alone, without empty groups. -/
def ZeroFilledQuery.grouped (q : ZeroFilledQuery) : GroupedQuery :=
  { entity := q.entity, tableName := q.tableName, pivot := q.pivot, pivotAlias := q.pivotAlias
    groupBy := q.primaryKey, joinPath := q.joinPath, joins := q.joins }

namespace Sql

/-- The sum of the counts of the rows with a given first value. -/
def totalOf (rows : List (Row × Nat)) (key : Value) : Nat :=
  total (rows.filter fun r => r.1.head? = some key)

/-- The rows of a zero-filled count agree with those of the grouped one. -/
structure Agrees (db : Database) (q : ZeroFilledQuery) (filled : List (Row × Nat))
    (counts : List (Value × Nat)) : Prop where
  /-- The counts with the same primary key add up to the grouped count. -/
  total_eq : ∀ r ∈ counts, totalOf filled r.1 = r.2
  /-- They add up to zero for the keys in the table of the pivot that are not grouped. -/
  zero_iff : ∀ key, ((∃ r ∈ filled, r.1.head? = some key) ∧ totalOf filled key = 0) ↔
    (∃ row ∈ (db.table q.pivotTableName).rows,
      (db.table q.pivotTableName).entry row q.primaryKey = key) ∧ key ∉ counts.map (·.1)
  /-- By the primary key alone the rows that are not zero are the grouped ones. -/
  rows_eq : q.pivotAttribute = q.primaryKey →
    (filled.filter (·.2 ≠ 0)).map (fun r => r.1 ++ [.int r.2]) =
      counts.map fun r => [r.1, .int r.2]

theorem Database.Holds.mono {db : Database} {tableName pivotAlias : String} {joins : List JoinStep}
    {columns fewer : List String} (h : db.Holds tableName joins pivotAlias columns)
    (hsub : ∀ k ∈ fewer, k ∈ columns) : db.Holds tableName joins pivotAlias fewer :=
  ⟨h.tables, h.right, h.left, fun part hpart hname k hk =>
    h.reported part hpart hname k (hsub k hk)⟩

theorem keys_cons (q : ZeroFilledQuery) : ∃ rest, Render.keys q = q.primaryKey :: rest := by
  unfold Render.keys
  by_cases h : q.pivotAttribute = q.primaryKey
  · exact ⟨[], if_pos h⟩
  · exact ⟨[q.pivotAttribute], if_neg h⟩

section Agreement

variable {db : Database} {q : ZeroFilledQuery} {legs : List Leg} {filled : List (Row × Nat)}
  {counts : List (Value × Nat)}

theorem head?_lastValues {tableName : String} {joins : List JoinStep} {t : List Row} {v : Value} :
    (lastValues db tableName joins (Render.keys q) t).head? = some v ↔
      lastValues db tableName joins [q.primaryKey] t = [v] := by
  obtain ⟨rest, hkeys⟩ := keys_cons q
  simp [lastValues, hkeys]

theorem exists_head?_pivotKeys {v : Value} : (∃ k ∈ pivotKeys db q, k.head? = some v) ↔
    ∃ row ∈ (db.table q.pivotTableName).rows,
      (db.table q.pivotTableName).entry row q.primaryKey = v := by
  obtain ⟨rest, hkeys⟩ := keys_cons q
  simp [pivotKeys, hkeys]

variable
  (hfilled : Counts (ways db q.tableName legs)
    (lastValues db q.tableName (Planner.stepsFrom 0 legs) (Render.keys q)) filled)

include hfilled

theorem totalOf_filled (v : Value) :
    totalOf filled v = (ways db q.tableName legs).countP fun t =>
      lastValues db q.tableName (Planner.stepsFrom 0 legs) [q.primaryKey] t = [v] := by
  unfold totalOf
  rw [hfilled.total_filter fun k => k.head? = some v]
  refine List.countP_congr fun t _ => ?_
  rw [decide_eq_true_eq, decide_eq_true_eq]
  exact head?_lastValues

variable
  (hcounts : ∀ (k : Value) (n : Nat), (k, n) ∈ counts ↔
    0 < n ∧ n = (ways db q.tableName legs).countP fun t =>
      lastValues db q.tableName (Planner.stepsFrom 0 legs) [q.primaryKey] t = [k])

include hcounts

theorem totalOf_eq_zero_iff (v : Value) : totalOf filled v = 0 ↔ v ∉ counts.map (·.1) := by
  rw [totalOf_filled hfilled]
  constructor
  · intro hnone hmem
    obtain ⟨r, hr, rfl⟩ := List.mem_map.mp hmem
    obtain ⟨hpos, hcount⟩ := (hcounts r.1 r.2).mp hr
    omega
  · intro hmem
    by_contra hne
    have hpos := Nat.pos_of_ne_zero hne
    exact hmem (List.mem_map.mpr ⟨_, (hcounts v _).mpr ⟨hpos, rfl⟩, rfl⟩)

/-- By the primary key alone the zero-filled rows hold the grouped ones and zeros. -/
theorem filter_eq_singletons (hsame : q.pivotAttribute = q.primaryKey)
    (hbefore : filled.Pairwise fun a b => a.1.Before b.1)
    (hsorted : counts.Pairwise fun a b => a.1.less b.1 = true) :
    filled.filter (·.2 ≠ 0) = singletons counts := by
  have hone : Render.keys q = [q.primaryKey] := if_pos hsame
  rw [hone] at hfilled
  obtain ⟨hbefore', hsingle⟩ := counts_singletons hsorted hcounts
  -- both lists are in the same strict order, so their members settle it
  refine Evaluate.eq_of_before (hbefore.filter _) hbefore' fun r => ?_
  rw [List.mem_filter, decide_eq_true_eq]
  by_cases hr : r.2 = 0
  · refine iff_of_false (fun h => h.2 hr) fun h => ?_
    obtain ⟨c, hc, rfl⟩ := List.mem_map.mp h
    obtain ⟨hpos, _⟩ := (hcounts c.1 c.2).mp hc
    have hr : c.2 = 0 := hr
    omega
  · rw [hfilled.mem_iff hr, hsingle.mem_iff hr]
    exact and_iff_left hr

theorem agrees_of_counts (hbefore : filled.Pairwise fun a b => a.1.Before b.1)
    (hkeys : ∀ k, k ∈ filled.map (·.1) ↔ k ∈ pivotKeys db q)
    (hsorted : counts.Pairwise fun a b => a.1.less b.1 = true) : Agrees db q filled counts := by
  refine ⟨?_, ?_, ?_⟩
  · intro r hr
    rw [totalOf_filled hfilled]
    exact ((hcounts r.1 r.2).mp hr).2.symm
  · intro v
    have hfirst : (∃ r ∈ filled, r.1.head? = some v) ↔ ∃ k ∈ pivotKeys db q, k.head? = some v := by
      constructor
      · rintro ⟨r, hr, hv⟩
        exact ⟨r.1, (hkeys _).mp (List.mem_map_of_mem hr), hv⟩
      · rintro ⟨k, hk, hv⟩
        obtain ⟨r, hr, rfl⟩ := List.mem_map.mp ((hkeys k).mpr hk)
        exact ⟨r, hr, hv⟩
    rw [hfirst, exists_head?_pivotKeys, totalOf_eq_zero_iff hfilled hcounts]
  · intro hsame
    rw [filter_eq_singletons hfilled hcounts hsame hbefore hsorted, singletons, List.map_map]
    rfl

end Agreement

/-- What a database with the tables and columns of a zero-filled query answers to it, next to the
grouped counts: nothing if a key has no name, for then it is not rendered; the values of a key in
the place of the counts if a key goes by their name; and else rows that agree. -/
structure FilledAnswer (db : Database) (q : ZeroFilledQuery) (counts : List (Value × Nat)) :
    Prop where
  nameless : "" ∈ Render.keys q → render (.zeroFilled q) = .error (.undeclared "")
  shadowed : "" ∉ Render.keys q → (∃ k ∈ Render.keys q, sameName k measureLabel = true) →
    ∃ statement rows, render (.zeroFilled q) = .ok statement ∧ statement.run db = .ok rows ∧
      ∀ row ∈ rows, ∃ (j : Nat) (key : String), (Render.keys q)[j]? = some key ∧
        sameName key measureLabel = true ∧ row[(Render.keys q).length]? = row[j]?
  agrees : (∀ k ∈ Render.keys q, k ≠ "" ∧ sameName k measureLabel = false) →
    ∃ statement filled, render (.zeroFilled q) = .ok statement ∧
      statement.run db = .ok (filled.map fun r => r.1 ++ [.int r.2]) ∧ Agrees db q filled counts

/-- An instruction with a pivot and an attribute that compiles also compiles without the attribute,
to a grouped count with the same joins. Over every database that holds the tables and columns the
grouped count is answered, and the zero-filled one agrees unless a key has no name or that of the
counts. -/
theorem zero_filled_agrees {p : Planner} {i : MetricInstruction} {q : Query}
    {name reported : String} (hq : p.compile i = .ok q) (hname : i.pivot = some name)
    (hattr : i.pivotAttribute = some reported) :
    ∃ z, q = .zeroFilled z ∧ z.pivotAttribute = reported ∧
      p.compile { i with pivotAttribute := none } = .ok (.grouped z.grouped) ∧
      ∀ db : Database, (∀ s ∈ z.joins, s.pairs ≠ []) →
        db.Holds z.tableName z.joins z.pivotAlias (Render.keys z) →
        ∃ statement counts, render (.grouped z.grouped) = .ok statement ∧
          statement.run db = .ok (counts.map fun r => [r.1, .int r.2]) ∧
          FilledAnswer db z counts := by
  obtain ⟨z, rfl, hz⟩ := Planner.compile_attribute hq hname hattr
  obtain ⟨entity, pivot, hops, hplan, hentity, htable, hpivot, hpivotTable, _⟩ :=
    Planner.compile_zeroFilled hq
  refine ⟨z, rfl, hz, ?_, fun db hpairs hdb => ?_⟩
  · have hcompile := hplan.without_attribute.compile_eq rfl
    rw [← hentity, ← htable, ← hpivot] at hcompile
    exact hcompile
  · have hlast := lastTable_of_follows hplan.follows
    rw [← htable, ← hpivotTable] at hlast
    have hjoins := hplan.joins_eq
    have hlabel := hplan.label_eq
    have hrender := render_zeroFilled hjoins hlabel (measureLabel_not_mem_keys hq)
    have hgrouped := render_grouped (q := z.grouped) hjoins hlabel
    rw [hjoins] at hpairs hdb
    rw [hlabel] at hdb
    have hkey : ∀ k ∈ [z.primaryKey], k ∈ Render.keys z := by
      obtain ⟨rest, hkeys⟩ := keys_cons z
      simp [hkeys]
    obtain ⟨counts, hrun, hsorted, hcounts⟩ := rows_countsBy hpairs (hdb.mono hkey)
    refine ⟨_, counts, hgrouped, hrun, fun hempty => ?_, fun hnamed hshadow => ?_, fun hkeys => ?_⟩
    · rw [hrender, if_pos hempty]
    · rw [if_neg hnamed] at hrender
      obtain ⟨rows, hfilled, hrows⟩ := rows_shadowed hpairs hdb hlast hnamed hshadow
      exact ⟨_, rows, hrender, hfilled, hrows⟩
    · have hnamed : "" ∉ Render.keys z := fun h => (hkeys "" h).1 rfl
      rw [if_neg hnamed] at hrender
      obtain ⟨filled, hfilled, hbefore, hunion, hall⟩ :=
        counts_union hpairs hdb hlast hnamed fun k hk => (hkeys k hk).2
      exact ⟨_, filled, hrender, hfilled, agrees_of_counts hunion hcounts hbefore hall hsorted⟩

/-! ## Authors who share a number -/

/-- Two authors who share a number, a third, and two pages of the shared number. -/
def sharedNumbers : Database :=
  [("pages", ⟨["author_id"], [[.int 1], [.null], [.int 1]]⟩),
   ("authors", ⟨["id", "name"],
     [[.int 1, .text "Bob"], [.int 2, .text "Eve"], [.int 1, .text "Ada"]]⟩)]

theorem zero_filled_agrees_shared : ∃ statement counts,
    render (.zeroFilled pagesOfAuthors) = .ok statement ∧
      statement.run sharedNumbers = .ok (counts.map fun r => r.1 ++ [.int r.2]) ∧
      totalOf counts (.int 1) = 4 ∧ totalOf counts (.int 2) = 0 := by
  have hq : (Planner.ofSnapshot pressSnapshot).compile
      ⟨.null, "Page", some "Author", none, some "name"⟩ = .ok (.zeroFilled pagesOfAuthors) := by
    decide +kernel
  have hdb : sharedNumbers.Holds pagesOfAuthors.tableName pagesOfAuthors.joins
      pagesOfAuthors.pivotAlias (Render.keys pagesOfAuthors) := by decide +kernel
  obtain ⟨z, hz, _, _, halike⟩ := zero_filled_agrees hq rfl rfl
  obtain rfl : pagesOfAuthors = z := Query.zeroFilled.inj hz
  obtain ⟨grouped, counts, hrender, hrun, h⟩ := halike sharedNumbers (by decide +kernel) hdb
  obtain ⟨statement, filled, hfilled, hrows, hagrees⟩ := h.agrees (by decide +kernel)
  have hcounts : counts.map (fun r => [r.1, .int r.2]) = [[.int 1, .int 4]] := by
    obtain rfl := Except.ok.inj hrender
    exact Except.ok.inj (hrun.symm.trans (by decide +kernel))
  have hentry : ∀ r ∈ counts, r.1 = .int 1 ∧ r.2 = 4 := by
    intro r hr
    have hmem := hcounts ▸ List.mem_map_of_mem (f := fun r : Value × Nat => [r.1, .int r.2]) hr
    obtain ⟨hkey, hcount⟩ : r.1 = .int 1 ∧ (r.2 : Int) = 4 := by simpa using hmem
    exact ⟨hkey, by omega⟩
  refine ⟨statement, filled, hfilled, hrows, ?_, ?_⟩
  · have hne : counts ≠ [] := by
      rintro rfl
      cases hcounts
    obtain ⟨r, hr⟩ := List.exists_mem_of_ne_nil counts hne
    obtain ⟨hkey, hcount⟩ := hentry r hr
    rw [← hkey, hagrees.total_eq r hr, hcount]
  · refine ((hagrees.zero_iff (.int 2)).mpr ⟨by decide +kernel, fun h => ?_⟩).2
    obtain ⟨r, hr, hkey⟩ := List.mem_map.mp h
    rw [(hentry r hr).1] at hkey
    cases hkey

/-- Under a key that goes by the name of the counts the grouped count is one, and the zero-filled
one shows the key. -/
theorem zero_filled_disagrees :
    (Planner.ofSnapshot tallySnapshot).compile ⟨.int 1, "P", some "P", none, some "Count"⟩ =
        .ok (.zeroFilled tallies) ∧
      tallyDatabase.Holds tallies.tableName tallies.joins tallies.pivotAlias (Render.keys tallies) ∧
      (∃ statement, render (.grouped tallies.grouped) = .ok statement ∧
        statement.run tallyDatabase = .ok [[.int 5, .int 1]]) ∧
      ∃ statement, render (.zeroFilled tallies) = .ok statement ∧
        statement.run tallyDatabase = .ok [[.int 5, .int 5]] := by
  refine ⟨by decide +kernel, by decide +kernel, ⟨_, rfl, ?_⟩, run_tallies⟩
  decide +kernel

end Sql

end EntityAtlas
