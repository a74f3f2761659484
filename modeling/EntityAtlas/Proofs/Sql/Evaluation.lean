import EntityAtlas.Proofs.Except
import EntityAtlas.Proofs.Sql.Tuples
import EntityAtlas.Proofs.Table
import EntityAtlas.Sql.Render

/-!
# Running planned joins

Planned joins are rendered to tables joined one after the other, and over a database that holds
their tables and columns every name that the statement looks up is found: a column under a name is
a column of the table that takes part under it. The tuples that the database joins are then the
tuples of the query.
-/

namespace EntityAtlas.Sql

/-- Whether a table has a column. -/
def Relation.hasColumn (r : Relation) (name : String) : Bool := (r.position? name).isSome

/-- A database holds the tables that take part in a query and the columns that it names under each
name, the reported columns under the name of the pivot among them. -/
structure Database.Holds (db : Database) (tableName : String) (joins : List JoinStep)
    (pivotAlias : String) (reported : List String) : Prop where
  /-- The tables. -/
  tables : ∀ part ∈ takingPart tableName joins, (db.relation? part.2).isSome = true
  /-- The columns on the right of equalities. -/
  right : ∀ s ∈ joins, ∀ p ∈ s.pairs, (db.table s.tableName).hasColumn p.rightColumn = true
  /-- The columns on the left of equalities. -/
  left : ∀ s ∈ joins, ∀ p ∈ s.pairs, ∀ part ∈ takingPart tableName joins,
    part.1 = p.leftAlias → (db.table part.2).hasColumn p.leftColumn = true
  /-- The reported columns. -/
  reported : ∀ part ∈ takingPart tableName joins, part.1 = pivotAlias →
    ∀ k ∈ reported, (db.table part.2).hasColumn k = true

instance (db : Database) (tableName : String) (joins : List JoinStep) (pivotAlias : String)
    (reported : List String) : Decidable (db.Holds tableName joins pivotAlias reported) :=
  decidable_of_iff
    ((∀ part ∈ takingPart tableName joins, (db.relation? part.2).isSome = true) ∧
      (∀ s ∈ joins, ∀ p ∈ s.pairs, (db.table s.tableName).hasColumn p.rightColumn = true) ∧
      (∀ s ∈ joins, ∀ p ∈ s.pairs, ∀ part ∈ takingPart tableName joins,
        part.1 = p.leftAlias → (db.table part.2).hasColumn p.leftColumn = true) ∧
      ∀ part ∈ takingPart tableName joins, part.1 = pivotAlias →
        ∀ k ∈ reported, (db.table part.2).hasColumn k = true)
    ⟨fun ⟨h1, h2, h3, h4⟩ => ⟨h1, h2, h3, h4⟩, fun h => ⟨h.tables, h.right, h.left, h.reported⟩⟩

theorem Database.relation?_eq_table {db : Database} {name : String}
    (h : (db.relation? name).isSome = true) : db.relation? name = some (db.table name) := by
  obtain ⟨r, hr⟩ := Option.isSome_iff_exists.mp h
  rw [Database.table, hr]
  rfl

/-! ## Rendering -/

/-- The join of a step, with every name written as it stands in the step. -/
def joinOf (s : JoinStep) : Join :=
  ⟨⟨s.tableName, s.label⟩,
    s.pairs.map fun p => (⟨p.leftAlias, p.leftColumn⟩, ⟨s.label, p.rightColumn⟩)⟩

/-- The joined tables of a query. -/
def fromOf (tableName : String) (joins : List JoinStep) : From :=
  ⟨⟨tableName, tableAlias 0⟩, joins.map joinOf⟩

/-- The counts of the joined tuples by some columns of the pivot. -/
def selectionOf (tableName : String) (joins : List JoinStep) (pivotAlias : String)
    (columns : List String) : Selection :=
  ⟨columns.map fun c => ⟨pivotAlias, c⟩, .count, fromOf tableName joins⟩

theorem Numbered.nodup {α : Type} {entries : List (String × α)} (h : Numbered entries) :
    (entries.map Prod.fst).Nodup := by
  rw [List.nodup_iff_injective_getElem]
  intro a b hab
  have hlen : ∀ k : Fin (entries.map Prod.fst).length, k.val < entries.length := fun k => by
    simpa only [List.length_map] using k.isLt
  have hname : ∀ k : Fin (entries.map Prod.fst).length,
      (entries.map Prod.fst)[k.val] = tableAlias k.val := fun k => by
    rw [List.getElem_map]
    exact h k.val _ (List.getElem?_eq_getElem (hlen k))
  have heq : (entries.map Prod.fst)[a.val] = (entries.map Prod.fst)[b.val] := hab
  rw [hname, hname] at heq
  exact Fin.ext (tableAlias_injective heq)

/-- The names in a query are in scope: the tables take part under different names, that of the pivot
is one of them, and every join starts from the counted table or a table joined before. -/
structure InScope (tableName : String) (joins : List JoinStep) (pivotAlias : String) : Prop where
  nodup : ((takingPart tableName joins).map (·.1)).Nodup
  pivot : pivotAlias ∈ (takingPart tableName joins).map (·.1)
  earlier : ∀ (k : Nat) (s : JoinStep), joins[k]? = some s → ∀ pair ∈ s.pairs,
    pair.leftAlias ∈ ((takingPart tableName joins).take (k + 1)).map (·.1)

namespace InScope

variable {tableName pivotAlias : String} {joins : List JoinStep}

theorem source_eq (h : InScope tableName joins pivotAlias) {part : String × String}
    (hpart : part ∈ takingPart tableName joins) :
    Render.source (Render.tables tableName joins) part.1 = .ok ⟨part.2, part.1⟩ := by
  have hfind : (Render.tables tableName joins).find? part.1 = some part.2 :=
    Table.find?_ofEntries_of_mem h.nodup hpart
  unfold Render.source
  rw [hfind]

theorem exists_source (h : InScope tableName joins pivotAlias) {label : String}
    (hlabel : label ∈ (takingPart tableName joins).map (·.1)) :
    ∃ name, Render.source (Render.tables tableName joins) label = .ok ⟨name, label⟩ := by
  obtain ⟨part, hpart, rfl⟩ := List.mem_map.mp hlabel
  exact ⟨part.2, h.source_eq hpart⟩

/-- Both sides of an equality refer to tables that take part. -/
theorem join_eq (h : InScope tableName joins pivotAlias) {s : JoinStep} (hs : s ∈ joins) :
    Render.join (Render.tables tableName joins) s = .ok (joinOf s) := by
  obtain ⟨k, hk⟩ := List.getElem?_of_mem hs
  have hpart : (s.label, s.tableName) ∈ takingPart tableName joins :=
    List.mem_cons_of_mem _ (List.mem_map.mpr ⟨s, hs, rfl⟩)
  have hown := h.source_eq hpart
  have hconds : s.pairs.mapM (Render.condition (Render.tables tableName joins) s) =
      .ok (s.pairs.map fun p => (⟨p.leftAlias, p.leftColumn⟩, ⟨s.label, p.rightColumn⟩)) := by
    refine Except.mapM_ok fun p hp => ?_
    obtain ⟨part, hpart, hname⟩ := List.mem_map.mp (h.earlier k s hk p hp)
    obtain ⟨name, hleft⟩ :=
      h.exists_source (List.mem_map.mpr ⟨part, List.mem_of_mem_take hpart, hname⟩)
    unfold Render.condition
    rw [hleft]
    rfl
  unfold Render.join
  rw [hown, hconds]
  rfl

/-- Joins whose names are in scope are rendered, every name as it stands. -/
theorem joined_eq (h : InScope tableName joins pivotAlias) :
    Render.joined tableName pivotAlias joins = .ok (fromOf tableName joins) := by
  obtain ⟨name, hpivot⟩ := h.exists_source h.pivot
  have hroot : Render.source (Render.tables tableName joins) (tableAlias 0) =
      .ok ⟨tableName, tableAlias 0⟩ := h.source_eq List.mem_cons_self
  have hjoins : joins.mapM (Render.join (Render.tables tableName joins)) =
      .ok (joins.map joinOf) := Except.mapM_ok fun s hs => h.join_eq hs
  simp only [Render.joined, Render.rootLabel, hpivot, hroot, hjoins, bind, Except.bind]
  rfl

end InScope

section Planned

variable {legs : List Leg}

/-- The step of a leg, with the tables that its two sides refer to. -/
theorem step_of_getElem? {k : Nat} {s : JoinStep} (h : (Planner.stepsFrom 0 legs)[k]? = some s) :
    ∃ l : Leg, legs[k]? = some l ∧ s = Planner.step l.association l.table k l.columns := by
  have hlt : k < legs.length := by
    have := (List.getElem?_eq_some_iff.mp h).1
    rwa [Planner.length_stepsFrom] at this
  have hl := List.getElem?_eq_getElem hlt
  have hstep := getElem?_stepsFrom 0 k _ hl
  rw [h, Nat.zero_add] at hstep
  exact ⟨legs[k], hl, Option.some.inj hstep⟩

theorem mem_stepsFrom {s : JoinStep} (h : s ∈ Planner.stepsFrom 0 legs) :
    ∃ (k : Nat) (l : Leg), legs[k]? = some l ∧
      s = Planner.step l.association l.table k l.columns := by
  obtain ⟨k, hk⟩ := List.getElem?_of_mem h
  exact ⟨k, step_of_getElem? hk⟩

theorem exists_takingPart (tableName : String) {k : Nat} (h : k ≤ legs.length) :
    ∃ name, (takingPart tableName (Planner.stepsFrom 0 legs))[k]? = some (tableAlias k, name) := by
  cases k with
  | zero => exact ⟨tableName, rfl⟩
  | succ k => exact ⟨_, takingPart_succ tableName (List.getElem?_eq_getElem h)⟩

/-- The names in planned joins are in scope. -/
theorem inScope_stepsFrom (tableName : String) (legs : List Leg) :
    InScope tableName (Planner.stepsFrom 0 legs) (tableAlias legs.length) := by
  refine ⟨(numbered_takingPart tableName legs).nodup, ?_, ?_⟩
  · exact List.mem_map.mpr ⟨_, List.mem_of_getElem? (takingPart_last tableName legs), rfl⟩
  · intro k s hk pair hpair
    obtain ⟨l, hl, rfl⟩ := step_of_getElem? hk
    obtain ⟨c, _, rfl⟩ := List.mem_map.mp hpair
    obtain ⟨name, hname⟩ :=
      exists_takingPart tableName (Nat.le_of_lt (List.getElem?_eq_some_iff.mp hl).1)
    have htake : ((takingPart tableName (Planner.stepsFrom 0 legs)).take (k + 1))[k]? =
        some (tableAlias k, name) := by
      rw [List.getElem?_take_of_lt (Nat.lt_succ_self k)]
      exact hname
    exact List.mem_map.mpr ⟨(tableAlias k, name), List.mem_of_getElem? htake, rfl⟩

end Planned

/-! ## Looking up -/

open Evaluate

/-- The tables that take part, by their names. -/
def scopeOf (db : Database) (parts : List (String × String)) : Scope :=
  parts.map fun part => (part.1, db.table part.2)

theorem sources_fromOf (tableName : String) (joins : List JoinStep) :
    sources (fromOf tableName joins) =
      (takingPart tableName joins).map fun part => ⟨part.2, part.1⟩ := by
  unfold sources fromOf takingPart
  rw [List.map_cons, List.map_map, List.map_map]
  rfl

theorem scope_fromOf {db : Database} {tableName : String} {joins : List JoinStep}
    (h : ∀ part ∈ takingPart tableName joins, (db.relation? part.2).isSome = true) :
    scope db (fromOf tableName joins) = .ok (scopeOf db (takingPart tableName joins)) := by
  unfold scope scopeOf
  rw [sources_fromOf, List.mapM_map]
  refine Except.mapM_ok fun part hp => ?_
  simp only [Function.comp_apply, Database.relation?_eq_table (h part hp)]

section Lookup

variable {db : Database} {parts : List (String × String)} {k : Nat} {part : String × String}

theorem locate?_scopeOf (hn : Numbered parts) (hp : parts[k]? = some part) (column : String) :
    locate? (scopeOf db parts) ⟨tableAlias k, column⟩ =
      ((db.table part.2).position? column).map (k, ·) := by
  obtain ⟨hk, hkp⟩ := List.getElem?_eq_some_iff.mp hp
  have hfirst : (scopeOf db parts).findIdx? (fun e => sameName e.1 (tableAlias k)) = some k := by
    unfold scopeOf
    rw [List.findIdx?_map, List.findIdx?_eq_some_iff_getElem]
    refine ⟨hk, ?_, ?_⟩
    · show sameName parts[k].1 (tableAlias k) = true
      rw [hkp, hn k part hp]
      exact sameName_tableAlias.mpr rfl
    · intro j hj
      have hjp : j < parts.length := by omega
      show ¬sameName parts[j].1 (tableAlias k) = true
      rw [hn j _ (List.getElem?_eq_getElem hjp), sameName_tableAlias]
      omega
  have hentry : (scopeOf db parts)[k]? = some (part.1, db.table part.2) := by
    unfold scopeOf
    rw [List.getElem?_map, hp]
    rfl
  unfold locate?
  simp only [hfirst, hentry, bind, Option.bind]
  cases (db.table part.2).position? column <;> rfl

theorem value_scopeOf (hn : Numbered parts) (hp : parts[k]? = some part) (t : Tuple)
    (column : String) :
    value (scopeOf db parts) t ⟨tableAlias k, column⟩ =
      (db.table part.2).entry (t[k]?.getD []) column := by
  unfold value Relation.entry
  rw [locate?_scopeOf hn hp]
  cases (db.table part.2).position? column <;> rfl

theorem check_scopeOf (hn : Numbered parts) (hp : parts[k]? = some part) {column : String}
    (hc : (db.table part.2).hasColumn column = true) :
    check (scopeOf db parts) ⟨tableAlias k, column⟩ = .ok () := by
  unfold check
  rw [locate?_scopeOf hn hp, Option.isSome_map]
  exact if_pos hc

end Lookup

/-! ## Joining -/

section Joining

variable {db : Database} {parts : List (String × String)}

/-- A tuple satisfies the conditions of a leg's join if its last row is joined to the one before. -/
theorem satisfies_step (hn : Numbered parts) {t : Tuple} {m : Nat} {l : Leg} {name : String}
    (hlen : t.length = m + 1) (hleft : parts[m]? = some (tableAlias m, name))
    (hright : parts[m + 1]? = some (tableAlias (m + 1), l.table)) (r : Row) :
    satisfies (scopeOf db parts) (t ++ [r])
        (joinOf (Planner.step l.association l.table m l.columns)) =
      l.columns.all fun c =>
        ((db.table name).entry (t[m]?.getD []) c.1).meets ((db.table l.table).entry r c.2) := by
  have htm : (t ++ [r])[m]? = t[m]? := List.getElem?_append_left (by omega)
  have htr : (t ++ [r])[m + 1]? = some r := by
    rw [← hlen]
    exact List.getElem?_concat_length
  unfold satisfies joinOf Planner.step Planner.pairsFrom
  rw [List.all_map, List.all_map]
  congr 1
  funext c
  show (value _ _ ⟨tableAlias m, c.1⟩).meets (value _ _ ⟨tableAlias (m + 1), c.2⟩) = _
  rw [value_scopeOf hn hleft, value_scopeOf hn hright, htm, htr]
  rfl

/-- Extending tuples by the tables of some legs appends the ways on from their last rows. -/
theorem extend_stepsFrom (db : Database) (hn : Numbered parts) (legs : List Leg) :
    ∀ (m : Nat) (name : String) (ts : List Tuple), (∀ t ∈ ts, t.length = m + 1) →
      parts[m]? = some (tableAlias m, name) → Placed parts (m + 1) legs →
      extend (scopeOf db parts) (((Planner.stepsFrom m legs).map joinOf).zip
          (legs.map fun l => db.table l.table)) ts =
        ts.flatMap fun t => (waysOn db (db.table name) (t[m]?.getD []) legs).map (t ++ ·) := by
  induction legs with
  | nil =>
    intro m name ts _ _ _
    have hsame : ∀ t : Tuple, (waysOn db (db.table name) (t[m]?.getD []) []).map (t ++ ·) = [t] :=
      fun t => by rw [waysOn, List.map_singleton, List.append_nil]
    rw [List.map_nil, List.zip_nil_right, extend, funext hsame, List.flatMap_singleton']
  | cons l legs ih =>
    intro m name ts hlen hleft hlegs
    rw [Planner.stepsFrom, List.map_cons, List.map_cons, List.zip_cons_cons, extend]
    rw [ih (m + 1) l.table _ ?_ hlegs.head hlegs.tail, List.flatMap_assoc]
    · refine List.flatMap_congr fun t ht => ?_
      have htr : ∀ r : Row, (t ++ [r])[m + 1]? = some r := fun r => by
        rw [← hlen t ht]
        exact List.getElem?_concat_length
      rw [List.filter_map, List.flatMap_map, waysOn, List.map_flatMap, partners]
      have hkept : ((fun t' => satisfies (scopeOf db parts) t'
          (joinOf (Planner.step l.association l.table m l.columns))) ∘ fun r => t ++ [r]) =
          fun r => l.columns.all fun c =>
            ((db.table name).entry (t[m]?.getD []) c.1).meets ((db.table l.table).entry r c.2) :=
        funext fun r => satisfies_step hn (hlen t ht) hleft hlegs.head r
      rw [hkept]
      refine List.flatMap_congr fun r _ => ?_
      rw [htr, List.map_map]
      refine List.map_congr_left fun rest _ => ?_
      exact List.append_assoc t [r] rest
    · intro t' ht'
      obtain ⟨t, ht, hmem⟩ := List.mem_flatMap.mp ht'
      obtain ⟨r, _, rfl⟩ := List.mem_map.mp (List.mem_filter.mp hmem).1
      rw [List.length_append, hlen t ht]
      rfl

end Joining

/-- The tuples that a database joins for planned joins. -/
theorem tuples_stepsFrom (db : Database) (tableName : String) (legs : List Leg) :
    tuples (scopeOf db (takingPart tableName (Planner.stepsFrom 0 legs)))
        (fromOf tableName (Planner.stepsFrom 0 legs)) =
      ways db tableName legs := by
  have htables : (scopeOf db ((Planner.stepsFrom 0 legs).map fun s => (s.label, s.tableName))).map
      (·.2) = legs.map fun l => db.table l.table := by
    have hmap := congrArg (List.map db.table) (map_tableName_stepsFrom 0 legs)
    rw [List.map_map, List.map_map] at hmap
    unfold scopeOf
    rw [List.map_map, List.map_map]
    exact hmap
  have hextend := extend_stepsFrom db (numbered_takingPart tableName legs) legs 0 tableName
    ((db.table tableName).rows.map fun r => [r])
    (fun t ht => by
      obtain ⟨r, _, rfl⟩ := List.mem_map.mp ht
      rfl)
    rfl (placed_takingPart tableName legs)
  show extend _ (((Planner.stepsFrom 0 legs).map joinOf).zip
    ((scopeOf db ((Planner.stepsFrom 0 legs).map fun s => (s.label, s.tableName))).map (·.2)))
    ((db.table tableName).rows.map fun r => [r]) = _
  rw [htables, hextend, List.flatMap_map]
  rfl

/-! ## Counting -/

/-- The counts of planned joins by some columns of the table joined last. -/
def countsBy (tableName : String) (legs : List Leg) (columns : List String) : Selection :=
  ⟨columns.map fun c => ⟨tableAlias legs.length, c⟩, .count,
    fromOf tableName (Planner.stepsFrom 0 legs)⟩

section Counting

variable {db : Database} {tableName : String} {legs : List Leg} {columns : List String}

/-- Every column that is referred to is found. -/
theorem checkColumns_countsBy
    (h : db.Holds tableName (Planner.stepsFrom 0 legs) (tableAlias legs.length) columns) :
    checkColumns (scopeOf db (takingPart tableName (Planner.stepsFrom 0 legs)))
      (countsBy tableName legs columns) = .ok () := by
  have hn := numbered_takingPart tableName legs
  refine Except.forM_ok fun ref href => ?_
  rcases List.mem_append.mp href with hkey | hcond
  · obtain ⟨c, hc, rfl⟩ := List.mem_map.mp hkey
    have hlast := takingPart_last tableName legs
    exact check_scopeOf hn hlast (h.reported _ (List.mem_of_getElem? hlast) rfl c hc)
  · obtain ⟨j, hj, hj'⟩ := List.mem_flatMap.mp hcond
    obtain ⟨s, hs, rfl⟩ := List.mem_map.mp hj
    obtain ⟨ab, hab, href⟩ := List.mem_flatMap.mp hj'
    obtain ⟨p, hp, rfl⟩ := List.mem_map.mp hab
    obtain ⟨m, l, hl, rfl⟩ := mem_stepsFrom hs
    have hpair := hp
    obtain ⟨c, hc, rfl⟩ := List.mem_map.mp hp
    have hlt : m < legs.length := (List.getElem?_eq_some_iff.mp hl).1
    obtain ⟨name, hleft⟩ := exists_takingPart tableName (Nat.le_of_lt hlt)
    have hright := takingPart_succ tableName hl
    rcases List.mem_cons.mp href with rfl | href
    · exact check_scopeOf hn hleft (h.left _ hs _ hpair _ (List.mem_of_getElem? hleft) rfl)
    · rw [List.mem_singleton.mp href]
      exact check_scopeOf hn hright (h.right _ hs _ hpair)

/-- The key values of the tuples are the values of the columns in their last rows. -/
theorem keyRows_countsBy (db : Database) (tableName : String) (legs : List Leg)
    (columns : List String) :
    keyRows (scopeOf db (takingPart tableName (Planner.stepsFrom 0 legs)))
        (countsBy tableName legs columns) =
      (ways db tableName legs).map
        (lastValues db tableName (Planner.stepsFrom 0 legs) columns) := by
  unfold keyRows countsBy
  rw [tuples_stepsFrom]
  refine List.map_congr_left fun t ht => ?_
  unfold lastValues
  rw [List.map_map, getLastD_of_mem_ways ht]
  refine List.map_congr_left fun c _ => ?_
  exact value_scopeOf (numbered_takingPart tableName legs) (takingPart_last tableName legs) t c

/-- The counts by some columns: every list of values that the last row of a tuple has in them, with
the number of those tuples. -/
theorem selectionRows_countsBy (db : Database) (tableName : String) (legs : List Leg)
    (columns : List String) :
    selectionRows (scopeOf db (takingPart tableName (Planner.stepsFrom 0 legs)))
        (countsBy tableName legs columns) =
      (distinct ((ways db tableName legs).map
        (lastValues db tableName (Planner.stepsFrom 0 legs) columns))).map fun k =>
          k ++ [.int ((ways db tableName legs).countP fun t =>
            lastValues db tableName (Planner.stepsFrom 0 legs) columns t = k)] := by
  have hmeasure : (countsBy tableName legs columns).measure = .count := rfl
  unfold selectionRows
  rw [hmeasure, keyRows_countsBy]
  refine List.map_congr_left fun k _ => ?_
  rw [List.count, List.countP_map]
  have hsame :
      (fun x : Row => x == k) ∘ lastValues db tableName (Planner.stepsFrom 0 legs) columns =
        fun t => decide (lastValues db tableName (Planner.stepsFrom 0 legs) columns t = k) :=
    funext fun t => Bool.beq_eq_decide_eq _ _
  rw [hsame]

/-- No condition is missing where every step has one. -/
theorem missingCondition?_joinOf {joins : List JoinStep} (h : ∀ s ∈ joins, s.pairs ≠ []) :
    missingCondition? (joins.map joinOf) = none := by
  induction joins with
  | nil => rfl
  | cons s joins ih =>
    have hconds : (joinOf s).conditions.isEmpty = false := by
      rw [joinOf, List.isEmpty_map, List.isEmpty_eq_false_iff]
      exact h s List.mem_cons_self
    rw [List.map_cons, missingCondition?, hconds]
    exact ih fun x hx => h x (List.mem_cons_of_mem _ hx)

/-- Counting along planned joins leaves no condition out. -/
theorem checkForm_countsBy {statement : Statement}
    (h : statement.counted? = some (countsBy tableName legs columns))
    (hpairs : ∀ s ∈ Planner.stepsFrom 0 legs, s.pairs ≠ []) : statement.checkForm = .ok () := by
  have hform : missingCondition? (countsBy tableName legs columns).source.joins = none :=
    missingCondition?_joinOf hpairs
  unfold Statement.checkForm
  rw [h, Option.bind_some, hform]

end Counting

end EntityAtlas.Sql
