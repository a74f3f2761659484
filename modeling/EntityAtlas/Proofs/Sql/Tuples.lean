import EntityAtlas.Proofs.Metric.Expansion
import EntityAtlas.Sql.Evaluate
import Std.Data.String.ToNat

/-!
# The tuples of a query

The tuples that a query with a pivot counts, said in two ways. `joinedTuples` reads the query: one
row for every table that takes part, in all ways, of which those stay in which every equality holds
between the columns under the names that the query gives them. `ways` reads the hops that were
planned: from every row of the counted table on to the rows that the columns of one leg after the
other lead to. For the joins of a plan both are the same list.
-/

namespace EntityAtlas

/-! ## Names of the tables that take part -/

theorem toLower_of_isDigit {c : Char} (h : c.isDigit = true) : c.toLower = c := by
  unfold Char.isDigit at h
  simp only [Bool.and_eq_true, decide_eq_true_eq] at h
  unfold Char.toLower
  split
  · rename_i hupper
    have h1 := UInt32.le_iff_toNat_le.mp h.2
    have h2 := UInt32.le_iff_toNat_le.mp hupper.1
    exact absurd (Nat.le_trans h2 h1) (by decide)
  · rfl

theorem tableAlias_injective {m n : Nat} (h : tableAlias m = tableAlias n) : m = n := by
  unfold tableAlias at h
  exact Nat.repr_injective ((String.append_right_inj _).mp h)

/-- The names of tables hold no capital letters. -/
theorem toLower_tableAlias (n : Nat) : (tableAlias n).toLower = tableAlias n := by
  unfold tableAlias String.toLower
  apply String.toList_inj.mp
  rw [String.toList_map]
  have hchars : ∀ c ∈ ("t" ++ toString n).toList, c.toLower = c := by
    intro c hc
    rw [String.toList_append] at hc
    rcases List.mem_append.mp hc with h | h
    · obtain rfl : c = 't' := by simpa using h
      decide
    · have hdigits : c ∈ Nat.toDigits 10 n := by simpa [Nat.repr] using h
      exact toLower_of_isDigit (Nat.isDigit_of_mem_toDigits (by decide) (by decide) hdigits)
  exact (List.map_congr_left hchars).trans (List.map_id _)

namespace Sql

theorem sameName_tableAlias {m n : Nat} :
    sameName (tableAlias m) (tableAlias n) = true ↔ m = n := by
  unfold sameName
  rw [toLower_tableAlias, toLower_tableAlias, decide_eq_true_eq]
  exact ⟨tableAlias_injective, fun h => h ▸ rfl⟩

/-- Entries that go by `t0`, `t1`, … in their order. -/
def Numbered {α : Type} (entries : List (String × α)) : Prop :=
  ∀ (k : Nat) (e : String × α), entries[k]? = some e → e.1 = tableAlias k

/-! ## Reading the query -/

/-- The table of a name; where there is none it is empty. -/
def Database.table (db : Database) (name : String) : Relation := (db.relation? name).getD ⟨[], []⟩

/-- The value of a column in a row of a table. -/
def Relation.entry (r : Relation) (row : Row) (column : String) : Value :=
  match r.position? column with
  | some j => row[j]?.getD .null
  | none => .null

/-- One item of every list, in all ways. -/
def product {α : Type} : List (List α) → List (List α)
  | [] => [[]]
  | items :: lists => items.flatMap fun x => (product lists).map (x :: ·)

/-- The tables that take part in a query, by the names under which they do. -/
def takingPart (tableName : String) (joins : List JoinStep) : List (String × String) :=
  (tableAlias 0, tableName) :: joins.map fun s => (s.label, s.tableName)

/-- The value that a tuple has in a column of the table that takes part under a name. -/
def valueUnder (db : Database) (parts : List (String × String)) (t : List Row)
    (label column : String) : Value :=
  match (parts.zip t).find? (·.1.1 = label) with
  | some (part, row) => (db.table part.2).entry row column
  | none => .null

/-- Whether all equalities of a step hold in a tuple. -/
def holdsIn (db : Database) (parts : List (String × String)) (t : List Row) (s : JoinStep) : Bool :=
  s.pairs.all fun p =>
    (valueUnder db parts t p.leftAlias p.leftColumn).meets
      (valueUnder db parts t s.label p.rightColumn)

/-- One row of every table that takes part, in all ways in which all equalities hold. -/
def joinedTuples (db : Database) (tableName : String) (joins : List JoinStep) : List (List Row) :=
  (product ((takingPart tableName joins).map fun part => (db.table part.2).rows)).filter fun t =>
    joins.all (holdsIn db (takingPart tableName joins) t)

/-- The table joined last; where none is joined it is the counted table. -/
def lastTable (tableName : String) (joins : List JoinStep) : String :=
  ((joins.map (·.tableName)).getLast?).getD tableName

/-- The values of some columns in the last row of a tuple. -/
def lastValues (db : Database) (tableName : String) (joins : List JoinStep) (columns : List String)
    (t : List Row) : Row :=
  columns.map fun c => (db.table (lastTable tableName joins)).entry (t.getLastD []) c

/-! ## Walking along the hops -/

/-- The rows of the table `right` that a row of the table `left` is joined to. -/
def partners (left : Relation) (row : Row) (right : Relation) (columns : List (String × String)) :
    List Row :=
  right.rows.filter fun r => columns.all fun c => (left.entry row c.1).meets (right.entry r c.2)

/-- The ways on from a row of a table along some legs. -/
def waysOn (db : Database) : Relation → Row → List Leg → List (List Row)
  | _, _, [] => [[]]
  | left, row, l :: legs =>
    (partners left row (db.table l.table) l.columns).flatMap fun r =>
      (waysOn db (db.table l.table) r legs).map (r :: ·)

/-- The ways from all rows of a table along some legs. -/
def ways (db : Database) (tableName : String) (legs : List Leg) : List (List Row) :=
  (db.table tableName).rows.flatMap fun r =>
    (waysOn db (db.table tableName) r legs).map (r :: ·)

/-! ## Both are the same -/

theorem valueUnder_tableAlias {db : Database} {parts : List (String × String)} (hn : Numbered parts)
    {t : List Row} {k : Nat} {part : String × String} {row : Row} (hp : parts[k]? = some part)
    (ht : t[k]? = some row) (column : String) :
    valueUnder db parts t (tableAlias k) column = (db.table part.2).entry row column := by
  obtain ⟨hkp, hpk⟩ := List.getElem?_eq_some_iff.mp hp
  obtain ⟨hkt, htk⟩ := List.getElem?_eq_some_iff.mp ht
  have hlen : k < (parts.zip t).length := by
    rw [List.length_zip]
    omega
  have hfind : (parts.zip t).find? (·.1.1 = tableAlias k) = some (part, row) := by
    rw [List.find?_eq_some_iff_getElem]
    refine ⟨by simpa using hn k part hp, k, hlen, ?_, ?_⟩
    · rw [List.getElem_zip, hpk, htk]
    · intro j hj
      have hjp : j < parts.length := by omega
      have hlabel := hn j parts[j] (List.getElem?_eq_getElem hjp)
      rw [List.getElem_zip, hlabel]
      have hne : tableAlias j ≠ tableAlias k := fun h => by
        have := tableAlias_injective h
        omega
      simpa using hne
  unfold valueUnder
  rw [hfind]

theorem flatMap_filter {α β : Type} (p : α → Bool) (f : α → List β) (l : List α) :
    (l.filter p).flatMap f = l.flatMap fun x => if p x then f x else [] := by
  induction l with
  | nil => rfl
  | cons a l ih =>
    rw [List.flatMap_cons, ← ih]
    by_cases h : p a = true
    · rw [List.filter_cons_of_pos h, List.flatMap_cons, if_pos h]
    · rw [List.filter_cons_of_neg h, if_neg h, List.nil_append]

theorem filter_and_const {α : Type} (c : Bool) (p : α → Bool) (l : List α) :
    (l.filter fun x => c && p x) = if c then l.filter p else [] := by
  cases c <;> simp

/-- The equalities of a leg's step in a tuple that has `row` for the table before it and `r` for its
own. -/
theorem holdsIn_step {db : Database} {parts : List (String × String)} (hn : Numbered parts)
    {t : List Row} {m : Nat} {l : Leg} {name : String} {row r : Row}
    (hleft : parts[m]? = some (tableAlias m, name))
    (hright : parts[m + 1]? = some (tableAlias (m + 1), l.table))
    (htl : t[m]? = some row) (htr : t[m + 1]? = some r) :
    holdsIn db parts t (Planner.step l.association l.table m l.columns) =
      l.columns.all fun c =>
        ((db.table name).entry row c.1).meets ((db.table l.table).entry r c.2) := by
  unfold holdsIn Planner.step Planner.pairsFrom
  rw [List.all_map]
  congr 1
  funext c
  show (valueUnder db parts t (tableAlias m) c.1).meets
    (valueUnder db parts t (tableAlias (m + 1)) c.2) = _
  rw [valueUnder_tableAlias hn hleft htl, valueUnder_tableAlias hn hright htr]

/-- The tables of some legs take part one after the other from a position on. -/
def Placed (parts : List (String × String)) (position : Nat) (legs : List Leg) : Prop :=
  ∀ (k : Nat) (l : Leg), legs[k]? = some l →
    parts[position + k]? = some (tableAlias (position + k), l.table)

theorem Placed.head {parts : List (String × String)} {position : Nat} {l : Leg} {legs : List Leg}
    (h : Placed parts position (l :: legs)) :
    parts[position]? = some (tableAlias position, l.table) := h 0 l rfl

theorem Placed.tail {parts : List (String × String)} {position : Nat} {l : Leg} {legs : List Leg}
    (h : Placed parts position (l :: legs)) : Placed parts (position + 1) legs := by
  intro k l' hk
  have hnext := h (k + 1) l' (by simpa using hk)
  rwa [show position + (k + 1) = position + 1 + k by omega] at hnext

/-- Of all ways to go on with one row of every further table, those in which the equalities of the
further steps hold are the ways along their legs. -/
theorem filter_product (db : Database) {parts : List (String × String)} (hn : Numbered parts)
    (legs : List Leg) : ∀ (m : Nat) (name : String) (front : List Row) (row : Row),
      front.length = m → parts[m]? = some (tableAlias m, name) → Placed parts (m + 1) legs →
      (product (legs.map fun l => (db.table l.table).rows)).filter (fun rest =>
          (Planner.stepsFrom m legs).all (holdsIn db parts (front ++ row :: rest))) =
        waysOn db (db.table name) row legs := by
  induction legs with
  | nil => intro m name front row _ _ _; rfl
  | cons l legs ih =>
    intro m name front row hfront hleft hlegs
    rw [List.map_cons, product, List.filter_flatMap, waysOn, partners, flatMap_filter]
    congr 1
    funext r
    rw [List.filter_map]
    have hsplit : ((fun rest => (Planner.stepsFrom m (l :: legs)).all
          (holdsIn db parts (front ++ row :: rest))) ∘ (r :: ·)) =
        fun rest => (l.columns.all fun c =>
            ((db.table name).entry row c.1).meets ((db.table l.table).entry r c.2)) &&
          (Planner.stepsFrom (m + 1) legs).all
            (holdsIn db parts ((front ++ [row]) ++ r :: rest)) := by
      funext rest
      have htl : (front ++ row :: r :: rest)[m]? = some row := by
        rw [List.getElem?_append_right (by omega), hfront, Nat.sub_self]
        rfl
      have htr : (front ++ row :: r :: rest)[m + 1]? = some r := by
        rw [List.getElem?_append_right (by omega), hfront, Nat.add_sub_cancel_left]
        rfl
      show (holdsIn db parts (front ++ row :: r :: rest) (Planner.step l.association l.table m
          l.columns) && _) = _
      rw [holdsIn_step hn hleft hlegs.head htl htr, List.append_assoc]
      rfl
    rw [hsplit, filter_and_const]
    by_cases hc : (l.columns.all fun c =>
        ((db.table name).entry row c.1).meets ((db.table l.table).entry r c.2)) = true
    · rw [if_pos hc, if_pos hc,
        ih (m + 1) l.table (front ++ [row]) r (by simp [hfront]) hlegs.head hlegs.tail]
    · rw [if_neg hc, if_neg hc]
      rfl

theorem map_tableName_stepsFrom (position : Nat) (legs : List Leg) :
    (Planner.stepsFrom position legs).map (·.tableName) = legs.map (·.table) := by
  induction legs generalizing position with
  | nil => rfl
  | cons l legs ih =>
    rw [Planner.stepsFrom, List.map_cons, List.map_cons, ih]
    rfl

theorem getElem?_stepsFrom {legs : List Leg} (position : Nat) : ∀ (k : Nat) (l : Leg),
    legs[k]? = some l → (Planner.stepsFrom position legs)[k]? =
      some (Planner.step l.association l.table (position + k) l.columns) := by
  induction legs generalizing position with
  | nil => intro k l h; simp at h
  | cons first legs ih =>
    intro k l h
    cases k with
    | zero =>
      obtain rfl : first = l := by simpa using h
      rfl
    | succ k =>
      have hk := ih (position + 1) k l (by simpa using h)
      rw [show position + (k + 1) = position + 1 + k by omega, ← hk]
      rfl

theorem takingPart_succ (tableName : String) {legs : List Leg} {k : Nat} {l : Leg}
    (h : legs[k]? = some l) : (takingPart tableName (Planner.stepsFrom 0 legs))[k + 1]? =
      some (tableAlias (k + 1), l.table) := by
  have hk := getElem?_stepsFrom 0 k l h
  rw [Nat.zero_add] at hk
  unfold takingPart
  rw [List.getElem?_cons_succ, List.getElem?_map, hk]
  rfl

theorem placed_takingPart (tableName : String) (legs : List Leg) :
    Placed (takingPart tableName (Planner.stepsFrom 0 legs)) 1 legs := by
  intro k l hk
  rw [Nat.add_comm 1 k]
  exact takingPart_succ tableName hk

theorem numbered_takingPart (tableName : String) (legs : List Leg) :
    Numbered (takingPart tableName (Planner.stepsFrom 0 legs)) := by
  intro k part hk
  cases k with
  | zero =>
    obtain rfl : (tableAlias 0, tableName) = part := by simpa [takingPart] using hk
    rfl
  | succ k =>
    have hlt : k < legs.length := by
      have := (List.getElem?_eq_some_iff.mp hk).1
      unfold takingPart at this
      rw [List.length_cons, List.length_map, Planner.length_stepsFrom] at this
      omega
    rw [takingPart_succ tableName (List.getElem?_eq_getElem hlt)] at hk
    rw [← Option.some.inj hk]

theorem takingPart_last (tableName : String) (legs : List Leg) :
    (takingPart tableName (Planner.stepsFrom 0 legs))[legs.length]? =
      some (tableAlias legs.length, lastTable tableName (Planner.stepsFrom 0 legs)) := by
  unfold lastTable
  rw [map_tableName_stepsFrom, List.getLast?_map, List.getLast?_eq_getElem?]
  cases hlen : legs.length with
  | zero =>
    rw [List.length_eq_zero_iff.mp hlen]
    rfl
  | succ n =>
    have hl : legs[n]? = some legs[n] := List.getElem?_eq_getElem (by omega)
    rw [takingPart_succ tableName hl, Nat.add_sub_cancel, hl]
    rfl

theorem getLast?_legs (a : Association) (target : Entity) :
    ((a.legs target).map (·.table)).getLast? = some target.tableName := by
  unfold Association.legs
  cases a.through <;> rfl

/-- The table joined last is that of the entity that the path leads to. -/
theorem lastTable_of_follows {s : Snapshot} {owner final : Entity} {path : List String}
    {hops : List Hop} (h : Follows s owner path hops final) :
    lastTable owner.tableName (Planner.stepsFrom 0 (legsOf hops)) = final.tableName := by
  unfold lastTable
  rw [map_tableName_stepsFrom]
  induction h with
  | stay e => rfl
  | @hop owner target final a name goal path hops _ _ _ _ ih =>
    have hlegs : legsOf ((a, target) :: hops) = a.legs target ++ legsOf hops := rfl
    rw [hlegs, List.map_append, List.getLast?_append, getLast?_legs, ← ih]
    cases ((legsOf hops).map (·.table)).getLast? <;> rfl

theorem length_waysOn {db : Database} {legs : List Leg} : ∀ {left : Relation} {row : Row}
    {t : List Row}, t ∈ waysOn db left row legs → t.length = legs.length := by
  induction legs with
  | nil =>
    intro left row t h
    rw [List.mem_singleton.mp h]
    rfl
  | cons l legs ih =>
    intro left row t h
    obtain ⟨r, _, hr⟩ := List.mem_flatMap.mp h
    obtain ⟨rest, hrest, rfl⟩ := List.mem_map.mp hr
    rw [List.length_cons, List.length_cons, ih hrest]

theorem length_ways {db : Database} {tableName : String} {legs : List Leg} {t : List Row}
    (h : t ∈ ways db tableName legs) : t.length = legs.length + 1 := by
  obtain ⟨r, _, hr⟩ := List.mem_flatMap.mp h
  obtain ⟨rest, hrest, rfl⟩ := List.mem_map.mp hr
  rw [List.length_cons, length_waysOn hrest]

/-- The tuples of planned joins are the ways along their legs. -/
theorem joinedTuples_stepsFrom (db : Database) (tableName : String) (legs : List Leg) :
    joinedTuples db tableName (Planner.stepsFrom 0 legs) = ways db tableName legs := by
  have hn := numbered_takingPart tableName legs
  have htables : (takingPart tableName (Planner.stepsFrom 0 legs)).map
      (fun part => (db.table part.2).rows) =
      (db.table tableName).rows :: legs.map fun l => (db.table l.table).rows := by
    have hmap := congrArg (List.map fun name => (db.table name).rows)
      (map_tableName_stepsFrom 0 legs)
    rw [List.map_map, List.map_map] at hmap
    rw [takingPart, List.map_cons, List.map_map]
    exact congrArg _ hmap
  unfold joinedTuples ways
  rw [htables, product, List.filter_flatMap]
  congr 1
  funext r
  rw [List.filter_map]
  have hways := filter_product db hn legs 0 tableName [] r rfl rfl
    (placed_takingPart tableName legs)
  rw [← hways]
  rfl

theorem mem_product {α : Type} : ∀ {lists : List (List α)} {t : List α}, t ∈ product lists →
    ∀ (k : Nat) (items : List α), lists[k]? = some items → ∃ x, t[k]? = some x ∧ x ∈ items
  | [], _, _, k, items, hk => by simp at hk
  | first :: lists, t, ht, k, items, hk => by
    obtain ⟨x, hx, hmap⟩ := List.mem_flatMap.mp ht
    obtain ⟨rest, hrest, rfl⟩ := List.mem_map.mp hmap
    cases k with
    | zero =>
      obtain rfl : first = items := by simpa using hk
      exact ⟨x, rfl, hx⟩
    | succ k => exact mem_product hrest k items (by simpa using hk)

section Ways

variable {db : Database} {tableName : String} {legs : List Leg} {t : List Row}

theorem getLastD_of_mem_ways (h : t ∈ ways db tableName legs) :
    t.getLastD [] = t[legs.length]?.getD [] := by
  rw [List.getLastD_eq_getLast?, List.getLast?_eq_getElem?, length_ways h, Nat.add_sub_cancel]

/-- The last row of a tuple is one of the table joined last. -/
theorem getLastD_mem_rows (h : t ∈ ways db tableName legs) :
    t.getLastD [] ∈ (db.table (lastTable tableName (Planner.stepsFrom 0 legs))).rows := by
  have hproduct := h
  rw [← joinedTuples_stepsFrom] at hproduct
  have hlast := takingPart_last tableName legs
  obtain ⟨row, hrow, hmem⟩ := mem_product (List.mem_filter.mp hproduct).1 legs.length
    (db.table (lastTable tableName (Planner.stepsFrom 0 legs))).rows (by
      rw [List.getElem?_map, hlast]
      rfl)
  rw [getLastD_of_mem_ways h, hrow]
  exact hmem

end Ways

end Sql

end EntityAtlas
