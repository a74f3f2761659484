import EntityAtlas.Entity.Association
import EntityAtlas.Registry.Basic
import EntityAtlas.Registry.MappingError

/-!
# Join conditions of relationships

A relationship joins its owner to its target by pairs of a foreign column and the column it refers
to. Unless the pairs are declared they come from a foreign key between the tables of the two
classes, and there must be exactly one; declared foreign columns can narrow the choice. The side on
which the foreign columns lie gives the direction.
-/

namespace EntityAtlas

/-- A pair of columns that are equal in a join: the foreign one and the one it refers to. -/
structure KeyPair where
  /-- The column that refers. -/
  foreign : ColumnPath
  /-- The column that is referred to. -/
  other : ColumnPath
  deriving DecidableEq, Repr

/-- A column of a foreign key with the column it refers to. -/
structure Reference where
  /-- The table of the foreign key and its number there. -/
  foreignKey : String × Nat
  /-- The columns. -/
  pair : KeyPair
  deriving DecidableEq, Repr

/-- Which side of a relationship holds the foreign columns. -/
inductive Direction where
  /-- The owner: many owners refer to one target. -/
  | manyToOne
  /-- The target: one owner is referred to by many targets. -/
  | oneToMany
  deriving DecidableEq, Repr

namespace Registry

/-- The foreign keys of a table with their numbers. -/
def numberedKeys (t : StoredTable) : List ((String × Nat) × ForeignKey) :=
  t.foreignKeys.zipIdx.map fun (fk, i) => ((t.key, i), fk)

/-- What a column refers to, one reference for each foreign key that it is part of. -/
def referencesOf (t : StoredTable) (column : String) : List Reference :=
  (numberedKeys t).flatMap fun (id, fk) =>
    (fk.filter (·.1 = column)).map fun pair => ⟨id, ⟨⟨t.key, column⟩, pair.2⟩⟩

/-- All references from some tables, in the order in which the columns were declared. -/
def references (r : Registry) (keys : List String) : List Reference :=
  (r.tables.filter (keys.contains ·.key)).flatMap fun t =>
    t.columns.flatMap fun c => referencesOf t c.name

/-- The references from some tables to others. -/
def referencesTo (r : Registry) (source target : List String) : List Reference :=
  (r.references source).filter fun ref => target.contains ref.pair.other.table

/-- The references between two groups of tables, in either direction. -/
def links (r : Registry) (left right : List String) : List Reference :=
  r.referencesTo right left ++ if left = right then [] else r.referencesTo left right

/-- References grouped by their foreign key, in order of first occurrence. -/
def byForeignKey : List Reference → List ((String × Nat) × List KeyPair)
  | [] => []
  | ref :: rest =>
    let groups := byForeignKey rest
    let same := (groups.filter (·.1 = ref.foreignKey)).flatMap (·.2)
    (ref.foreignKey, ref.pair :: same) :: groups.filter (·.1 ≠ ref.foreignKey)

/-- All columns of a foreign key. -/
def columnsOf (r : Registry) (id : String × Nat) : List ColumnPath :=
  match (r.table? id.1).bind fun t => t.foreignKeys[id.2]? with
  | some fk => fk.map fun pair => ⟨id.1, pair.1⟩
  | none => []

/-- Whether two lists of columns have the same members. -/
def sameColumns (a b : List ColumnPath) : Bool := a.all b.contains && b.all a.contains

/-- The outcome of looking for the foreign key that links two groups of tables. -/
inductive Linkage where
  /-- There is none. -/
  | none
  /-- There are several, or none that fits. -/
  | ambiguous
  /-- There is one, linking these columns. -/
  | one (pairs : List KeyPair)

/-- The foreign key that links the tables of one side to those of the other. The nearest tables of
the one side that are linked at all decide. Declared foreign columns rule out all other columns, and
of several foreign keys those that have other columns as well. -/
def linkage (r : Registry) (left right : List String) (declared : List ColumnPath) : Linkage :=
  let admitted (refs : List Reference) :=
    refs.filter fun ref => declared.isEmpty || declared.contains ref.pair.foreign
  let nearest := byForeignKey (admitted (r.links (left.take 1) right))
  let groups := if nearest.isEmpty then byForeignKey (admitted (r.links left right)) else nearest
  match groups with
  | [] => .none
  | [(_, pairs)] => .one pairs
  | _ =>
    let fitting := if declared.isEmpty then groups
      else groups.filter fun g => sameColumns (r.columnsOf g.1) declared
    match fitting with
    | [] => .ambiguous
    | (_, pairs) :: rest => if rest.all (·.2 = pairs) then .one pairs else .ambiguous

/-- The pairs by which two groups of tables are joined, or why there are none. -/
def pairsBetween (r : Registry) (name : RelationshipName) (secondary : Option String)
    (left right : List String) (declared : List ColumnPath) :
    Except MappingError (List KeyPair) :=
  match r.linkage left right declared with
  | .one pairs => .ok pairs
  | .none => .error (.noForeignKeys name secondary)
  | .ambiguous => .error (.ambiguousForeignKeys name secondary)

/-- Whether a column counts as lying on the side of the target. Where both sides share a table, as
when a class is related to itself, the foreign column does, unless the columns of that side are
declared. -/
def isRemote (owner target : List String) (p : Relationship) (pair : KeyPair)
    (c : ColumnPath) : Bool :=
  let shared (c : ColumnPath) := owner.contains c.table && target.contains c.table
  if !p.remoteColumns.isEmpty then p.remoteColumns.contains c
  else if shared pair.foreign && shared pair.other then c = pair.foreign
  else target.contains c.table && (owner.head? ≠ some c.table || target.head? = some c.table)

/-- The pair as an owner column and a target column, if its columns lie on different sides. -/
def acrossSides (owner target : List String) (p : Relationship) (pair : KeyPair) :
    Option (String × String) :=
  match isRemote owner target p pair pair.foreign, isRemote owner target p pair pair.other with
  | true, false => some (pair.other.column, pair.foreign.column)
  | false, true => some (pair.foreign.column, pair.other.column)
  | _, _ => none

/-- The direction of a relationship joined by some pairs. -/
def direction (name : RelationshipName) (owner target : List String) (p : Relationship)
    (pairs : List KeyPair) : Except MappingError Direction :=
  let onTarget := pairs.any fun pair => target.contains pair.foreign.table
  let onOwner := pairs.any fun pair => owner.contains pair.foreign.table
  match onTarget, onOwner with
  | true, false => .ok .oneToMany
  | false, true => .ok .manyToOne
  | false, false => .error (.unclearDirection name false)
  | true, true =>
    match pairs.any fun pair => isRemote owner target p pair pair.foreign,
      pairs.any fun pair => !isRemote owner target p pair pair.foreign with
    | true, false => .ok .oneToMany
    | false, true => .ok .manyToOne
    | _, _ => .error (.unclearDirection name true)

end Registry

/-- How a relationship joins its owner to its target. -/
inductive RelationshipJoin where
  /-- By pairs of an owner column and a target column. -/
  | straight (direction : Direction) (pairs : List (String × String))
  /-- By the rows of a table in between. -/
  | through (table : ThroughTable)
  deriving DecidableEq, Repr

namespace Registry

/-- The join of a relationship through a table in between. The link to the target is looked for
first. -/
def joinThrough (r : Registry) (name : RelationshipName) (owner target : List String)
    (p : Relationship) (secondary : StoredTable) : Except MappingError RelationshipJoin := do
  let find (side : List String) :=
    r.pairsBetween name (some secondary.key) side [secondary.key] p.foreignColumns
  let toTarget ← find target
  let toOwner ← find owner
  return .through
    { tableName := secondary.name
      sourceColumns := (toOwner.map fun pair => (pair.other.column, pair.foreign.column)).eraseDups
      targetColumns :=
        (toTarget.map fun pair => (pair.foreign.column, pair.other.column)).eraseDups }

/-- The join of a relationship between tables that are linked directly. -/
def joinStraight (r : Registry) (name : RelationshipName) (owner target : List String)
    (p : Relationship) : Except MappingError RelationshipJoin := do
  let pairs ←
    if p.condition.isEmpty then r.pairsBetween name none owner target p.foreignColumns
    else .ok (p.condition.map fun pair => ⟨pair.1, pair.2⟩)
  let direction ← direction name owner target p pairs
  let across := (pairs.filterMap (acrossSides owner target p)).eraseDups
  if across.isEmpty then .error (.noColumnPairs name) else .ok (.straight direction across)

/-- The join of a relationship that the class `owner` declares with the class `target`. -/
def join (r : Registry) (owner target : MappedClass) (p : Relationship) :
    Except MappingError RelationshipJoin :=
  let name : RelationshipName := ⟨owner.name, p.key⟩
  match p.secondary.bind r.table? with
  | some secondary => r.joinThrough name (r.tableKeys owner) (r.tableKeys target) p secondary
  | none => r.joinStraight name (r.tableKeys owner) (r.tableKeys target) p

end Registry

end EntityAtlas
