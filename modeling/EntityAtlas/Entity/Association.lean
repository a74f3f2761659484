import EntityAtlas.Table

/-!
# Associations

An association is a declared relationship from an owning entity to a target. A direct target is one
entity known by name; a polymorphic one is known only row by row. Direct associations join by pairs
of columns, either straight from the owner's table to the target's or through a table in between.
Only the belongs-to associations with a direct target are edges of the entity graph: they lead from
the many to the one, so that following them never multiplies rows.
-/

namespace EntityAtlas

/-- The declared cardinality of an association. -/
inductive AssociationKind where
  /-- The owner holds the reference. -/
  | belongsTo
  /-- At most one target row refers to the owner. -/
  | hasOne
  /-- Any number of target rows refer to the owner. -/
  | hasMany
  /-- Owner and target are related by the rows of a table in between. -/
  | hasManyThrough
  /-- The target differs from row to row. -/
  | polymorphic
  deriving DecidableEq, Repr

namespace AssociationKind

/-- The word for a kind. -/
def word : AssociationKind → String
  | .belongsTo => "belongs_to"
  | .hasOne => "has_one"
  | .hasMany => "has_many"
  | .hasManyThrough => "has_many_through"
  | .polymorphic => "polymorphic"

/-- All kinds, in their usual order. -/
def all : List AssociationKind := [.belongsTo, .hasOne, .hasMany, .hasManyThrough, .polymorphic]

/-- The kind that a word names. -/
def ofWord? (w : String) : Option AssociationKind := all.find? (·.word = w)

theorem ofWord?_word (k : AssociationKind) : ofWord? k.word = some k := by
  cases k <;> decide

end AssociationKind

/-- What an association points at. -/
inductive Target where
  /-- The entity of that name. -/
  | direct (entity : String)
  /-- An entity that differs from row to row. -/
  | polymorphic
  deriving DecidableEq, Repr

/-- The table between the owner and the target of an association. -/
structure ThroughTable where
  /-- The name of the table in between. -/
  tableName : String
  /-- Pairs of an owner column and a column of this table. -/
  sourceColumns : List (String × String)
  /-- Pairs of a column of this table and a target column. -/
  targetColumns : List (String × String)
  deriving DecidableEq, Repr

/-- A declared relationship from one entity to another. -/
structure Association where
  /-- The name, by which join paths refer to it. -/
  name : String
  /-- The declared cardinality. -/
  kind : AssociationKind
  /-- What it points at. -/
  target : Target
  /-- The declared options, as texts. -/
  options : Table String
  /-- Pairs of an owner column and a target column. -/
  joinColumns : List (String × String)
  /-- The table in between, if there is one. -/
  through : Option ThroughTable
  deriving DecidableEq, Repr

namespace Association

/-- The name of the target entity, if it is known. -/
def targetEntity? (a : Association) : Option String :=
  match a.target with
  | .direct entity => some entity
  | .polymorphic => none

/-- Whether the target differs from row to row. -/
def isPolymorphic (a : Association) : Bool := a.target = .polymorphic

/-- Whether the association is an edge of the entity graph. -/
def isEdge (a : Association) : Bool := a.kind = .belongsTo && !a.isPolymorphic

end Association

end EntityAtlas
