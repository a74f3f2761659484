/-!
# Ordered tables

A table is a list of named entries that remembers the order in which names first appeared. Putting
a value under a name that is already present replaces the value and leaves the name in its place;
a new name goes to the end. Snapshots, option lists, graph vertices and the rows of query results
are all kept this way, so that an answer lists things in the order in which they were declared.
-/

namespace EntityAtlas

/-- Named entries in the order in which their names first appeared. -/
abbrev Table (α : Type) := List (String × α)

namespace Table

variable {α β : Type}

/-- The value of the first entry named `name`. -/
def find? (name : String) : Table α → Option α
  | [] => none
  | (key, value) :: rest => if key = name then some value else find? name rest

/-- Whether some entry is named `name`. -/
def has (name : String) (t : Table α) : Bool := (t.find? name).isSome

/-- The value under `name`, or `fallback` when the table has no such entry. -/
def findD (name : String) (fallback : α) (t : Table α) : α := (t.find? name).getD fallback

/-- Puts `value` under `name`: in place when the name is present, at the end otherwise. -/
def put (name : String) (value : α) : Table α → Table α
  | [] => [(name, value)]
  | (key, old) :: rest =>
    if key = name then (key, value) :: rest else (key, old) :: put name value rest

/-- Puts all entries of a list, one after the other; of two with one name the later value stays,
at the place of the earlier. -/
def putAll (t : Table α) (entries : List (String × α)) : Table α :=
  entries.foldl (fun t e => t.put e.1 e.2) t

/-- The table of a list of entries. -/
def ofEntries (entries : List (String × α)) : Table α := putAll [] entries

/-- The names of a table, in order. -/
def names (t : Table α) : List String := t.map (·.1)

/-- Removes every entry named `name`. -/
def remove (name : String) (t : Table α) : Table α := t.filter (fun e => e.1 ≠ name)

theorem find?_put_self (name : String) (value : α) (t : Table α) :
    (t.put name value).find? name = some value := by
  induction t with
  | nil => simp [put, find?]
  | cons e rest ih =>
    obtain ⟨key, old⟩ := e
    by_cases h : key = name <;> simp [put, find?, h, ih]

theorem find?_put_of_ne {name other : String} (h : other ≠ name) (value : α) (t : Table α) :
    (t.put name value).find? other = t.find? other := by
  induction t with
  | nil => simp [put, find?, Ne.symm h]
  | cons e rest ih =>
    obtain ⟨key, old⟩ := e
    by_cases hk : key = name
    · subst hk
      simp [put, find?, Ne.symm h]
    · by_cases ho : key = other
      · simp [put, find?, ho, h]
      · simp [put, find?, hk, ho, ih]

end Table

end EntityAtlas
