import EntityAtlas.Validation.Issue

/-!
# Validation that goes on after an error

A check either yields a value or lists issues. Two checks side by side list the issues of both, in
their order, so a report on a record names every faulty field at once; a check that needs the value
of another is out of place here, and there is no monad.
-/

namespace EntityAtlas

/-- The outcome of a check. -/
inductive Checked (α : Type) where
  /-- The value that was read. -/
  | valid (value : α)
  /-- What is wrong, in order. -/
  | invalid (issues : List Issue)

namespace Checked

variable {α β : Type}

/-- Applies a function to the value. -/
def map (f : α → β) : Checked α → Checked β
  | .valid a => .valid (f a)
  | .invalid issues => .invalid issues

/-- Applies a checked function to a checked value, gathering the issues of both. -/
def apply : Checked (α → β) → Checked α → Checked β
  | .valid f, .valid a => .valid (f a)
  | .valid _, .invalid issues => .invalid issues
  | .invalid issues, .valid _ => .invalid issues
  | .invalid issues, .invalid more => .invalid (issues ++ more)

instance : Functor Checked where
  map := map

instance : Applicative Checked where
  pure := .valid
  seq f a := apply f (a ())

@[simp] theorem valid_seq_valid (f : α → β) (a : α) :
    (Checked.valid f <*> Checked.valid a) = Checked.valid (f a) := rfl

@[simp] theorem map_valid (f : α → β) (a : α) : (f <$> Checked.valid a) = Checked.valid (f a) := rfl

/-- A check that finds one problem with the whole document. -/
def problem (p : Problem) : Checked α := .invalid [⟨[], p⟩]

/-- The same outcome for a part reached by `step`. -/
def under (step : Step) : Checked α → Checked α
  | .valid a => .valid a
  | .invalid issues => .invalid (issues.map (·.under step))

@[simp] theorem under_valid (step : Step) (a : α) : (Checked.valid a).under step = .valid a := rfl

/-- Checks every element of a list, each at the place the list of steps gives it. -/
def each (read : Document → Checked α) : List (Step × Document) → Checked (List α)
  | [] => .valid []
  | (step, d) :: rest => (fun a as => a :: as) <$> (read d).under step <*> each read rest

/-- The items of a list with their places. -/
def indexed (items : List Document) : List (Step × Document) :=
  items.zipIdx.map fun (d, i) => (.index i, d)

/-- The outcome as a value or a report under a title. -/
def toExcept (title : String) : Checked α → Except ValidationReport α
  | .valid a => .ok a
  | .invalid issues => .error ⟨title, issues⟩

end Checked

end EntityAtlas
