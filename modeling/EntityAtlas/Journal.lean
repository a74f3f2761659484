import EntityAtlas.Document.Basic

/-!
# The journal

What happens while a request is answered is recorded as events. An event has a level, a name and
fields of its own; the fields of the current context are added to it, its own fields taking
precedence. A context is opened for a part of the work and closed again on every way out of it,
also when the work is abandoned; closing gives the names it bound the values they had before.
-/

namespace EntityAtlas

/-- How important an event is. -/
inductive Level where
  /-- Of interest when looking for a fault. -/
  | debug
  /-- What is usually done. -/
  | info
  /-- Degraded but usable. -/
  | warning
  /-- Failed. -/
  | error
  /-- Nothing works any more. -/
  | critical
  deriving DecidableEq, Repr

namespace Level

/-- The word for a level. -/
def word : Level → String
  | .debug => "debug"
  | .info => "info"
  | .warning => "warning"
  | .error => "error"
  | .critical => "critical"

/-- The numeric importance of a level. -/
def weight : Level → Nat
  | .debug => 10
  | .info => 20
  | .warning => 30
  | .error => 40
  | .critical => 50

/-- All levels, the least important first. -/
def all : List Level := [.debug, .info, .warning, .error, .critical]

/-- The level that a word names. -/
def ofWord? (w : String) : Option Level := all.find? (·.word = w)

end Level

/-- Something that happened. -/
structure Event where
  /-- Its importance. -/
  level : Level
  /-- What happened. -/
  name : String
  /-- Its own fields and those of the context it happened in. -/
  fields : Table Document

/-- The events recorded so far, with the current context. -/
structure Journal where
  /-- The names bound by the contexts that are open. -/
  context : Table Document
  /-- The events in the order in which they happened. -/
  events : List Event

namespace Journal

/-- Nothing has happened and no context is open. -/
def empty : Journal := ⟨[], []⟩

/-- An event as it is recorded in a context. -/
def stamped (context : Table Document) (level : Level) (name : String)
    (fields : List (String × Document)) : Event :=
  ⟨level, name, context.putAll fields⟩

/-- Binds names in the context. -/
def bind (names : List (String × Document)) (j : Journal) : Journal :=
  { j with context := j.context.putAll names }

/-- Gives names the bindings they have in an earlier context, or none. -/
def unbind (names : List String) (earlier : Table Document) (j : Journal) : Journal :=
  let cleared := names.foldl (fun context name => context.remove name) j.context
  { j with context := cleared.putAll (earlier.filter fun e => names.contains e.1) }

/-- Records an event. -/
def record (level : Level) (name : String) (fields : List (String × Document)) (j : Journal) :
    Journal :=
  { j with events := j.events ++ [stamped j.context level name fields] }

end Journal

/-- Work that may be abandoned with an error and that keeps a journal either way. -/
abbrev Recorded (ε α : Type) := ExceptT ε (StateM Journal) α

namespace Recorded

variable {ε ε' α : Type}

/-- Records an event. -/
def log (level : Level) (name : String) (fields : List (String × Document) := []) :
    Recorded ε Unit :=
  modify (Journal.record level name fields)

/-- Does some work in a context. The context is closed whether the work succeeds or not. -/
def inContext (names : List (String × Document)) (work : Recorded ε α) : Recorded ε α := do
  let before ← getThe Journal
  modify (Journal.bind names)
  let result ← ExceptT.lift work.run
  modify (Journal.unbind (names.map (·.1)) before.context)
  match result with
  | .ok a => return a
  | .error e => throw e

/-- Does some work and turns its error into a value. -/
def settle (work : Recorded ε α) : Recorded ε' (Except ε α) := ExceptT.lift work.run

/-- Does some work, its error put in other words. -/
def adapt (f : ε → ε') (work : Recorded ε α) : Recorded ε' α := do
  match ← settle work with
  | .ok a => return a
  | .error e => throw (f e)

/-- Does some work with a journal. -/
def perform (work : Recorded ε α) (j : Journal) : Except ε α × Journal := Id.run (work.run.run j)

end Recorded

end EntityAtlas
