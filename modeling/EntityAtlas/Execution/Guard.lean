import EntityAtlas.Execution.Timeout
import EntityAtlas.Sql.Statement

/-!
# The read-only guard

Every query runs on a connection of its own inside a transaction that is always rolled back. Where
the database can be told to refuse writes and to bound the time of a statement, it is told so before
the query and told otherwise after it. PostgreSQL forgets such settings with the transaction. SQLite
does not: its switch has to be thrown back, and the handler that interrupts a late statement has to
be removed, whatever became of the query.

A connection is a state with the calls made on it so far; the database behind it is a parameter.
-/

namespace EntityAtlas

/-- A call on a connection. -/
inductive Call where
  /-- The connection is taken. -/
  | connect
  /-- A transaction begins. -/
  | begin
  /-- A statement is executed. -/
  | execute (sql : String)
  /-- A command goes to the database as it is. -/
  | command (sql : String)
  /-- A progress handler is set, to be called after so many steps, or removed. -/
  | handler (set : Bool) (interval : Nat)
  /-- The progress handler is called and says whether to interrupt. -/
  | poll (interrupt : Bool)
  /-- The transaction is undone. -/
  | rollback
  /-- The connection is given back. -/
  | close
  deriving DecidableEq, Repr

/-- What a database reports when it refuses a statement: the whole report, and the bare detail. -/
structure Refusal where
  /-- The whole report. -/
  report : String
  /-- The detail without its surroundings. -/
  detail : String
  deriving DecidableEq, Repr

/-- Why guarded work is abandoned. -/
inductive GuardFault where
  /-- The database refused a statement. -/
  | refused (refusal : Refusal)
  /-- The time limit cannot be used. -/
  | timeout (fault : TimeoutFault)
  /-- The work failed in another way, known by category and wording. -/
  | other (category message : String)
  deriving DecidableEq, Repr

instance : Coe Refusal GuardFault := ⟨.refused⟩

/-- The same fault with a refusal put differently. -/
def GuardFault.mapRefusal (f : Refusal → Refusal) : GuardFault → GuardFault
  | .refused refusal => .refused (f refusal)
  | fault => fault

/-- A database holding data of type `δ`, as a connection sees it. -/
structure Backend (δ : Type) where
  /-- The name of the dialect it speaks. -/
  dialect : String
  /-- Whether it refuses a setting or a command. -/
  refuses : String → Option Refusal
  /-- Runs a statement on data, possibly refusing writes; yields rows and the new data. -/
  run : Bool → Sql.Statement → δ → Except GuardFault (Document × δ)
  /-- How often a progress handler is called while a statement runs. -/
  polls : Nat

/-- The state of a connection. -/
structure Connection (δ : Type) where
  /-- The data that everyone sees. -/
  stored : δ
  /-- The data that the open transaction sees, if one is open. -/
  working : Option δ
  /-- Whether writes are refused. -/
  queryOnly : Bool
  /-- The moment after which the progress handler interrupts, if there is a handler. -/
  deadline : Option Float
  /-- The coming readings of the clock; after them it reads zero. -/
  clock : List Float
  /-- The calls made so far. -/
  calls : List Call

/-- A connection on which nothing is going on. -/
def Connection.idle {δ : Type} (stored : δ) (clock : List Float := []) : Connection δ :=
  ⟨stored, none, false, none, clock, []⟩

/-- Work on a connection. -/
abbrev Guarded (δ α : Type) := ExceptT GuardFault (StateM (Connection δ)) α

namespace Guard

variable {δ α : Type}

/-- Makes a call that changes the connection. -/
def call (c : Call) (effect : Connection δ → Connection δ := id) : Guarded δ Unit :=
  modify fun s => { effect s with calls := s.calls ++ [c] }

/-- Reads the clock. -/
def now : Guarded δ Float := do
  let s ← get
  set { s with clock := s.clock.tail }
  return s.clock.head?.getD 0

/-- Does some work and then some more whether the work succeeded or not. A failure of the latter
is the one reported. -/
def ensure (work : Guarded δ α) (after : Guarded δ Unit) : Guarded δ α := do
  let result ← ExceptT.lift work.run
  after
  match result with
  | .ok a => return a
  | .error e => throw e

/-- Fails if the database refuses a text. -/
def accept (b : Backend δ) (sql : String) : Guarded δ Unit :=
  match b.refuses sql with
  | some refusal => throw (.refused refusal)
  | none => pure ()

/-- Changes a setting of the transaction. -/
def setting (b : Backend δ) (sql : String) : Guarded δ Unit := do
  call (.execute sql)
  accept b sql

/-- Gives the database a command. -/
def command (b : Backend δ) (sql : String) (effect : Connection δ → Connection δ) :
    Guarded δ Unit := do
  call (.command sql)
  accept b sql
  modify effect

/-- The number of steps of a statement between two calls of the progress handler. -/
def interval : Nat := 1000

/-- What the database reports when a handler interrupts a statement. -/
def interrupted : Refusal := ⟨"interrupted", "interrupted"⟩

/-- Calls the progress handler so many times. -/
def poll (deadline : Float) : Nat → Guarded δ Unit
  | 0 => pure ()
  | n + 1 => do
    let late := decide (deadline < (← now))
    call (.poll late)
    if late then throw (.refused interrupted) else poll deadline n

/-- Executes a statement on the data of the transaction; the progress handler is called meanwhile,
if there is one. -/
def query (b : Backend δ) (s : Sql.Statement) : Guarded δ Document := do
  call (.execute (s.text .default))
  let c ← get
  match b.run c.queryOnly s (c.working.getD c.stored) with
  | .error fault => throw fault
  | .ok (rows, data) =>
    set { c with working := c.working.map fun _ => data }
    match c.deadline with
    | some deadline => poll deadline b.polls
    | none => pure ()
    return rows

/-- A time limit that can be used, or a fault. -/
def usable (limit : Except TimeoutFault α) : Guarded δ α :=
  match limit with
  | .ok a => pure a
  | .error e => throw (.timeout e)

/-- Tells SQLite to refuse writes and to interrupt a late statement, and undoes both after the
work. -/
def sqlite (b : Backend δ) (timeout : Document) (work : Guarded δ α) : Guarded δ α := do
  let start ← now
  let limit ← usable (Timeout.seconds timeout)
  command b "PRAGMA query_only = ON" fun c => { c with queryOnly := true }
  call (.handler true interval) fun c => { c with deadline := some (start + limit) }
  ensure work do
    call (.handler false 0) fun c => { c with deadline := none }
    command b "PRAGMA query_only = OFF" fun c => { c with queryOnly := false }

/-- Tells PostgreSQL to refuse writes and to bound the time of statements, for the transaction. -/
def postgresql (b : Backend δ) (timeout : Document) (work : Guarded δ α) : Guarded δ α := do
  setting b "SET TRANSACTION READ ONLY"
  let limit ← usable (Timeout.milliseconds timeout)
  setting b ("SET LOCAL statement_timeout = " ++ toString limit)
  work

/-- Does some work with the protection that the dialect offers; other dialects offer none. -/
def protect (b : Backend δ) (timeout : Document) (work : Guarded δ α) : Guarded δ α :=
  if b.dialect = "postgresql" then postgresql b timeout work
  else if b.dialect = "sqlite" then sqlite b timeout work
  else work

/-- Does some work in a transaction that is rolled back. -/
def transaction (work : Guarded δ α) : Guarded δ α := do
  call .begin fun c => { c with working := some c.stored }
  ensure work (call .rollback fun c => { c with working := none })

/-- Does some work on a connection inside a protected transaction. -/
def readOnly (b : Backend δ) (timeout : Document) (work : Guarded δ α) : Guarded δ α := do
  call .connect
  ensure (transaction (protect b timeout work)) (call .close)

/-- Does some guarded work on a connection. -/
def perform (work : Guarded δ α) (c : Connection δ) : Except GuardFault α × Connection δ :=
  Id.run (work.run.run c)

end Guard

end EntityAtlas
