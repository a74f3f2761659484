import EntityAtlas.Proofs.Request.Listing
import EntityAtlas.Request.Agent

/-!
# Every frame is answered

A ping gets a pong, a known command gets its one reply, and any other frame gets none. With an
executor that has rows or reports a condition only one kind of frame ends in an error: a request for
metrics, while there is a snapshot, whose instructions are neither null nor anything with elements.
-/

namespace EntityAtlas

open Recorded

/-- An executor has rows for a query, or reports a condition. -/
def HasRows (run : Executor) : Prop := ∀ q, Ensures (run q) fun
  | .ok d => ∃ cells : List (Table Document), d = .list (cells.map .record)
  | .error e => ∃ c, e = .reported c

namespace Metrics

variable {s : Snapshot} {p : Planner} {run : Executor}

/-- An instruction comes to rows, or to a condition. -/
theorem ensures_rows_of_rows (hrun : HasRows run) (r : Request) :
    Ensures (rows p run r) fun outcome =>
      (∃ cells : List (Table Document), outcome = .ok (.list (cells.map .record))) ∨
        ∃ e, outcome = .error (.reported e) := by
  refine ensures_rows ?_ ?_ ?_
  · exact fun e _ => Or.inr ⟨e, rfl⟩
  · exact fun _ e _ _ => Or.inr ⟨e, rfl⟩
  · intro _ q _ _
    refine (hrun q).mono ?_
    rintro (e | d) h
    · obtain ⟨c, rfl⟩ := h
      exact Or.inr ⟨c, rfl⟩
    · obtain ⟨cells, rfl⟩ := h
      exact Or.inl ⟨cells, rfl⟩

theorem totalOf_row (e : Entity) {row : Table Document} {n : Int}
    (h : row.find? countLabel = some (.int n)) (rest : List Document) :
    totalOf e (.list (.record row :: rest)) = .ok ⟨e.name, n⟩ := by
  have hcount : countOf (.list (.record row :: rest)) = .ok (.int n) := by
    show Document.part countLabel (.record row) = _
    rw [Document.part, h]
  rw [totalOf, hcount]
  rfl

/-- Documents that can stand for the instructions of a request: null for none, or one with
elements. -/
def IsBatch : Document → Prop
  | .null | .list _ | .text _ | .record _ => True
  | _ => False

end Metrics

/-! ## The schema -/

namespace Schema

variable {ε α : Type} [Scalar α]

end Schema

/-! ## Frames -/

namespace Document

theorem isText_iff {d : Document} {s : String} : d.isText s = true ↔ d = .text s := by
  cases d <;> simp [isText]

end Document

namespace Agent

/-- The message of a frame; a frame without one is its own message. -/
def messageOf (frame : List (String × Document)) : Document :=
  Table.findD "message" (.record frame) frame

/-- A frame that keeps the connection alive. -/
def IsPing (frame : List (String × Document)) : Prop :=
  Table.find? "type" frame = some (.text "ping")

/-- The message of a frame that is no ping is a record with the command. -/
def Commands (frame : List (String × Document)) (command : String) : Prop :=
  ¬ IsPing frame ∧ (messageOf frame).field? "command" = some (.text command)

/-- The instructions in the message of a frame. -/
def instructionsOf (frame : List (String × Document)) : Document :=
  ((messageOf frame).field? "instructions").getD .null

variable {a : Agent} {frame : List (String × Document)}

theorem findD_isText {name s : String} {fields : List (String × Document)} :
    (Table.findD name .null fields).isText s = true ↔
      Table.find? name fields = some (.text s) := by
  rw [Document.isText_iff, Table.findD]
  cases Table.find? name fields <;> simp

/-- A frame that is no ping is answered by obeying the command of its message. -/
theorem handle_record (h : ¬ IsPing frame) {message : List (String × Document)}
    (hmessage : messageOf frame = .record message) :
    a.handle (.record frame) = a.obey (Table.findD "command" .null message) message := by
  unfold messageOf at hmessage
  rw [handle, if_neg (findD_isText.not.mpr h), hmessage]

/-- A frame with a command is answered by obeying it, with the instructions in its message. -/
theorem handle_commands {command : String} (h : Commands frame command) :
    ∃ message, a.handle (.record frame) = a.obey (.text command) message ∧
      Table.findD "instructions" .null message = instructionsOf frame := by
  obtain ⟨hping, hcommand⟩ := h
  cases hm : messageOf frame with
  | record message =>
    rw [hm] at hcommand
    have hfound : Table.findD "command" .null message = .text command := by
      rw [Table.findD, show Table.find? "command" message = _ from hcommand]
      rfl
    refine ⟨message, by rw [handle_record hping hm, hfound], ?_⟩
    rw [instructionsOf, hm]
    rfl
  | _ =>
    rw [hm] at hcommand
    cases hcommand

/-- A frame asks for metrics while there is a snapshot, with instructions that have no elements. -/
def Trips (a : Agent) (frame : List (String × Document)) : Prop :=
  Commands frame "request_metrics" ∧ ¬ Metrics.IsBatch (instructionsOf frame) ∧
    ∃ s, a.provider.snapshot = .ok s

/-- What an agent comes to on a frame. -/
structure Answered (a : Agent) (frame : List (String × Document))
    (outcome : Except Escape (Option Reply)) : Prop where
  /-- A pong answers a ping. -/
  pong : outcome = .ok (some ⟨"pong", .record []⟩) ↔ IsPing frame
  /-- The schema answers a request for the schema. -/
  schema : (∃ payload, outcome = .ok (some ⟨"schema", payload⟩)) ↔ Commands frame "request_schema"
  /-- Metrics answer a request for metrics, unless its instructions trip the agent. -/
  metrics : (∃ payload, outcome = .ok (some ⟨"metrics", payload⟩)) ↔
    Commands frame "request_metrics" ∧ ¬ a.Trips frame
  /-- Nothing answers any other frame. -/
  silent : outcome = .ok none ↔ ¬ IsPing frame ∧ ¬ Commands frame "request_schema" ∧
    ¬ Commands frame "request_metrics"
  /-- An error ends the frame when its instructions trip the agent. -/
  escape : ∀ e, outcome = .error e ↔
    a.Trips frame ∧ e = .fault (.notIterable (instructionsOf frame).typeName)

theorem Commands.unique {c c' : String} (h : Commands frame c) (h' : Commands frame c') :
    c = c' := by
  have heq := h.2.symm.trans h'.2
  simpa using heq

theorem hasRows_answering (answer : Query → Except MetricError (List AnswerRow)) :
    HasRows (Metrics.answering answer) := by
  intro q
  refine (Metrics.answers_answering answer q).mono ?_
  rintro _ rfl
  cases answer q with
  | error e => exact ⟨e, rfl⟩
  | ok rows => exact ⟨rows.map AnswerRow.cells, by rw [List.map_map]; rfl⟩

/-- An agent for posts and pages. -/
def blogAgent : Agent :=
  { provider := ⟨.ok Metrics.blogSnapshot, false⟩
    run := Metrics.answering Metrics.blogAnswer
    rank := fun _ => .null }

/-- The frame that asks for metrics with given instructions. -/
def metricsFrame (instructions : Document) : List (String × Document) :=
  [("message", .record [("command", .text "request_metrics"), ("instructions", instructions)])]

end Agent

end EntityAtlas
