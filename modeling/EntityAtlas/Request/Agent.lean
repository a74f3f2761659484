import EntityAtlas.Document.Literal
import EntityAtlas.Request.Metrics
import EntityAtlas.Request.Schema

/-!
# Answering frames

The transport delivers frames and the agent answers each command with one reply: a request for the
schema, a request for metrics, and a ping that keeps the connection alive. The command stands in the
message of the frame, or in the frame itself when it has no message. Other commands are noted and
left unanswered.
-/

namespace EntityAtlas

/-- A reply: an action and its payload. -/
structure Reply where
  /-- The action. -/
  action : String
  /-- The payload. -/
  message : Document

/-- What an agent answers from: its metadata, its executor, and how it writes a rank. -/
structure Agent where
  /-- The source of metadata. -/
  provider : Provider
  /-- What runs queries. -/
  run : Executor
  /-- How a rank is written. -/
  rank : Float → Document

namespace Agent

/-- The payload of a failed request. -/
def errorPayload (error : Option String) : Document := .record [("error", .ofText? error)]

/-- Adds warnings to a payload, if there are any. -/
def withWarnings (payload : Document) (warnings : List String) : Document :=
  match payload with
  | .record fields =>
    if warnings.isEmpty then payload
    else .record (Table.put "warnings" (.ofTexts warnings) fields)
  | _ => payload

/-- The payload of an outcome. -/
def payload {α : Type} (write : α → Document) (o : Outcome α) : Document :=
  match o.success, o.value with
  | true, some value => withWarnings (write value) o.warnings
  | _, _ => errorPayload o.error

/-- The most characters of a malformed frame that are noted. -/
def frameExcerpt : Nat := 200

/-- Answers a command; the command is part of the context. -/
def obey (a : Agent) (command : Document) (message : List (String × Document)) :
    Recorded Escape (Option Reply) :=
  Recorded.inContext [("command", command)] do
    Recorded.log .debug "command_received"
    if command.isText "request_schema" then do
      let o ← Schema.describe RankingOptions.usual a.provider
      Recorded.log .debug "command_completed"
      return some ⟨"schema", payload (SchemaResponse.toDocument a.rank) o⟩
    else if command.isText "request_metrics" then do
      let o ← Metrics.computeFor a.provider a.run (Table.findD "instructions" .null message)
      Recorded.log .debug "command_completed"
      return some ⟨"metrics", payload MetricsResponse.format.write o⟩
    else do
      Recorded.log .warning "unknown_command"
      return none

/-- Answers one frame. -/
def handle (a : Agent) (frame : Document) : Recorded Escape (Option Reply) :=
  match frame with
  | .record fields =>
    if (Table.findD "type" .null fields).isText "ping" then do
      Recorded.log .debug "pinged" [("data", frame)]
      return some ⟨"pong", .record []⟩
    else
      match Table.findD "message" frame fields with
      | .record message => a.obey (Table.findD "command" .null message) message
      | _ => do
        Recorded.log .warning "malformed_frame"
          [("frame", .text (String.ofList (frame.display.toList.take frameExcerpt)))]
        return none
  | d => throw (.fault (.noMember d.typeName "get"))

end Agent

end EntityAtlas
