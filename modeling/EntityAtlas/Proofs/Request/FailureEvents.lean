import EntityAtlas.Proofs.Journal.Contexts
import EntityAtlas.Proofs.Request.Frames

/-!
# Failed instructions in the journal

An instruction that fails is noted with a warning, in the context of its own identifier inside that
of the command. Everything else that is noted on the way has another name, and every context is
closed again. So the warnings of a batch are, one after the other, those of its failed results.
-/

namespace EntityAtlas

open Recorded

/-- The name of the warning that an instruction failed. -/
def failureName : String := "instruction_failed"

/-- The warnings that an instruction failed. -/
def failureEvents (events : List Event) : List Event := events.filter (·.name = failureName)

theorem failureEvents_append (events more : List Event) :
    failureEvents (events ++ more) = failureEvents events ++ failureEvents more :=
  List.filter_append ..

theorem failureEvents_eq_nil {events : List Event} (h : ∀ e ∈ events, e.name ≠ failureName) :
    failureEvents events = [] :=
  List.filter_eq_nil_iff.mpr fun e he => by simpa using h e he

namespace Recorded

variable {ε ε' α β : Type}

/-- Work restores the context and adds no warning that an instruction failed. -/
def Quiet (work : Recorded ε α) : Prop := Adds work fun _ _ added => failureEvents added = []

/-- Work restores the context and succeeds. Its value and the warnings of failed instructions that
it adds have the property, given what is bound. -/
def Notes (work : Recorded ε α) (S : Bindings → α → List Event → Prop) : Prop :=
  Adds work fun b outcome added => ∃ a, outcome = .ok a ∧ S b a (failureEvents added)

/-! ### Work without failures -/

/-- Work that never notes a failed instruction is quiet. -/
theorem Nests.quiet {work : Recorded ε α} (h : Nests (· ≠ failureName) work) : Quiet work :=
  h.adds.mono fun _ _ _ => failureEvents_eq_nil

theorem Quiet.bind {work : Recorded ε α} {next : α → Recorded ε β} (h : Quiet work)
    (hnext : ∀ a, Quiet (next a)) : Quiet (work >>= next) := by
  refine Adds.bind h (fun a _ => (hnext a).mono fun _ _ more hmore first hfirst => ?_)
    fun _ _ _ hfirst => hfirst
  rw [failureEvents_append, hfirst, hmore]
  rfl

theorem Quiet.settle {work : Recorded ε α} (h : Quiet work) :
    Quiet (settle work : Recorded ε' (Except ε α)) :=
  (Adds.settle h).mono fun _ _ _ ⟨_, _, hadded⟩ => hadded

/-- What quiet work succeeds with goes without a warning. -/
theorem Quiet.notes {work : Recorded ε α} {P : α → Prop} (h : Quiet work) (hP : Succeeds work P) :
    Notes work fun _ a events => P a ∧ events = [] :=
  (Adds.and_ensures h hP).mono fun _ _ _ ⟨hadded, a, ha, hPa⟩ => ⟨a, ha, hPa, hadded⟩

/-! ### Work with failures -/

theorem notes_pure {S : Bindings → α → List Event → Prop} {a : α} (h : ∀ b, S b a []) :
    Notes (pure a : Recorded ε α) S :=
  adds_pure fun b => ⟨a, rfl, h b⟩

theorem Notes.mono {work : Recorded ε α} {S T : Bindings → α → List Event → Prop}
    (h : Notes work S) (himp : ∀ b a events, S b a events → T b a events) : Notes work T :=
  Adds.mono h fun b _ _ ⟨a, ha, hS⟩ => ⟨a, ha, himp b a _ hS⟩

/-- The warnings of a second piece of work follow those of the first. -/
theorem Notes.bind {work : Recorded ε α} {next : α → Recorded ε β}
    {S : Bindings → α → List Event → Prop} {T : Bindings → β → List Event → Prop}
    (h : Notes work S)
    (hnext : ∀ a, (∃ b first, S b a first) → Notes (next a) fun b c more =>
      ∀ first, S b a first → T b c (first ++ more)) : Notes (work >>= next) T := by
  refine Adds.bind h ?_ ?_
  · rintro a ⟨b, first, _, ha, hS⟩
    cases ha
    refine Adds.mono (hnext a ⟨b, _, hS⟩) fun _ outcome more hmore first hfirst => ?_
    obtain ⟨c, hc, hT⟩ := hmore
    obtain ⟨_, ha, hS⟩ := hfirst
    cases ha
    refine ⟨c, hc, ?_⟩
    rw [failureEvents_append]
    exact hT _ hS
  · rintro _ _ _ ⟨_, he, _⟩
    cases he

/-- Quiet work leaves the warnings to what follows. -/
theorem Quiet.bind_notes {work : Recorded ε α} {next : α → Recorded ε β} {P : α → Prop}
    {T : Bindings → β → List Event → Prop} (h : Quiet work) (hP : Succeeds work P)
    (hnext : ∀ a, P a → Notes (next a) T) : Notes (work >>= next) T := by
  refine (h.notes hP).bind fun a ⟨_, _, ha, _⟩ => ?_
  refine (hnext a ha).mono fun _ _ more hT first hfirst => ?_
  rw [hfirst.2]
  exact hT

/-- Noting something else leaves the warnings to what follows. -/
theorem Notes.after_log {work : Unit → Recorded ε α} {S : Bindings → α → List Event → Prop}
    (level : Level) {name : String} (fields : List (String × Document)) (hname : name ≠ failureName)
    (h : Notes (work ()) S) : Notes (log level name fields >>= work) S := by
  have hlog : Nests (· ≠ failureName) (log level name fields : Recorded ε Unit) :=
    .log level fields hname
  exact hlog.quiet.bind_notes (succeeds_log level name fields) fun _ _ => h

theorem Notes.inContext {work : Recorded ε α} {names : List (String × Document)}
    {S T : Bindings → α → List Event → Prop} (h : Notes work S)
    (himp : ∀ b a events, S (b.extend names) a events → T b a events) :
    Notes (inContext names work) T :=
  Adds.inContext h fun b _ _ ⟨a, ha, hS⟩ => ⟨a, ha, himp b a _ hS⟩

end Recorded

/-! ## Executors -/

namespace Execution

/-- The executor over a database notes its queries, and no failed instruction. -/
theorem quiet_executor {δ : Type} (b : Backend δ) (timeout : Document) (stored : δ) (q : Query) :
    Quiet (executor b timeout stored q) := by
  apply Nests.quiet
  unfold executor
  split
  · exact .throw _
  · refine .bind ?_ fun _ => ?_
    · unfold noteDialect
      split
      · exact .pure ()
      · exact .log _ _ (by decide)
    · split
      · exact .bind (.log _ _ (by decide)) fun _ => .pure _
      · exact .bind (.log _ _ (by decide)) fun _ => .throw _
      · exact .throw _

theorem quiet_scripted {failures : Table String} {answers : Table Document} {otherwise : Executor}
    (h : ∀ q, Quiet (otherwise q)) (q : Query) : Quiet (scripted failures answers otherwise q) := by
  unfold scripted
  split
  · exact (Nests.throw _).quiet
  · split
    · exact (Nests.pure _).quiet
    · exact h q

end Execution

/-! ## One instruction -/

/-- The warning that an instruction failed: the code and the wording of its result, in the context
of a command and of an identifier. -/
structure WarnsOf (command id : Option Document) (result : MetricResult) (e : Event) : Prop where
  level_eq : e.level = .warning
  error_eq : e.fields.find? "error" = result.error.map .text
  message_eq : e.fields.find? "message" = result.message.map .text
  command_eq : e.fields.find? "command" = command
  id_eq : e.fields.find? "metric_configuration_id" = id

namespace Metrics

variable {s : Snapshot} {p : Planner} {run : Executor} {r : Request}

theorem nests_routeNote {ε : Type} (g : EntityGraph) (source target : String) :
    Nests (· ≠ failureName) (Route.note g source target : Recorded ε Unit) := by
  unfold Route.note
  cases Route.resolve g source target with
  | error _ => exact .pure ()
  | ok path =>
    dsimp only
    split
    · exact .pure ()
    · exact .log _ _ (by decide)

theorem nests_notePath (p : Planner) (i : MetricInstruction) :
    Nests (· ≠ failureName) (notePath p i) := by
  unfold notePath
  split
  · split
    · split
      · exact nests_routeNote _ _ _
      · exact .pure ()
    · exact .pure ()
  · exact .pure ()

theorem nests_graphNote {ε : Type} (s : Snapshot) :
    Nests (· ≠ failureName) (EntityGraph.note s : Recorded ε Unit) := by
  have hdangling : ∀ edges, Nests (· ≠ failureName)
      (EntityGraph.noteDangling edges : Recorded ε Unit) := by
    intro edges
    induction edges with
    | nil => exact .pure ()
    | cons e rest ih => exact .bind (.log _ _ (by decide)) fun _ => ih
  exact .bind (hdangling _) fun _ => .log _ _ (by decide)

theorem nests_reported {α : Type} (x : Except MetricError α) :
    Nests (· ≠ failureName) (reported x) := by
  cases x with
  | ok a => exact .pure a
  | error e => exact .throw _

theorem quiet_rows (hrun : ∀ q, Quiet (run q)) : Quiet (rows p run r) := by
  refine (nests_reported _).quiet.bind fun i => (nests_notePath p i).quiet.bind fun _ => ?_
  exact (nests_reported _).quiet.bind hrun

/-- A result without a condition goes with no warning, any other with its own. -/
inductive Noted (command id : Option Document) (result : MetricResult) : List Event → Prop where
  | success (h : result.error = none) : Noted command id result []
  | failure {e : Event} (h : result.error.isSome) (hw : WarnsOf command id result e) :
    Noted command id result [e]

/-- Noting a condition adds the warning of the result that reports it. -/
theorem notes_failure (id : Document) (e : MetricError) :
    Notes (log .warning failureName [("error", .text e.code), ("message", .text e.message)] :
      Recorded Escape Unit) fun b _ events =>
        Noted (b "command") (b "metric_configuration_id") (failure id e) events := by
  refine adds_log fun b event hlevel hname hfields => ⟨(), rfl, ?_⟩
  have hevents : failureEvents [event] = [event] := List.filter_singleton.trans (by simp [hname])
  rw [hevents]
  exact .failure rfl ⟨hlevel, hfields _, hfields _, hfields _, hfields _⟩

/-- What the work in the context of an instruction comes to: rows without a warning, or the result
that reports a condition with its warning. -/
def Settles (r : Request) (command id : Option Document) :
    Except MetricResult Document → List Event → Prop
  | .ok rows, events =>
    (∃ cells : List (Table Document), rows = .list (cells.map .record)) ∧ events = []
  | .error failed, events => failed.id = r.id ∧ Noted command id failed events

/-- Answering an instruction notes its failure once, in the context of its identifier. -/
theorem notes_answer (hrun : HasRows run) (hquiet : ∀ q, Quiet (run q)) (r : Request) :
    Notes (answer p run r) fun b result events =>
      result.id = r.id ∧ Noted (b "command") (some r.id) result events := by
  unfold answer
  -- The failure is noted inside the context, where the identifier is bound on top of the command.
  refine Notes.bind (S := fun b => Settles r (b "command") (some r.id))
    (Notes.inContext (S := fun b => Settles r (b "command") (b "metric_configuration_id")) ?_
      fun _ _ _ h => h) ?_
  · refine (quiet_rows hquiet).settle.bind_notes (ensures_rows_of_rows hrun r).settle ?_
    rintro _ (⟨cells, rfl⟩ | ⟨e, rfl⟩)
    · exact notes_pure fun _ => ⟨⟨cells, rfl⟩, rfl⟩
    · refine (notes_failure r.id e).bind fun _ _ => notes_pure fun _ first h => ⟨rfl, ?_⟩
      rwa [List.append_nil]
  · rintro (failed | rows) ⟨_, _, h⟩
    · exact notes_pure fun _ first h => ⟨h.1, by rw [List.append_nil]; exact h.2⟩
    · obtain ⟨⟨cells, rfl⟩, _⟩ := h
      simp only [resultOf_rows]
      refine notes_pure fun _ first h => ⟨rfl, ?_⟩
      rw [h.2]
      exact .success rfl

/-! ## A batch -/

/-- The results that report a condition. -/
def failed (results : List MetricResult) : List MetricResult :=
  results.filter (·.error.isSome)

/-- The results of a batch have the identifiers of its instructions, and the warnings are, one after
the other, those of the failed results. -/
structure BatchNoted (command : Option Document) (ids : List Document)
    (results : List MetricResult) (events : List Event) : Prop where
  ids_eq : results.map (·.id) = ids
  warnings : List.Forall₂ (fun result => WarnsOf command (some result.id) result) (failed results)
    events

theorem BatchNoted.cons {command : Option Document} {id : Document} {ids : List Document}
    {result : MetricResult} {results : List MetricResult} {first more : List Event}
    (hid : result.id = id) (hfirst : Noted command (some id) result first)
    (hmore : BatchNoted command ids results more) :
    BatchNoted command (id :: ids) (result :: results) (first ++ more) := by
  refine ⟨by rw [List.map_cons, hid, hmore.ids_eq], ?_⟩
  cases hfirst with
  | success h =>
    rw [failed, List.filter_cons_of_neg (by simp [h])]
    exact hmore.warnings
  | failure h hw =>
    have hfailed : failed (result :: results) = result :: failed results :=
      List.filter_cons_of_pos h
    rw [hfailed]
    exact .cons (hid ▸ hw) hmore.warnings

/-- The warnings of a batch are those of its results. -/
theorem notes_answerAll (hrun : HasRows run) (hquiet : ∀ q, Quiet (run q))
    (requests : List Request) :
    Notes (answerAll p run requests) fun b => BatchNoted (b "command") (requests.map (·.id)) := by
  induction requests with
  | nil => exact notes_pure fun _ => ⟨rfl, .nil⟩
  | cons r rest ih =>
    refine (notes_answer hrun hquiet r).bind fun result _ => ?_
    refine ih.bind fun results _ => notes_pure fun b more hmore first hfirst => ?_
    rw [List.append_nil]
    exact .cons hfirst.1 hfirst.2 hmore

/-- The response to a batch, with the warnings of its results. -/
def ResponseNoted (command : Option Document) (requests : List Request)
    (o : Outcome MetricsResponse) (events : List Event) : Prop :=
  ∃ results, o = .ok ⟨results, none⟩ ∧ BatchNoted command (requests.map (·.id)) results events

theorem notes_ofBatch (hrun : HasRows run) (hquiet : ∀ q, Quiet (run q)) (requests : List Request) :
    Notes (ofBatch s run (.ok requests)) fun b => ResponseNoted (b "command") requests := by
  refine (nests_graphNote _).quiet.bind_notes (succeeds_graphNote _) fun _ _ => ?_
  refine (notes_answerAll hrun hquiet requests).bind fun results _ => ?_
  refine .after_log _ _ (by decide) (notes_pure fun b first hfirst => ⟨results, rfl, ?_⟩)
  rwa [List.append_nil]

theorem notes_compute {provider : Provider} (hs : provider.snapshot = .ok s) (hrun : HasRows run)
    (hquiet : ∀ q, Quiet (run q)) (requests : List Request) :
    Notes (compute provider run (some (.ok requests)))
      fun b => ResponseNoted (b "command") requests := by
  obtain ⟨_, mapped⟩ := provider
  obtain rfl : _ = Except.ok s := hs
  have hbatch := notes_ofBatch (s := s) hrun hquiet requests
  cases mapped with
  | false => exact hbatch
  | true => exact .after_log _ _ (by decide) hbatch

end Metrics

/-! ## A frame -/

namespace Agent

variable {a : Agent} {s : Snapshot} {frame : List (String × Document)}

/-- The reply with the results of a batch. -/
def metricsReply (results : List MetricResult) : Reply :=
  ⟨"metrics", payload MetricsResponse.format.write (.ok ⟨results, none⟩)⟩

/-- The warnings while a batch is answered are noted in the context of the command. -/
theorem notes_metrics {message : List (String × Document)} {items : List Document}
    (hs : a.provider.snapshot = .ok s) (hrun : HasRows a.run) (hquiet : ∀ q, Quiet (a.run q))
    (hitems : Table.findD "instructions" .null message = .list items) :
    Notes (a.obey (.text "request_metrics") message) fun _ reply events =>
      ∃ results, reply = some (metricsReply results) ∧
        Metrics.BatchNoted (some (.text "request_metrics")) (items.map fun d => (Request.raw d).id)
          results events := by
  refine Notes.inContext (S := fun b reply events => ∃ results,
    reply = some (metricsReply results) ∧ Metrics.BatchNoted (b "command")
      (items.map fun d => (Request.raw d).id) results events) ?_ fun _ _ _ h => h
  refine .after_log _ _ (by decide) ?_
  rw [hitems]
  refine (Metrics.notes_compute hs hrun hquiet (items.map .raw)).bind ?_
  rintro _ ⟨_, _, results, rfl, _⟩
  refine .after_log _ _ (by decide) (notes_pure fun b first hfirst => ⟨results, rfl, ?_⟩)
  obtain ⟨_, h, hnoted⟩ := hfirst
  cases h
  rw [List.map_map] at hnoted
  rw [List.append_nil]
  exact hnoted

/-- With an executor that closes its own contexts, the warnings that instructions failed correspond,
in their order, to the results of the batch that carry a condition: each has the code and the
wording of its result, the command of the frame and the identifier of its own instruction. And every
nesting of contexts, whatever it binds again and wherever it is abandoned, leaves what is bound as
it was. -/
theorem failures_noted {items : List Document} (hs : a.provider.snapshot = .ok s)
    (hrun : HasRows a.run) (hquiet : ∀ q, Quiet (a.run q))
    (hcommand : Commands frame "request_metrics") (hitems : instructionsOf frame = .list items) :
    Notes (a.handle (.record frame)) (fun _ reply events =>
      ∃ results, reply = some (metricsReply results) ∧
        Metrics.BatchNoted (some (.text "request_metrics")) (items.map fun d => (Request.raw d).id)
          results events) ∧
      ∀ {ε α : Type} {work : Recorded ε α}, Nests (fun _ => True) work →
        ∀ j : Journal, j.context.names.Nodup → KeepsContext j (work.perform j).2 := by
  refine ⟨?_, fun hwork j hj => ?_⟩
  · obtain ⟨message, hhandle, hinstructions⟩ := handle_commands hcommand
    rw [hhandle]
    exact notes_metrics hs hrun hquiet (hinstructions.trans hitems)
  · obtain ⟨_, _, hrestores, _⟩ := hwork.adds j hj
    exact hrestores

/-- The agent for posts and pages whose executor runs a query in a context of its own, in which it
binds the names of the context around it again. -/
def rebindingAgent : Agent :=
  { blogAgent with
    run := fun q => inContext [("command", .text "query"), ("metric_configuration_id", .null)] do
      log .debug "query_started"
      blogAgent.run q }

theorem nests_blog (q : Query) : Nests (· ≠ failureName) (blogAgent.run q) := by
  show Nests _ (Metrics.answering Metrics.blogAnswer q)
  unfold Metrics.answering
  cases Metrics.blogAnswer q with
  | ok rows => exact .pure _
  | error e => exact .throw _

/-- The number of posts, between two instructions for the pages, which are locked. -/
def pagesAndPosts : List Document :=
  [Metrics.countInstruction 1 "Page", Metrics.countInstruction 2 "Post",
    Metrics.countInstruction 3 "Page"]

/-- A journal in which a command is bound already. -/
def outerJournal : Journal := ⟨[("command", .text "outer")], []⟩

theorem failures_noted_rebinding :
    HasRows rebindingAgent.run ∧ (∀ q, Quiet (rebindingAgent.run q)) ∧
      Commands (metricsFrame (.list pagesAndPosts)) "request_metrics" ∧
      let reply := rebindingAgent.handle (.record (metricsFrame (.list pagesAndPosts)))
      let after := (reply.perform outerJournal).2
      KeepsContext outerJournal after ∧
        (failureEvents after.events).map (·.fields.find? "metric_configuration_id") =
          [some (.int 1), some (.int 3)] ∧
        (∃ results, Metrics.BatchNoted (some (.text "request_metrics")) [.int 1, .int 2, .int 3]
          results (failureEvents after.events)) ∧
        KeepsContext outerJournal ((inContext [("command", .null)]
          (inContext [("command", .int 1), ("id", .int 2)] (throw ())) :
            Recorded Unit Unit).perform outerJournal).2 := by
  have hrun : HasRows rebindingAgent.run := fun q =>
    Ensures.inContext (Ensures.after_log _ _ _ (hasRows_answering _ q)) _
  have hquiet : ∀ q, Quiet (rebindingAgent.run q) := fun q =>
    (Nests.context _ (.bind (.log _ _ (by decide)) fun _ => nests_blog q)).quiet
  have hcommand : Commands (metricsFrame (.list pagesAndPosts)) "request_metrics" :=
    ⟨by rintro ⟨⟩, rfl⟩
  have hnd : outerJournal.context.names.Nodup := by decide
  obtain ⟨hnoted, hrestores⟩ :=
    failures_noted (s := Metrics.blogSnapshot) rfl hrun hquiet hcommand rfl
  obtain ⟨added, hevents, hrestored, _, _, results, _, hnotes⟩ := hnoted outerJournal hnd
  refine ⟨hrun, hquiet, hcommand, hrestored, rfl, ⟨results, ?_⟩, hrestores ?_ _ hnd⟩
  · rw [hevents]
    exact hnotes
  · exact .context _ (.context _ (.throw ()))

end Agent

end EntityAtlas
