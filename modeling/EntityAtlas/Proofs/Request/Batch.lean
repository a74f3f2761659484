import EntityAtlas.Proofs.Journal
import EntityAtlas.Proofs.Validation.Reading
import EntityAtlas.Request.Metrics

/-!
# Batches of instructions

An executor that has rows for a query or reports a condition never ends a batch: whatever an
instruction fails on, the result of that instruction says so. If the executor depends on the query
alone, so does a result on its instruction, and a batch is answered instruction by instruction.
-/

namespace EntityAtlas

open Recorded

/-- A row of an answer: values under labels that differ. -/
structure AnswerRow where
  /-- The values by label. -/
  cells : Table Document
  /-- No label occurs twice. -/
  nodup : cells.names.Nodup

/-- Rows as the document that an executor answers. -/
def AnswerRow.document (rows : List AnswerRow) : Document :=
  .list (rows.map fun r => .record r.cells)

/-- An executor answers a query as a function of the query does: with its rows, or reporting its
condition. What it notes in the journal is its own business. -/
def Answers (run : Executor) (answer : Query → Except MetricError (List AnswerRow)) : Prop :=
  ∀ q, Ensures (run q) (· = ((answer q).map AnswerRow.document).mapError .reported)

namespace Metrics

variable {s : Snapshot} {p : Planner} {run : Executor} {r : Request}

/-! ## One instruction -/

theorem succeeds_routeNote {ε : Type} (g : EntityGraph) (source target : String) :
    Succeeds (Route.note g source target : Recorded ε Unit) fun _ => True := by
  unfold Route.note
  cases Route.resolve g source target with
  | error _ => exact succeeds_pure trivial
  | ok path =>
    dsimp only
    split
    · exact succeeds_pure trivial
    · exact succeeds_log _ _ _

theorem succeeds_notePath (p : Planner) (i : MetricInstruction) :
    Succeeds (notePath p i) fun _ => True := by
  unfold notePath
  split
  · split
    · split
      · exact succeeds_routeNote _ _ _
      · exact succeeds_pure trivial
    · exact succeeds_pure trivial
  · exact succeeds_pure trivial

/-- What can fail with a reported condition, followed by work on its value. -/
theorem ensures_reported {α β : Type} {x : Except MetricError α}
    {next : α → Recorded ExecutionFailure β} {Q : Except ExecutionFailure β → Prop}
    (herror : ∀ e, x = .error e → Q (.error (.reported e)))
    (hok : ∀ a, x = .ok a → Ensures (next a) Q) : Ensures (reported x >>= next) Q := by
  cases x with
  | error e =>
    refine Ensures.bind (ensures_throw rfl) (fun a h => ?_) (fun e' h => ?_)
    · cases h
    · cases h
      exact herror e rfl
  | ok a =>
    refine Succeeds.bind (succeeds_pure rfl) fun b hb => ?_
    subst hb
    exact hok a rfl

/-- Running an instruction comes to the condition on which reading or planning it fails, or else to
what the executor makes of its query. -/
theorem ensures_rows {Q : Except ExecutionFailure Document → Prop}
    (hread : ∀ e, r.instruction = .error e → Q (.error (.reported e)))
    (hplan : ∀ i e, r.instruction = .ok i → p.compile i = .error e → Q (.error (.reported e)))
    (hrun : ∀ i q, r.instruction = .ok i → p.compile i = .ok q → Ensures (run q) Q) :
    Ensures (rows p run r) Q := by
  refine ensures_reported hread fun i hi => ?_
  refine (succeeds_notePath p i).bind fun _ _ => ?_
  exact ensures_reported (fun e he => hplan i e hi he) fun q hq => hrun i q hi hq

theorem resultOf_rows (id : Document) (cells : List (Table Document)) :
    resultOf id (.list (cells.map .record)) = .ok ⟨id, cells.map Table.ofEntries, none, none⟩ := by
  rw [resultOf, Format.read_rows]

/-- An instruction is answered with the rows it comes to, or reporting the condition. -/
theorem succeeds_answer {R : MetricResult → Prop}
    (h : Ensures (rows p run r) fun outcome =>
      (∃ cells : List (Table Document), outcome = .ok (.list (cells.map .record)) ∧
        R ⟨r.id, cells.map Table.ofEntries, none, none⟩) ∨
      ∃ e, outcome = .error (.reported e) ∧ R (failure r.id e)) :
    Succeeds (answer p run r) R := by
  unfold answer
  refine Succeeds.bind (P := fun outcome =>
    (∃ cells : List (Table Document), outcome = .ok (.list (cells.map .record)) ∧
      R ⟨r.id, cells.map Table.ofEntries, none, none⟩) ∨
    ∃ failed, outcome = .error failed ∧ R failed) (Ensures.inContext ?_ _) ?_
  · refine h.settle.bind ?_
    rintro _ (⟨cells, rfl, hR⟩ | ⟨e, rfl, hR⟩)
    · exact succeeds_pure (Or.inl ⟨cells, rfl, hR⟩)
    · exact Ensures.after_log _ _ _ (succeeds_pure (Or.inr ⟨_, rfl, hR⟩))
  · rintro _ (⟨cells, rfl, hR⟩ | ⟨failed, rfl, hR⟩)
    · simp only [resultOf_rows]
      exact succeeds_pure hR
    · exact succeeds_pure hR

/-! ## One instruction after the other -/

theorem succeeds_answerAll {R : Request → MetricResult → Prop} {requests : List Request}
    (h : ∀ r ∈ requests, Succeeds (answer p run r) (R r)) :
    Succeeds (answerAll p run requests) (List.Forall₂ R requests) := by
  induction requests with
  | nil => exact succeeds_pure .nil
  | cons r rest ih =>
    refine (h r List.mem_cons_self).bind fun result hresult => ?_
    refine (ih fun r hr => h r (List.mem_cons_of_mem _ hr)).bind fun results hresults => ?_
    exact succeeds_pure (.cons hresult hresults)

theorem succeeds_graphNote {ε : Type} (s : Snapshot) :
    Succeeds (EntityGraph.note s : Recorded ε Unit) fun _ => True := by
  have hdangling : ∀ edges, Succeeds (EntityGraph.noteDangling edges : Recorded ε Unit)
      fun _ => True := by
    intro edges
    induction edges with
    | nil => exact succeeds_pure trivial
    | cons e rest ih => exact Ensures.after_log _ _ _ ih
  exact (hdangling _).bind fun _ _ => succeeds_log _ _ _

/-- A batch succeeds with the results of its instructions in their order. -/
theorem succeeds_ofBatch {R : Request → MetricResult → Prop} {requests : List Request}
    (h : ∀ r ∈ requests, Succeeds (answer (Planner.ofSnapshot s) run r) (R r)) :
    Succeeds (ofBatch s run (.ok requests)) fun o =>
      ∃ results, o = .ok ⟨results, none⟩ ∧ List.Forall₂ R requests results := by
  refine (succeeds_graphNote s.existing).bind fun _ _ => ?_
  refine (succeeds_answerAll h).bind fun results hresults => ?_
  exact Ensures.after_log _ _ _ (succeeds_pure ⟨results, rfl, hresults⟩)

theorem ensures_withSnapshot {ε α : Type} {work : Snapshot → Recorded ε (Outcome α)}
    {Q : Except ε (Outcome α) → Prop} (mapped : Bool) (h : Ensures (work s) Q) :
    Ensures (Provider.withSnapshot ⟨.ok s, mapped⟩ work) Q := by
  cases mapped with
  | false => exact h
  | true => exact Ensures.after_log _ _ _ h

/-! ## Isolation -/

section Isolation

variable (p : Planner) (answer : Query → Except MetricError (List AnswerRow)) (r : Request)

/-- An instruction can be read and planned, and there are rows for its query. -/
def ComesTo (rows : List AnswerRow) : Prop :=
  ∃ i q, r.instruction = .ok i ∧ p.compile i = .ok q ∧ answer q = .ok rows

/-- Reading an instruction, planning it or running its query fails. -/
inductive FailsWith (e : MetricError) : Prop where
  /-- It cannot be read. -/
  | reading (h : r.instruction = .error e)
  /-- It cannot be planned. -/
  | planning (i : MetricInstruction) (hi : r.instruction = .ok i) (h : p.compile i = .error e)
  /-- Its query has no rows. -/
  | running (i : MetricInstruction) (q : Query) (hi : r.instruction = .ok i)
    (hq : p.compile i = .ok q) (h : answer q = .error e)

/-- What an instruction comes to. -/
def attempt : Except MetricError (List AnswerRow) :=
  r.instruction.bind fun i => (p.compile i).bind answer

/-- The result of an instruction. -/
def resultFor : MetricResult :=
  match attempt p answer r with
  | .ok rows => ⟨r.id, rows.map AnswerRow.cells, none, none⟩
  | .error e => failure r.id e

variable {p answer r}

theorem attempt_eq_ok {rows : List AnswerRow} : attempt p answer r = .ok rows ↔
    ComesTo p answer r rows := by
  unfold attempt ComesTo
  cases hi : r.instruction with
  | error e => simp [Except.bind]
  | ok i =>
    cases hq : p.compile i with
    | error e => simp [Except.bind, hq]
    | ok q => simp [Except.bind, hq]

theorem attempt_eq_error {e : MetricError} : attempt p answer r = .error e ↔
    FailsWith p answer r e := by
  constructor
  · intro h
    unfold attempt at h
    cases hi : r.instruction with
    | error e' =>
      rw [hi] at h
      cases h
      exact .reading hi
    | ok i =>
      rw [hi] at h
      cases hq : p.compile i with
      | error e' =>
        simp only [Except.bind, hq] at h
        cases h
        exact .planning i hi hq
      | ok q =>
        simp only [Except.bind, hq] at h
        exact .running i q hi hq h
  · rintro (h | ⟨i, hi, h⟩ | ⟨i, q, hi, hq, h⟩)
    · simp [attempt, Except.bind, h]
    · simp [attempt, Except.bind, hi, h]
    · simp [attempt, Except.bind, hi, hq, h]

theorem succeeds_resultFor (hrun : Answers run answer) :
    Succeeds (Metrics.answer p run r) (· = resultFor p answer r) := by
  have hfails : ∀ e, FailsWith p answer r e → failure r.id e = resultFor p answer r := by
    intro e he
    rw [resultFor, attempt_eq_error.mpr he]
  refine succeeds_answer (ensures_rows ?_ ?_ ?_)
  · exact fun e h => Or.inr ⟨e, rfl, hfails e (.reading h)⟩
  · exact fun i e hi h => Or.inr ⟨e, rfl, hfails e (.planning i hi h)⟩
  · intro i q hi hq
    refine (hrun q).mono ?_
    rintro _ rfl
    cases h : answer q with
    | error e => exact Or.inr ⟨e, rfl, hfails e (.running i q hi hq h)⟩
    | ok rows =>
      refine Or.inl ⟨rows.map AnswerRow.cells, ?_, ?_⟩
      · simp only [Except.map, Except.mapError, AnswerRow.document, List.map_map]
        rfl
      · have hcells :
            (rows.map AnswerRow.cells).map Table.ofEntries = rows.map AnswerRow.cells := by
          rw [List.map_map]
          exact List.map_congr_left fun row _ => Table.ofEntries_of_nodup row.nodup
        rw [hcells, resultFor, attempt_eq_ok.mpr ⟨i, q, hi, hq, h⟩]

/-- A batch comes to the results of its instructions, each on its own. -/
theorem ensures_compute (hrun : Answers run answer) (mapped : Bool) (requests : List Request) :
    Ensures (compute ⟨.ok s, mapped⟩ run (some (.ok requests))) (· =
      .ok (.ok ⟨requests.map (resultFor (Planner.ofSnapshot s) answer), none⟩)) := by
  refine ensures_withSnapshot mapped ((succeeds_ofBatch fun r _ => succeeds_resultFor hrun).mono ?_)
  rintro _ ⟨_, rfl, results, rfl, hresults⟩
  have hmap : results = requests.map (resultFor (Planner.ofSnapshot s) answer) := by
    induction hresults with
    | nil => rfl
    | cons h _ ih => rw [List.map_cons, ← h, ← ih]
  rw [hmap]

end Isolation

/-- One function gives the results of every batch of documents: the result of each stands at its
place and is the same in any company, alone, or with other batches before or after. It carries the
identifier of the instruction, and either the rows that the executor has for the query of the
instruction and no condition, or the code and the wording of the condition on which reading,
planning or running it fails and no rows. -/
theorem batch_isolated {answer : Query → Except MetricError (List AnswerRow)}
    (hrun : Answers run answer) :
    ∃ result : Document → MetricResult,
      (∀ mapped instructions, Ensures (computeFor ⟨.ok s, mapped⟩ run (.list instructions)) (· =
        .ok (.ok ⟨instructions.map result, none⟩))) ∧
      ∀ d, (result d).id = (d.field? "metric_configuration_id").getD .null ∧
        ((∃ rows, ComesTo (Planner.ofSnapshot s) answer (.raw d) rows ∧
            (result d).error = none ∧ (result d).message = none ∧
            (result d).rows = rows.map AnswerRow.cells) ∨
          ∃ e, FailsWith (Planner.ofSnapshot s) answer (.raw d) e ∧
            (result d).error = some e.code ∧ (result d).message = some e.message ∧
            (result d).rows = []) ∧
        ((result d).error ≠ none ↔ ∃ e, FailsWith (Planner.ofSnapshot s) answer (.raw d) e) := by
  refine ⟨fun d => resultFor (Planner.ofSnapshot s) answer (.raw d), ?_, fun d => ?_⟩
  · intro mapped instructions
    have h := ensures_compute (s := s) hrun mapped (instructions.map .raw)
    rw [List.map_map] at h
    exact h
  · cases hd : attempt (Planner.ofSnapshot s) answer (.raw d) with
    | ok rows =>
      have hresult : resultFor (Planner.ofSnapshot s) answer (.raw d) =
          ⟨(Request.raw d).id, rows.map AnswerRow.cells, none, none⟩ := by
        rw [resultFor, hd]
      have hnever : ¬ ∃ e, FailsWith (Planner.ofSnapshot s) answer (.raw d) e := by
        rintro ⟨e, he⟩
        rw [attempt_eq_error.mpr he] at hd
        cases hd
      beta_reduce
      rw [hresult]
      refine ⟨rfl, Or.inl ⟨rows, attempt_eq_ok.mp hd, rfl, rfl, rfl⟩, ?_⟩
      exact iff_of_false (fun h => h rfl) hnever
    | error e =>
      have hresult : resultFor (Planner.ofSnapshot s) answer (.raw d) =
          failure (Request.raw d).id e := by
        rw [resultFor, hd]
      have hfails : FailsWith (Planner.ofSnapshot s) answer (.raw d) e := attempt_eq_error.mp hd
      beta_reduce
      rw [hresult]
      refine ⟨rfl, Or.inr ⟨e, hfails, rfl, rfl, rfl⟩, ?_⟩
      exact iff_of_true (fun h => nomatch h) ⟨e, hfails⟩

/-- The executor that answers as a function does. -/
def answering (answer : Query → Except MetricError (List AnswerRow)) : Executor := fun q =>
  match answer q with
  | .ok rows => return AnswerRow.document rows
  | .error e => throw (.reported e)

theorem answers_answering (answer : Query → Except MetricError (List AnswerRow)) :
    Answers (answering answer) answer := by
  intro q j
  unfold answering
  cases answer q <;> rfl

/-- Posts and pages. -/
def blogSnapshot : Snapshot :=
  { entities := [⟨"Post", "posts", some "id", [], true⟩, ⟨"Page", "pages", some "id", [], true⟩]
    associations := []
    schemaVersion := none }

/-- There are three posts, and the pages are locked. -/
def blogAnswer (q : Query) : Except MetricError (List AnswerRow) :=
  if q.entity = "Page" then .error (.queryFailed "pages are locked")
  else .ok [⟨[(countLabel, .int 3)], by decide⟩]

/-- The instruction to count an entity. -/
def countInstruction (id : Int) (entity : String) : Document :=
  .record [("metric_configuration_id", .int id), ("entity", .text entity)]

theorem batch_isolated_blog :
    Answers (answering blogAnswer) blogAnswer ∧ ∃ result : Document → MetricResult,
      Ensures (computeFor ⟨.ok blogSnapshot, false⟩ (answering blogAnswer)
        (.list [.int 7, countInstruction 1 "Post", countInstruction 2 "Page"])) (· =
          .ok (.ok ⟨[result (.int 7), result (countInstruction 1 "Post"),
            result (countInstruction 2 "Page")], none⟩)) ∧
      (result (.int 7)).error ≠ none ∧ (result (countInstruction 1 "Post")).error = none ∧
      (result (countInstruction 2 "Page")).error ≠ none := by
  have hanswers := answers_answering blogAnswer
  obtain ⟨result, hbatch, hresult⟩ := batch_isolated (s := blogSnapshot) hanswers
  refine ⟨hanswers, result, hbatch false _, ?_, ?_, ?_⟩
  · exact (hresult _).2.2.mpr ⟨_, .reading rfl⟩
  · rcases (hresult (countInstruction 1 "Post")).2.1 with ⟨_, _, herror, _⟩ | ⟨e, he, _⟩
    · exact herror
    · rcases he with h | ⟨i, hi, h⟩ | ⟨i, q, hi, hq, h⟩
      · cases h
      · cases hi
        cases h
      · cases hi
        cases hq
        cases h
  · exact (hresult _).2.2.mpr ⟨_, .running _ _ rfl rfl rfl⟩

end Metrics

end EntityAtlas
