import EntityAtlas.Execution.Executor
import EntityAtlas.Proofs.Execution.Guard
import EntityAtlas.Proofs.Journal

/-!
# One call after another

Queries answered one after the other on a connection do not affect each other. Each is answered from
the data that were stored in the beginning, as it would have been answered first, unless the handler
interrupts it, which the clock decides.
-/

namespace EntityAtlas.Execution

open Guard

variable {δ : Type} {b : Backend δ} {timeout : Document} {q : Query} {c : Connection δ}

/-! ## One call -/

/-- What a query comes to on given data if nothing interrupts it. -/
def unhurried (b : Backend δ) (timeout : Document) (q : Query) (stored : δ) :
    Except ExecutionFailure Document :=
  match Sql.render q with
  | .error e => .error (.escaped (.render e))
  | .ok s =>
    match limitFault b.dialect timeout with
    | some fault => .error (.escaped (.timeout fault))
    | none => ((b.run (decide (b.dialect = "sqlite")) s stored).map (·.1)).mapError (failure q)

/-- What is reported of a query that is interrupted. -/
def interruption (q : Query) : ExecutionFailure := .reported (failed q Guard.interrupted)

/-- The handler interrupts a query that is answered on the connection. -/
def Interrupts (b : Backend δ) (timeout : Document) (q : Query) (c : Connection δ) : Prop :=
  .poll true ∈ (answer b timeout q c).2.calls.drop c.calls.length

/-- How a query is answered on a connection at rest. -/
structure Answered (b : Backend δ) (timeout : Document) (q : Query) (c : Connection δ) : Prop where
  rest : (answer b timeout q c).2.AtRest
  stored : (answer b timeout q c).2.stored = c.stored
  interrupted : Interrupts b timeout q c → (answer b timeout q c).1 = .error (interruption q)
  unhurried : ¬ Interrupts b timeout q c →
    (answer b timeout q c).1 = unhurried b timeout q c.stored

/-- A query that can be rendered is answered under the guard; the time is read before. -/
theorem shielded_answer {s : Sql.Statement} (hb : Accepts b timeout) (hs : Sql.render q = .ok s)
    (hc : c.AtRest) : ∃ outcome, (answer b timeout q c).1 = outcome.mapError (failure q) ∧
      Shielded b timeout (query b s) { c with clock := c.clock.tail } outcome
        (answer b timeout q c).2 := by
  have hrest : ({ c with clock := c.clock.tail } : Connection δ).AtRest :=
    ⟨hc.working, hc.queryOnly, hc.deadline⟩
  have hguarded : guarded b timeout s c =
      perform (readOnly b timeout (query b s)) { c with clock := c.clock.tail } :=
    perform_ok (perform_now c)
  have hshield := shielded_readOnly hb (confined_query b s) hrest
  rw [← hguarded] at hshield
  refine ⟨(guarded b timeout s c).1, ?_, ?_⟩
  · rw [answer, hs]
  · rw [answer, hs]
    exact hshield

theorem interrupts_iff {made : List Call}
    (h : (answer b timeout q c).2.calls = c.calls ++ made) :
    Interrupts b timeout q c ↔ .poll true ∈ made := by
  rw [Interrupts, h, List.drop_left]

theorem poll_not_mem (dialect : String) (timeout : Document) :
    Call.poll true ∉ opening dialect timeout ∧ Call.poll true ∉ closing dialect := by
  have hguard : ∀ k ∈ opening dialect timeout ++ closing dialect, k ≠ .poll true :=
    fun k hk => (guard_calls hk).2 true
  constructor
  · intro h
    exact hguard _ (List.mem_append_left _ h) rfl
  · intro h
    exact hguard _ (List.mem_append_right _ h) rfl

/-- With a time limit that can be used, a query is answered from the stored data unless the handler
interrupts it. -/
theorem answer_of_limit {s : Sql.Statement} (hb : Accepts b timeout) (hs : Sql.render q = .ok s)
    (hlimit : limitFault b.dialect timeout = none) (hc : c.AtRest) :
    (Interrupts b timeout q c → (answer b timeout q c).1 = .error (interruption q)) ∧
      (¬ Interrupts b timeout q c → (answer b timeout q c).1 = unhurried b timeout q c.stored) := by
  obtain ⟨outcome, hanswer, hshield⟩ := shielded_answer hb hs hc
  obtain ⟨inside, made, hinside, houtcome, hmade, _, hafter⟩ := hshield.done hlimit
  obtain ⟨made', hmade', _, hok, hlate⟩ := query_cases b s hinside.working
  obtain rfl : made' = made := List.append_cancel_left (hmade'.symm.trans hmade)
  have hcalls : (answer b timeout q c).2.calls = c.calls ++ ([.connect, .begin] ++
      opening b.dialect timeout ++ made' ++ closing b.dialect ++ [.rollback, .close]) := by
    rw [hafter, hinside.calls]
    simp
  have hiff : Interrupts b timeout q c ↔ .poll true ∈ made' := by
    obtain ⟨hopening, hclosing⟩ := poll_not_mem b.dialect timeout
    rw [interrupts_iff hcalls]
    simp [hopening, hclosing]
  rw [hiff, hanswer, ← houtcome]
  constructor
  · intro h
    rw [hlate h]
    rfl
  · intro h
    rw [hok h, hinside.queryOnly, unhurried, hs]
    simp only [hlimit]

/-- With a time limit of no use, no query is interrupted. -/
theorem answer_of_fault {s : Sql.Statement} {fault : TimeoutFault} (hb : Accepts b timeout)
    (hs : Sql.render q = .ok s) (hlimit : limitFault b.dialect timeout = some fault)
    (hc : c.AtRest) : ¬ Interrupts b timeout q c ∧
      (answer b timeout q c).1 = unhurried b timeout q c.stored := by
  obtain ⟨outcome, hanswer, hshield⟩ := shielded_answer hb hs hc
  obtain ⟨houtcome, hafter⟩ := hshield.undone fault hlimit
  have hcalls : (answer b timeout q c).2.calls = c.calls ++ ([.connect, .begin] ++
      opening b.dialect timeout ++ [.rollback, .close]) := by
    rw [hafter]
    simp
  constructor
  · rw [interrupts_iff hcalls]
    simp [(poll_not_mem b.dialect timeout).1]
  · rw [hanswer, houtcome, unhurried, hs]
    simp only [hlimit]
    rfl

theorem answered (hb : Accepts b timeout) (q : Query) (hc : c.AtRest) :
    Answered b timeout q c := by
  cases hs : Sql.render q with
  | error e =>
    have hanswer : answer b timeout q c = (.error (.escaped (.render e)), c) := by
      rw [answer, hs]
    have hno : ¬ Interrupts b timeout q c := by simp [Interrupts, hanswer]
    refine ⟨?_, ?_, fun h => absurd h hno, fun _ => ?_⟩
    · rw [hanswer]
      exact hc
    · rw [hanswer]
    · rw [hanswer, Execution.unhurried, hs]
  | ok s =>
    obtain ⟨_, _, hshield⟩ := shielded_answer hb hs hc
    cases hlimit : limitFault b.dialect timeout with
    | none =>
      obtain ⟨hlate, hintime⟩ := answer_of_limit hb hs hlimit hc
      exact ⟨hshield.rest, hshield.stored, hlate, hintime⟩
    | some fault =>
      obtain ⟨hno, hfault⟩ := answer_of_fault hb hs hlimit hc
      exact ⟨hshield.rest, hshield.stored, fun h => absurd h hno, fun _ => hfault⟩

/-! ## A sequence of calls -/

/-- The connection after some queries have been answered on it, one after the other. -/
def afterAll (b : Backend δ) (timeout : Document) (queries : List Query) (c : Connection δ) :
    Connection δ :=
  queries.foldl (fun c q => (answer b timeout q c).2) c

theorem afterAll_rest (hb : Accepts b timeout) (queries : List Query) (hc : c.AtRest) :
    (afterAll b timeout queries c).AtRest ∧ (afterAll b timeout queries c).stored = c.stored := by
  induction queries generalizing c with
  | nil => exact ⟨hc, rfl⟩
  | cons q queries ih =>
    have hq := answered hb q hc
    obtain ⟨hrest, hstored⟩ := ih hq.rest
    exact ⟨hrest, hstored.trans hq.stored⟩

/-- A query is answered on a later connection as it would have been on an earlier one. -/
structure AsFirst (b : Backend δ) (timeout : Document) (q : Query) (c later : Connection δ) :
    Prop where
  rest : later.AtRest
  stored : later.stored = c.stored
  /-- The outcome is that of any first call, unless the handler interrupts one of the two. -/
  outcome : ∀ first : Connection δ, first.AtRest → first.stored = c.stored →
    ¬ Interrupts b timeout q later → ¬ Interrupts b timeout q first →
    (answer b timeout q later).1 = (answer b timeout q first).1
  interrupted : Interrupts b timeout q later →
    (answer b timeout q later).1 = .error (interruption q)
  /-- What the database refuses while the query runs is reported, and any other error escapes. -/
  failures : ∀ s, Sql.render q = .ok s → limitFault b.dialect timeout = none →
    ∃ inside, Inside b timeout { later with clock := later.clock.tail } inside ∧
      (∀ rows, (perform (query b s) inside).1 = .ok rows →
        (answer b timeout q later).1 = .ok rows) ∧
      (∀ r, (perform (query b s) inside).1 = .error (.refused r) →
        (answer b timeout q later).1 = .error (.reported
          (.queryFailed ("Query for " ++ q.entity ++ " failed: " ++ r.report)))) ∧
      ∀ category message, (perform (query b s) inside).1 = .error (.other category message) →
        (answer b timeout q later).1 = .error (.escaped (.other category message))

theorem asFirst (hb : Accepts b timeout) (queries : List Query) (q : Query) (hc : c.AtRest) :
    AsFirst b timeout q c (afterAll b timeout queries c) := by
  obtain ⟨hrest, hstored⟩ := afterAll_rest hb queries hc
  have hlater := answered hb q hrest
  refine ⟨hrest, hstored, fun first hfirst hsame hno hno' => ?_, hlater.interrupted,
    fun s hs hlimit => ?_⟩
  · have hfirst := answered hb q hfirst
    rw [hlater.unhurried hno, hfirst.unhurried hno', hstored, hsame]
  · obtain ⟨outcome, hanswer, hshield⟩ := shielded_answer hb hs hrest
    obtain ⟨inside, _, hinside, houtcome, _⟩ := hshield.done hlimit
    refine ⟨inside, hinside, fun rows h => ?_, fun r h => ?_, fun category message h => ?_⟩ <;>
    · rw [hanswer, ← houtcome, h]
      rfl

/-- Each call of an executor is a first call on a connection of its own. -/
theorem perform_executor (b : Backend δ) (timeout : Document) (stored : δ) (q : Query)
    (j : Journal) : ((executor b timeout stored q).perform j).1 =
      (answer b timeout q (Connection.idle stored)).1 := by
  have hthrow : ∀ (e : ExecutionFailure) (j : Journal),
      (throw e : Recorded ExecutionFailure Document).perform j = (.error e, j) := fun _ _ => rfl
  unfold executor answer
  cases hrender : Sql.render q with
  | error e => rfl
  | ok s =>
    obtain ⟨noted, hnoted⟩ : ∃ noted, (noteDialect b.dialect).perform j = (.ok (), noted) := by
      unfold noteDialect
      split <;> exact ⟨_, rfl⟩
    simp only [Recorded.perform_bind, hnoted]
    cases hguarded : (guarded b timeout s (Connection.idle stored)).1 with
    | ok rows => rfl
    | error fault => cases fault <;> rfl

/-- The guard is lifted on every way out of confined work, and nothing is written; running a
statement and coming to any outcome is confined work. So each of a sequence of queries is answered
as if it were the first, as is each call of the executor. -/
theorem guard_always_lifted (hb : Accepts b timeout) :
    (∀ (α : Type) (work : Guarded δ α), Confined work → ∀ c : Connection δ, c.AtRest →
      Shielded b timeout work c (perform (readOnly b timeout work) c).1
        (perform (readOnly b timeout work) c).2) ∧
    (∀ (α : Type) (s : Sql.Statement) (outcome : Document → Except GuardFault α),
      Confined (query b s >>= fun rows => MonadExcept.ofExcept (outcome rows))) ∧
    (∀ (queries : List Query) (q : Query) (c : Connection δ), c.AtRest →
      AsFirst b timeout q c (afterAll b timeout queries c)) ∧
    ∀ (stored : δ) (q : Query) (j : Journal),
      ((executor b timeout stored q).perform j).1 =
        (answer b timeout q (Connection.idle stored)).1 := by
  refine ⟨fun α work hwork c hc => ?_, fun α s outcome => ?_, fun queries q c hc => ?_,
    fun stored q j => ?_⟩
  · exact shielded_readOnly hb hwork hc
  · exact (confined_query b s).bind fun rows => confined_outcome (outcome rows)
  · exact asFirst hb queries q hc
  · exact perform_executor b timeout stored q j

/-- What a database reports when it is to write and must not. -/
def readOnlyRefusal : Refusal :=
  ⟨"attempt to write a readonly database", "attempt to write a readonly database"⟩

/-- A database that counts the statements run on it wherever it may write. Where it may not, it
refuses to count posts. -/
def tally : Backend Nat where
  dialect := "sqlite"
  refuses _ := none
  run queryOnly s n :=
    if !queryOnly then .ok (.int n, n + 1)
    else if s = .total "posts" then .error (.refused readOnlyRefusal)
    else .ok (.int n, n)
  polls := 0

/-- After a refusal the handler is removed and writing allowed again before the transaction is
rolled back, and neither this nor another query leaves a trace in the answer to a third one. -/
theorem tally_lifted :
    Accepts tally (.int 100) ∧
    Shielded tally (.int 100) (query tally (.total "posts")) (Connection.idle 7)
      (.error (.refused readOnlyRefusal))
      (perform (readOnly tally (.int 100) (query tally (.total "posts"))) (Connection.idle 7)).2 ∧
    (perform (readOnly tally (.int 100) (query tally (.total "posts")))
      (Connection.idle 7)).2.calls =
        [.connect, .begin, .command "PRAGMA query_only = ON", .handler true 1000,
          .execute ((Sql.Statement.total "posts").text .default), .handler false 0,
          .command "PRAGMA query_only = OFF", .rollback, .close] ∧
    (afterAll tally (.int 100) [.count ⟨"Post", "posts"⟩, .count ⟨"User", "users"⟩]
      (Connection.idle 7)).stored = 7 ∧
    (answer tally (.int 100) (.count ⟨"User", "users"⟩)
      (afterAll tally (.int 100) [.count ⟨"Post", "posts"⟩, .count ⟨"User", "users"⟩]
        (Connection.idle 7))).1 = .ok (.int 7) := by
  have hb : Accepts tally (.int 100) := fun _ _ => rfl
  have hidle : (Connection.idle 7 : Connection Nat).AtRest := ⟨rfl, rfl, rfl⟩
  obtain ⟨hshield, _, hqueries, _⟩ := guard_always_lifted hb
  have hrefused := hshield Document _ (confined_query tally (.total "posts")) _ hidle
  have hthird := hqueries [.count ⟨"Post", "posts"⟩, .count ⟨"User", "users"⟩]
    (.count ⟨"User", "users"⟩) _ hidle
  refine ⟨hb, hrefused, rfl, hthird.stored,
    (hthird.outcome _ hidle rfl ?_ ?_).trans rfl⟩
  · unfold Interrupts
    decide +kernel
  · unfold Interrupts
    decide +kernel

end EntityAtlas.Execution
