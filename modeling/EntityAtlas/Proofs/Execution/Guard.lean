import EntityAtlas.Execution.Guard

/-!
# The guard is lifted on every way out

Whatever becomes of guarded work, the connection ends as it was found. Work is confined to its
transaction if it touches nothing but the data of the transaction and the clock; all statements are
such work. Around confined work the guard makes its calls in a fixed order, and the data that
everyone sees stay as they are.
-/

namespace EntityAtlas

namespace Guard

variable {δ α β : Type}

/-! ## Performing -/

theorem perform_bind (work : Guarded δ α) (next : α → Guarded δ β) (c : Connection δ) :
    perform (work >>= next) c =
      match perform work c with
      | (.ok a, after) => perform (next a) after
      | (.error e, after) => (.error e, after) := by
  unfold perform ExceptT.run StateT.run Id.run
  simp only [bind, ExceptT.bind, ExceptT.mk, StateT.bind, ExceptT.bindCont]
  cases work c with
  | mk outcome after => cases outcome <;> rfl

theorem perform_ok {work : Guarded δ α} {next : α → Guarded δ β} {c after : Connection δ} {a : α}
    (h : perform work c = (.ok a, after)) :
    perform (work >>= next) c = perform (next a) after := by
  rw [perform_bind, h]

theorem perform_error {work : Guarded δ α} {next : α → Guarded δ β} {c after : Connection δ}
    {e : GuardFault} (h : perform work c = (.error e, after)) :
    perform (work >>= next) c = (.error e, after) := by
  rw [perform_bind, h]

theorem perform_call (k : Call) (effect : Connection δ → Connection δ) (c : Connection δ) :
    perform (call k effect) c = (.ok (), { effect c with calls := c.calls ++ [k] }) := rfl

theorem perform_now (c : Connection δ) :
    perform now c = (.ok (c.clock.head?.getD 0), { c with clock := c.clock.tail }) := rfl

/-- What is to be done afterwards is done on every way out of the work. -/
theorem perform_ensure {work : Guarded δ α} {after : Guarded δ Unit}
    {effect : Connection δ → Connection δ} (h : ∀ c, perform after c = (.ok (), effect c))
    (c : Connection δ) :
    perform (ensure work after) c = ((perform work c).1, effect (perform work c).2) := by
  have hlift : perform (ExceptT.lift work.run : Guarded δ (Except GuardFault α)) c =
      (.ok (perform work c).1, (perform work c).2) := rfl
  unfold ensure
  rw [perform_ok hlift, perform_ok (h _)]
  cases (perform work c).1 <;> rfl

theorem perform_setting {b : Backend δ} {sql : String} (h : b.refuses sql = none)
    (c : Connection δ) :
    perform (setting b sql) c = (.ok (), { c with calls := c.calls ++ [.execute sql] }) := by
  unfold setting
  rw [perform_ok (perform_call _ _ c), accept, h]
  rfl

theorem perform_command {b : Backend δ} {sql : String} (h : b.refuses sql = none)
    (effect : Connection δ → Connection δ) (c : Connection δ) :
    perform (command b sql effect) c =
      (.ok (), effect { c with calls := c.calls ++ [.command sql] }) := by
  unfold command
  rw [perform_ok (perform_call _ _ c), accept, h]
  rfl

/-! ## Work inside a transaction -/

end Guard

/-- A connection without an open transaction, without a handler, and on which writes are allowed. -/
structure Connection.AtRest {δ : Type} (c : Connection δ) : Prop where
  working : c.working = none
  queryOnly : c.queryOnly = false
  deadline : c.deadline = none

/-- A statement, or a call of the progress handler while one runs. -/
def Call.isStatement : Call → Bool
  | .execute _ | .poll _ => true
  | _ => false

namespace Guard

variable {δ α β : Type}

/-- A connection in a transaction, and later in the same: only statements were made in between, and
they changed nothing but the data of the transaction and the clock. -/
structure Keeps (c after : Connection δ) : Prop where
  stored : after.stored = c.stored
  working : after.working.isSome = true
  queryOnly : after.queryOnly = c.queryOnly
  deadline : after.deadline = c.deadline
  calls : ∃ made, after.calls = c.calls ++ made ∧ ∀ k ∈ made, k.isStatement = true

theorem Keeps.refl {c : Connection δ} (h : c.working.isSome = true) : Keeps c c :=
  ⟨rfl, h, rfl, rfl, [], (List.append_nil _).symm, fun _ hk => absurd hk List.not_mem_nil⟩

theorem Keeps.trans {c₁ c₂ c₃ : Connection δ} (h : Keeps c₁ c₂) (h' : Keeps c₂ c₃) :
    Keeps c₁ c₃ := by
  obtain ⟨made, hcalls, hmade⟩ := h.calls
  obtain ⟨more, hcalls', hmore⟩ := h'.calls
  refine ⟨h'.stored.trans h.stored, h'.working, h'.queryOnly.trans h.queryOnly,
    h'.deadline.trans h.deadline, made ++ more, ?_, fun k hk => ?_⟩
  · rw [hcalls', hcalls, List.append_assoc]
  · rcases List.mem_append.mp hk with hk | hk
    · exact hmade k hk
    · exact hmore k hk

/-- Work that stays in the transaction in which it begins, whatever it comes to. -/
def Confined (work : Guarded δ α) : Prop :=
  ∀ c : Connection δ, c.working.isSome = true → Keeps c (perform work c).2

theorem confined_pure (a : α) : Confined (pure a : Guarded δ α) := fun _ => Keeps.refl

theorem confined_throw (e : GuardFault) : Confined (throw e : Guarded δ α) := fun _ => Keeps.refl

theorem Confined.bind {work : Guarded δ α} {next : α → Guarded δ β} (h : Confined work)
    (hnext : ∀ a, Confined (next a)) : Confined (work >>= next) := by
  intro c hc
  have hkeeps := h c hc
  rw [perform_bind]
  cases hwork : perform work c with
  | mk outcome after =>
    rw [hwork] at hkeeps
    cases outcome with
    | ok a => exact hkeeps.trans (hnext a after hkeeps.working)
    | error e => exact hkeeps

/-- The handler interrupts at its first late call. -/
theorem perform_poll (deadline : Float) (n : Nat) (c : Connection δ) :
    ∃ clock made, (∀ k ∈ made, k.isStatement = true) ∧
      perform (poll deadline n) c =
        (if .poll true ∈ made then .error (.refused interrupted) else .ok (),
          { c with clock := clock, calls := c.calls ++ made }) := by
  induction n generalizing c with
  | zero => exact ⟨c.clock, [], by simp, by rw [List.append_nil]; rfl⟩
  | succ n ih =>
    rw [poll, perform_ok (perform_now c)]
    by_cases hlate : deadline < c.clock.head?.getD 0
    · refine ⟨c.clock.tail, [.poll true], by simp [Call.isStatement], ?_⟩
      simp only [hlate, decide_true, if_true]
      rfl
    · simp only [hlate, decide_false]
      obtain ⟨clock, made, hmade, hrest⟩ :=
        ih { c with clock := c.clock.tail, calls := c.calls ++ [.poll false] }
      refine ⟨clock, .poll false :: made, by simpa [Call.isStatement] using hmade, ?_⟩
      refine Eq.trans (show _ = perform (poll deadline n) _ from rfl) (hrest.trans ?_)
      simp

/-- A statement yields what the database makes of it, unless the handler interrupts. -/
theorem query_cases (b : Backend δ) (s : Sql.Statement) {c : Connection δ} {d : δ}
    (hc : c.working = some d) :
    ∃ made, (perform (query b s) c).2.calls = c.calls ++ made ∧
      Keeps c (perform (query b s) c).2 ∧
      (.poll true ∉ made → (perform (query b s) c).1 = (b.run c.queryOnly s d).map (·.1)) ∧
      (.poll true ∈ made → (perform (query b s) c).1 = .error (.refused interrupted)) := by
  have hget : ∀ c : Connection δ, perform (get : Guarded δ (Connection δ)) c = (.ok c, c) :=
    fun _ => rfl
  have hset : ∀ c c' : Connection δ, perform (set c' : Guarded δ PUnit) c = (.ok ⟨⟩, c') :=
    fun _ _ => rfl
  unfold query
  rw [perform_ok (perform_call _ _ c), perform_ok (hget _)]
  simp only [id_eq, hc, Option.getD_some]
  cases hrun : b.run c.queryOnly s d with
  | error fault =>
    exact ⟨[.execute (s.text .default)], rfl,
      ⟨rfl, rfl, rfl, rfl, _, rfl, by simp [Call.isStatement]⟩, fun _ => rfl, by simp⟩
  | ok result =>
    obtain ⟨rows, data⟩ := result
    simp only
    rw [perform_ok (hset _ _)]
    cases hd : c.deadline with
    | none =>
      exact ⟨[.execute (s.text .default)], rfl,
        ⟨rfl, rfl, rfl, hd.symm, _, rfl, by simp [Call.isStatement]⟩, fun _ => rfl, by simp⟩
    | some deadline =>
      simp only [Option.map_some]
      obtain ⟨clock, made, hmade, hpoll⟩ := perform_poll deadline b.polls
        { c with
          working := some data
          deadline := some deadline
          calls := c.calls ++ [.execute (s.text .default)] }
      have hcalls : ∀ k ∈ Call.execute (s.text .default) :: made, k.isStatement = true := by
        simpa [Call.isStatement] using hmade
      rw [perform_bind, hpoll]
      refine ⟨.execute (s.text .default) :: made, ?_⟩
      by_cases hlate : Call.poll true ∈ made
      · rw [if_pos hlate]
        exact ⟨by simp, ⟨rfl, rfl, rfl, hd.symm, _, by simp, hcalls⟩, by simp [hlate], fun _ => rfl⟩
      · rw [if_neg hlate]
        exact ⟨List.append_assoc _ _ _,
          ⟨rfl, rfl, rfl, hd.symm, _, List.append_assoc _ _ _, hcalls⟩,
          fun _ => rfl, by simp [hlate]⟩

theorem confined_query (b : Backend δ) (s : Sql.Statement) : Confined (query b s) := by
  intro c hc
  obtain ⟨d, hd⟩ := Option.isSome_iff_exists.mp hc
  obtain ⟨_, _, hkeeps, _⟩ := query_cases b s hd
  exact hkeeps

theorem confined_outcome (outcome : Except GuardFault α) :
    Confined (MonadExcept.ofExcept outcome : Guarded δ α) := by
  cases outcome with
  | ok a => exact confined_pure a
  | error e => exact confined_throw e

/-! ## The calls of the guard -/

/-- What is wrong with the time limit, for a dialect that is told about it. -/
def limitFault (dialect : String) (timeout : Document) : Option TimeoutFault :=
  let fault {α : Type} : Except TimeoutFault α → Option TimeoutFault
    | .ok _ => none
    | .error e => some e
  if dialect = "postgresql" then fault (Timeout.milliseconds timeout)
  else if dialect = "sqlite" then fault (Timeout.seconds timeout)
  else none

/-- The calls before the work; they end where the time limit turns out to be of no use. -/
def opening (dialect : String) (timeout : Document) : List Call :=
  if dialect = "postgresql" then
    .execute "SET TRANSACTION READ ONLY" ::
      match Timeout.milliseconds timeout with
      | .ok limit => [.execute ("SET LOCAL statement_timeout = " ++ toString limit)]
      | .error _ => []
  else if dialect = "sqlite" then
    match Timeout.seconds timeout with
    | .ok _ => [.command "PRAGMA query_only = ON", .handler true interval]
    | .error _ => []
  else []

/-- The calls after the work. -/
def closing (dialect : String) : List Call :=
  if dialect = "sqlite" then [.handler false 0, .command "PRAGMA query_only = OFF"] else []

/-- The database accepts what the guard asks of it. -/
def Accepts (b : Backend δ) (timeout : Document) : Prop :=
  ∀ sql, .execute sql ∈ opening b.dialect timeout ∨
    .command sql ∈ opening b.dialect timeout ++ closing b.dialect → b.refuses sql = none

/-- A connection as the work finds it, after the calls before the work: in a transaction, and with
the protection that the dialect offers. -/
structure Inside (b : Backend δ) (timeout : Document) (c inside : Connection δ) : Prop where
  stored : inside.stored = c.stored
  working : inside.working = some c.stored
  queryOnly : inside.queryOnly = decide (b.dialect = "sqlite")
  watched : inside.deadline.isSome = decide (b.dialect = "sqlite")
  calls : inside.calls = c.calls ++ [.connect, .begin] ++ opening b.dialect timeout

/-- What becomes of a connection when work is guarded on it. -/
structure Shielded (b : Backend δ) (timeout : Document) (work : Guarded δ α) (c : Connection δ)
    (outcome : Except GuardFault α) (after : Connection δ) : Prop where
  /-- The connection is as it was found. -/
  rest : after.AtRest
  /-- No data have changed. -/
  stored : after.stored = c.stored
  /-- The transaction is rolled back exactly once. -/
  once : ∃ made, after.calls = c.calls ++ made ∧ made.count .rollback = 1
  /-- The work is done after the transaction has begun and the guard is up, and its outcome is the
  outcome; then the guard is lifted, and then the transaction is rolled back. -/
  done : limitFault b.dialect timeout = none → ∃ inside made, Inside b timeout c inside ∧
    (perform work inside).1 = outcome ∧
    (perform work inside).2.calls = inside.calls ++ made ∧ (∀ k ∈ made, k.isStatement = true) ∧
    after.calls = inside.calls ++ made ++ closing b.dialect ++ [.rollback, .close]
  /-- With a time limit of no use the work is not done at all. -/
  undone : ∀ fault, limitFault b.dialect timeout = some fault →
    outcome = .error (.timeout fault) ∧ after.calls =
      c.calls ++ [.connect, .begin] ++ opening b.dialect timeout ++ [.rollback, .close]

/-- The connection in a transaction, after some more calls. -/
def begun (c : Connection δ) (made : List Call) : Connection δ :=
  { c with working := some c.stored, calls := c.calls ++ [.connect, .begin] ++ made }

/-- The connection after the transaction. -/
def ended (c : Connection δ) : Connection δ :=
  { c with working := none, calls := c.calls ++ [.rollback, .close] }

/-- The guard itself neither ends the transaction nor is it called by a running statement. -/
theorem guard_calls {dialect : String} {timeout : Document} {k : Call}
    (h : k ∈ opening dialect timeout ++ closing dialect) :
    k ≠ .rollback ∧ ∀ late, k ≠ .poll late := by
  rcases List.mem_append.mp h with h | h
  · unfold opening at h
    split at h
    · cases hms : Timeout.milliseconds timeout <;> rw [hms] at h <;> simp at h <;>
        rcases h with rfl | rfl <;> simp
    · split at h
      · cases hs : Timeout.seconds timeout <;> rw [hs] at h <;> simp at h
        rcases h with rfl | rfl <;> simp
      · cases h
  · unfold closing at h
    split at h
    · simp at h
      rcases h with rfl | rfl <;> simp
    · cases h

/-- A transaction always ends by being rolled back. -/
theorem perform_readOnly (b : Backend δ) (timeout : Document) (work : Guarded δ α)
    (c : Connection δ) :
    perform (readOnly b timeout work) c =
      ((perform (protect b timeout work) (begun c [])).1,
        ended (perform (protect b timeout work) (begun c [])).2) := by
  have hrollback : ∀ c : Connection δ,
      perform (call .rollback fun c => { c with working := none }) c =
        (.ok (), { c with working := none, calls := c.calls ++ [.rollback] }) := fun c =>
    perform_call _ _ c
  unfold readOnly
  rw [perform_ok (perform_call _ _ c), perform_ensure (perform_call .close id), transaction,
    perform_ok (perform_call _ _ _), perform_ensure hrollback]
  simp [begun, ended]

/-! ## Lifting the guard -/

/-- The work as it is done under the guard: the connection that it finds and the one that the lifted
guard leaves, still in the transaction. -/
structure Lifted (b : Backend δ) (timeout : Document) (work : Guarded δ α) (c : Connection δ)
    (result : Except GuardFault α × Connection δ) (inside : Connection δ) (made : List Call) :
    Prop where
  found : Inside b timeout c inside
  outcome : (perform work inside).1 = result.1
  made_eq : (perform work inside).2.calls = inside.calls ++ made
  statements : ∀ k ∈ made, k.isStatement = true
  stored : result.2.stored = c.stored
  queryOnly : result.2.queryOnly = false
  deadline : result.2.deadline = none
  calls : result.2.calls = inside.calls ++ made ++ closing b.dialect

section Dialects

variable {b : Backend δ} {timeout : Document} {work : Guarded δ α} {c : Connection δ}

/-- Where nothing has to be undone, confined work leaves the connection as it was found. -/
theorem lifted_of_keeps (timeout : Document) (hwork : Confined work) (hc : c.AtRest)
    (hd : b.dialect ≠ "sqlite") :
    ∃ made, Lifted b timeout work c (perform work (begun c (opening b.dialect timeout)))
      (begun c (opening b.dialect timeout)) made := by
  have hkeeps := hwork (begun c (opening b.dialect timeout)) rfl
  obtain ⟨made, hcalls, hmade⟩ := hkeeps.calls
  refine ⟨made, ⟨rfl, rfl, ?_, ?_, rfl⟩, rfl, hcalls, hmade, hkeeps.stored,
    hkeeps.queryOnly.trans hc.queryOnly, hkeeps.deadline.trans hc.deadline, ?_⟩
  · simp [begun, hc.queryOnly, hd]
  · simp [begun, hc.deadline, hd]
  · rw [hcalls, closing, if_neg hd, List.append_nil]

theorem lifted_postgresql (hb : Accepts b timeout) (hwork : Confined work) (hc : c.AtRest)
    (hd : b.dialect = "postgresql") (hlimit : limitFault b.dialect timeout = none) :
    ∃ inside made,
      Lifted b timeout work c (perform (postgresql b timeout work) (begun c [])) inside made := by
  have hsqlite : b.dialect ≠ "sqlite" := by rw [hd]; decide
  obtain ⟨made, h⟩ := lifted_of_keeps timeout hwork hc hsqlite
  cases hms : Timeout.milliseconds timeout with
  | error e => simp [limitFault, hd, hms] at hlimit
  | ok limit =>
    have hopening : opening b.dialect timeout = [.execute "SET TRANSACTION READ ONLY",
        .execute ("SET LOCAL statement_timeout = " ++ toString limit)] := by
      simp [opening, hd, hms]
    have hread : b.refuses "SET TRANSACTION READ ONLY" = none :=
      hb _ (Or.inl (by simp [hopening]))
    have hset : b.refuses ("SET LOCAL statement_timeout = " ++ toString limit) = none :=
      hb _ (Or.inl (by simp [hopening]))
    have husable : ∀ c : Connection δ,
        perform (usable (.ok limit) : Guarded δ Int) c = (.ok limit, c) := fun _ => rfl
    have hperform : perform (postgresql b timeout work) (begun c []) =
        perform work (begun c (opening b.dialect timeout)) := by
      unfold postgresql
      rw [perform_ok (perform_setting hread _), hms, perform_ok (husable _),
        perform_ok (perform_setting hset _), hopening]
      simp [begun]
    rw [hperform]
    exact ⟨_, made, h⟩

theorem lifted_sqlite (hb : Accepts b timeout) (hwork : Confined work)
    (hd : b.dialect = "sqlite") (hlimit : limitFault b.dialect timeout = none) :
    ∃ inside made,
      Lifted b timeout work c (perform (sqlite b timeout work) (begun c [])) inside made := by
  cases hs : Timeout.seconds timeout with
  | error e => simp [limitFault, hd, hs] at hlimit
  | ok limit =>
    have hopening : opening b.dialect timeout =
        [.command "PRAGMA query_only = ON", .handler true interval] := by
      simp [opening, hd, hs]
    have hclosing : closing b.dialect =
        [.handler false 0, .command "PRAGMA query_only = OFF"] := by
      simp [closing, hd]
    have hon : b.refuses "PRAGMA query_only = ON" = none :=
      hb _ (Or.inr (by simp [hopening]))
    have hoff : b.refuses "PRAGMA query_only = OFF" = none :=
      hb _ (Or.inr (by simp [hclosing]))
    have husable : ∀ c : Connection δ,
        perform (usable (.ok limit) : Guarded δ Float) c = (.ok limit, c) := fun _ => rfl
    have hafter : ∀ c : Connection δ, perform (do
        call (.handler false 0) fun c => { c with deadline := none }
        command b "PRAGMA query_only = OFF" fun c => { c with queryOnly := false }) c =
        (.ok (), { c with
          deadline := none
          queryOnly := false
          calls := c.calls ++ closing b.dialect }) := by
      intro c
      rw [perform_ok (perform_call _ _ c), perform_command hoff, hclosing]
      simp
    let inside : Connection δ := { begun c (opening b.dialect timeout) with
      queryOnly := true
      deadline := some (c.clock.head?.getD 0 + limit)
      clock := c.clock.tail }
    have hperform : perform (sqlite b timeout work) (begun c []) =
        ((perform work inside).1, { (perform work inside).2 with
          deadline := none
          queryOnly := false
          calls := (perform work inside).2.calls ++ closing b.dialect }) := by
      unfold sqlite
      rw [perform_ok (perform_now _), hs, perform_ok (husable _),
        perform_ok (perform_command hon _ _), perform_ok (perform_call _ _ _),
        perform_ensure hafter]
      simp [inside, begun, hopening]
    have hkeeps := hwork inside rfl
    obtain ⟨made, hcalls, hmade⟩ := hkeeps.calls
    rw [hperform]
    exact ⟨inside, made, ⟨rfl, rfl, by simp [inside, hd], by simp [inside, hd], rfl⟩, rfl, hcalls,
      hmade, hkeeps.stored, rfl, rfl, congrArg (· ++ closing b.dialect) hcalls⟩

/-- A time limit of no use ends the work before it is done. -/
theorem perform_protect_fault (work : Guarded δ α) (c : Connection δ) (hb : Accepts b timeout)
    {fault : TimeoutFault}
    (hlimit : limitFault b.dialect timeout = some fault) :
    ∃ clock, perform (protect b timeout work) (begun c []) =
      (.error (.timeout fault), { begun c (opening b.dialect timeout) with clock := clock }) := by
  unfold protect
  by_cases hp : b.dialect = "postgresql"
  · cases hms : Timeout.milliseconds timeout with
    | ok limit => simp [limitFault, hp, hms] at hlimit
    | error e =>
      obtain rfl : e = fault := by simpa [limitFault, hp, hms] using hlimit
      have hopening : opening b.dialect timeout = [.execute "SET TRANSACTION READ ONLY"] := by
        simp [opening, hp, hms]
      have hread : b.refuses "SET TRANSACTION READ ONLY" = none :=
        hb _ (Or.inl (by simp [hopening]))
      have husable : ∀ c : Connection δ,
          perform (usable (.error e) : Guarded δ Int) c = (.error (.timeout e), c) := fun _ => rfl
      refine ⟨c.clock, ?_⟩
      rw [if_pos hp, postgresql, perform_ok (perform_setting hread _), hms,
        perform_error (husable _), hopening]
      simp [begun]
  · rw [if_neg hp]
    by_cases hq : b.dialect = "sqlite"
    · cases hs : Timeout.seconds timeout with
      | ok limit => simp [limitFault, hq, hs] at hlimit
      | error e =>
        obtain rfl : e = fault := by simpa [limitFault, hq, hs] using hlimit
        have hopening : opening b.dialect timeout = [] := by simp [opening, hq, hs]
        have husable : ∀ c : Connection δ,
            perform (usable (.error e) : Guarded δ Float) c = (.error (.timeout e), c) :=
          fun _ => rfl
        refine ⟨c.clock.tail, ?_⟩
        rw [if_pos hq, sqlite, perform_ok (perform_now _), hs, perform_error (husable _), hopening]
        rfl
    · simp [limitFault, hp, hq] at hlimit

theorem exists_lifted (hb : Accepts b timeout) (hwork : Confined work) (hc : c.AtRest)
    (hlimit : limitFault b.dialect timeout = none) :
    ∃ inside made,
      Lifted b timeout work c (perform (protect b timeout work) (begun c [])) inside made := by
  unfold protect
  by_cases hp : b.dialect = "postgresql"
  · rw [if_pos hp]
    exact lifted_postgresql hb hwork hc hp hlimit
  · rw [if_neg hp]
    by_cases hq : b.dialect = "sqlite"
    · rw [if_pos hq]
      exact lifted_sqlite hb hwork hq hlimit
    · rw [if_neg hq]
      obtain ⟨made, h⟩ := lifted_of_keeps timeout hwork hc hq
      have hopening : opening b.dialect timeout = [] := by simp [opening, hp, hq]
      rw [hopening] at h
      exact ⟨_, made, h⟩

/-- Whatever confined work comes to, the guard is lifted and the transaction rolled back. -/
theorem shielded_readOnly (hb : Accepts b timeout) (hwork : Confined work) (hc : c.AtRest) :
    Shielded b timeout work c (perform (readOnly b timeout work) c).1
      (perform (readOnly b timeout work) c).2 := by
  have hopening : Call.rollback ∉ opening b.dialect timeout := fun h =>
    (guard_calls (List.mem_append_left (closing b.dialect) h)).1 rfl
  have hclosing : Call.rollback ∉ closing b.dialect := fun h =>
    (guard_calls (List.mem_append_right (opening b.dialect timeout) h)).1 rfl
  rw [perform_readOnly]
  cases hlimit : limitFault b.dialect timeout with
  | none =>
    obtain ⟨inside, made, h⟩ := exists_lifted hb hwork hc hlimit
    have hcalls : (ended (perform (protect b timeout work) (begun c [])).2).calls =
        inside.calls ++ made ++ closing b.dialect ++ [.rollback, .close] := by
      rw [ended, h.calls]
    refine ⟨⟨rfl, h.queryOnly, h.deadline⟩, h.stored, ?_, fun _ => ?_, fun fault hfault => ?_⟩
    · have hmade : Call.rollback ∉ made := fun hmem =>
        absurd (h.statements _ hmem) (by decide)
      refine ⟨[.connect, .begin] ++ opening b.dialect timeout ++ made ++ closing b.dialect ++
        [.rollback, .close], ?_, ?_⟩
      · rw [hcalls, h.found.calls]
        simp
      · simp [List.count_append, List.count_eq_zero_of_not_mem hmade,
          List.count_eq_zero_of_not_mem hopening, List.count_eq_zero_of_not_mem hclosing]
    · exact ⟨inside, made, h.found, h.outcome, h.made_eq, h.statements, hcalls⟩
    · rw [hlimit] at hfault
      cases hfault
  | some fault =>
    obtain ⟨clock, h⟩ := perform_protect_fault work c hb hlimit
    rw [h]
    refine ⟨⟨rfl, hc.queryOnly, hc.deadline⟩, rfl, ?_, fun hnone => ?_, fun fault' hfault => ?_⟩
    · refine ⟨[.connect, .begin] ++ opening b.dialect timeout ++ [.rollback, .close], ?_, ?_⟩
      · simp [ended, begun]
      · simp [List.count_append, List.count_eq_zero_of_not_mem hopening]
    · rw [hlimit] at hnone
      cases hnone
    · obtain rfl : fault = fault' := by rw [hlimit] at hfault; exact Option.some.inj hfault
      exact ⟨rfl, rfl⟩

end Dialects

end Guard

end EntityAtlas
