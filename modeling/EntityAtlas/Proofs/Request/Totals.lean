import EntityAtlas.Proofs.Metric.ChosenEdges
import EntityAtlas.Proofs.Request.Frames

/-!
# Totals account for every entity

Without instructions every entity whose table exists is counted, or its condition leaves a warning.
With an executor that depends on the query alone, the totals and the warnings share the entities out
among them, and each agrees with the result of an instruction that names the entity and nothing
else: that instruction is compiled to the query that was counted.
-/

namespace EntityAtlas

open Recorded

/-- The instruction asks for the number of all rows of an entity. -/
def Request.NamesOnly (r : Request) (name : String) : Prop :=
  ∃ i, r.instruction = .ok i ∧ i.entity = name ∧ i.pivot = none

theorem Request.namesOnly_raw (id : Document) (name : String) :
    (Request.raw (.record [("metric_configuration_id", id), ("entity", .text name)])).NamesOnly
      name :=
  ⟨_, rfl, rfl, rfl⟩

namespace Metrics

/-- Where there are rows for a count of all rows, there is one, and it holds a number. -/
def CountsOne (answer : Query → Except MetricError (List AnswerRow)) : Prop :=
  ∀ q rows, answer (.count q) = .ok rows →
    ∃ row n, rows = [row] ∧ row.cells.find? countLabel = some (.int n)

variable {answer : Query → Except MetricError (List AnswerRow)} {s : Snapshot} {run : Executor}
  {entities : List Entity} {counted : List (Entity × Int)} {failed : List (Entity × MetricError)}

/-- The query that counts the rows of an entity. -/
def countQuery (e : Entity) : Query := .count ⟨e.name, e.tableName⟩

/-- Entities are shared out, in their order, to those that were counted and those that failed. -/
inductive Accounted (answer : Query → Except MetricError (List AnswerRow)) :
    List Entity → List (Entity × Int) → List (Entity × MetricError) → Prop where
  | nil : Accounted answer [] [] []
  | counted {e : Entity} {row : AnswerRow} {n : Int} {entities : List Entity}
    {counted : List (Entity × Int)} {failed : List (Entity × MetricError)}
    (h : answer (countQuery e) = .ok [row]) (hn : row.cells.find? countLabel = some (.int n))
    (hrest : Accounted answer entities counted failed) :
    Accounted answer (e :: entities) ((e, n) :: counted) failed
  | failed {e : Entity} {error : MetricError} {entities : List Entity}
    {counted : List (Entity × Int)} {failed : List (Entity × MetricError)}
    (h : answer (countQuery e) = .error error)
    (hrest : Accounted answer entities counted failed) :
    Accounted answer (e :: entities) counted ((e, error) :: failed)

namespace Accounted

/-- No entity is lost, and none is reported twice. -/
theorem perm (h : Accounted answer entities counted failed) :
    (counted.map (·.1) ++ failed.map (·.1)).Perm entities := by
  induction h with
  | nil => exact .nil
  | counted _ _ _ ih => exact ih.cons _
  | failed _ _ ih => exact List.perm_middle.trans (ih.cons _)

theorem counted_sublist (h : Accounted answer entities counted failed) :
    (counted.map (·.1)).Sublist entities := by
  induction h with
  | nil => exact .slnil
  | counted _ _ _ ih => exact ih.cons_cons _
  | failed _ _ ih => exact ih.cons _

theorem failed_sublist (h : Accounted answer entities counted failed) :
    (failed.map (·.1)).Sublist entities := by
  induction h with
  | nil => exact .slnil
  | counted _ _ _ ih => exact ih.cons _
  | failed _ _ ih => exact ih.cons_cons _

theorem of_mem_counted (h : Accounted answer entities counted failed) {e : Entity} {n : Int}
    (hmem : (e, n) ∈ counted) :
    ∃ row, answer (countQuery e) = .ok [row] ∧ row.cells.find? countLabel = some (.int n) := by
  induction h with
  | nil => cases hmem
  | counted h hn _ ih =>
    rcases List.mem_cons.mp hmem with heq | hrest
    · cases heq
      exact ⟨_, h, hn⟩
    · exact ih hrest
  | failed _ _ ih => exact ih hmem

theorem of_mem_failed (h : Accounted answer entities counted failed) {e : Entity}
    {error : MetricError} (hmem : (e, error) ∈ failed) :
    answer (countQuery e) = .error error := by
  induction h with
  | nil => cases hmem
  | counted _ _ _ ih => exact ih hmem
  | failed h _ ih =>
    rcases List.mem_cons.mp hmem with heq | hrest
    · cases heq
      exact h
    · exact ih hrest

end Accounted

/-- The totals of the entities that were counted. -/
def totalsOf (counted : List (Entity × Int)) : List EntityTotal :=
  counted.map fun x => ⟨x.1.name, x.2⟩

/-- The warnings about the entities that failed: each names its entity and has the wording of the
condition. -/
def warningsOf (failed : List (Entity × MetricError)) : List String :=
  failed.map fun x => x.1.name ++ ": " ++ x.2.message

/-- The totals of some entities come to what shares them out. -/
theorem ensures_totals (hrun : Answers run answer) (hcounts : CountsOne answer)
    (entities : List Entity) :
    ∃ counted failed, Accounted answer entities counted failed ∧
      Ensures (totals run entities) (· = .ok (totalsOf counted, warningsOf failed)) := by
  induction entities with
  | nil => exact ⟨[], [], .nil, ensures_pure rfl⟩
  | cons e rest ih =>
    obtain ⟨counted, failed, hrest, htotals⟩ := ih
    have hanswer := hrun (countQuery e)
    cases h : answer (countQuery e) with
    | error error =>
      rw [h] at hanswer
      refine ⟨counted, (e, error) :: failed, .failed h hrest, ?_⟩
      refine hanswer.settle.bind ?_
      rintro _ rfl
      exact Ensures.after_log _ _ _ (htotals.bind_eq (ensures_pure rfl))
    | ok rows =>
      rw [h] at hanswer
      obtain ⟨row, n, rfl, hn⟩ := hcounts _ rows h
      refine ⟨(e, n) :: counted, failed, .counted h hn hrest, ?_⟩
      refine hanswer.settle.bind ?_
      rintro _ rfl
      have htotal : totalOf e (AnswerRow.document [row]) = .ok ⟨e.name, n⟩ := totalOf_row e hn []
      simp only [Except.map, Except.mapError, htotal]
      exact htotals.bind_eq (ensures_pure rfl)

/-- An instruction that names an entity only is compiled to the query that counts it. -/
theorem compile_namesOnly (hnd : (s.entities.map (·.name)).Nodup) {e : Entity}
    (he : e ∈ s.entities) {i : MetricInstruction} (hentity : i.entity = e.name)
    (hpivot : i.pivot = none) : (Planner.ofSnapshot s).compile i = .ok (countQuery e) := by
  have hfound : (Planner.ofSnapshot s).snapshot.entity? i.entity = some e := by
    rw [hentity]
    exact Snapshot.entity?_of_mem hnd he
  have hplain : i = { i with pivot := none } := by rw [← hpivot]
  rw [hplain]
  exact Planner.compile_total hfound

theorem attempt_namesOnly (hnd : (s.entities.map (·.name)).Nodup) {e : Entity}
    (he : e ∈ s.entities) {r : Request} (hr : r.NamesOnly e.name) :
    attempt (Planner.ofSnapshot s) answer r = answer (countQuery e) := by
  obtain ⟨i, hi, hentity, hpivot⟩ := hr
  rw [attempt, hi]
  show ((Planner.ofSnapshot s).compile i).bind answer = _
  rw [compile_namesOnly hnd he hentity hpivot]
  rfl

/-- The entities that are reported, those that were counted before those that failed. -/
def reportedEntities (counted : List (Entity × Int)) (failed : List (Entity × MetricError)) :
    List Entity :=
  counted.map (·.1) ++ failed.map (·.1)

/-- The entities whose tables exist are shared out to those that were counted and those that
failed. -/
structure SharedOut (s : Snapshot) (counted : List (Entity × Int))
    (failed : List (Entity × MetricError)) : Prop where
  perm : (reportedEntities counted failed).Perm s.existing.entities
  counted_in_order : (counted.map (·.1)).Sublist s.existing.entities
  failed_in_order : (failed.map (·.1)).Sublist s.existing.entities
  names_nodup : ((reportedEntities counted failed).map (·.name)).Nodup
  missing_unreported : ∀ e ∈ s.entities, e.present = false →
    e.name ∉ (reportedEntities counted failed).map (·.name)

theorem Accounted.sharedOut (hnd : (s.entities.map (·.name)).Nodup)
    (h : Accounted answer s.existing.entities counted failed) : SharedOut s counted failed := by
  have hsub : (s.existing.entities.map (·.name)).Sublist (s.entities.map (·.name)) :=
    List.filter_sublist.map _
  refine ⟨h.perm, h.counted_sublist, h.failed_sublist, ?_, ?_⟩
  · exact (h.perm.map _).nodup_iff.mpr (hnd.sublist hsub)
  · intro e he hpresent hreported
    obtain ⟨d, hd, hname⟩ := List.mem_map.mp ((h.perm.map _).mem_iff.mp hreported)
    obtain ⟨hd, hexists⟩ := List.mem_filter.mp hd
    rw [List.inj_on_of_nodup_map hnd hd he hname, hpresent] at hexists
    cases hexists

/-- Totals and failures agree with the results of the instructions that name the entities only. -/
structure AgreesWith (result : Request → MetricResult) (counted : List (Entity × Int))
    (failed : List (Entity × MetricError)) : Prop where
  total : ∀ e n, (e, n) ∈ counted → ∀ r : Request, r.NamesOnly e.name →
    (result r).error = none ∧ ∃ row, (result r).rows = [row] ∧
      row.find? countLabel = some (.int n)
  warning : ∀ e error, (e, error) ∈ failed → ∀ r : Request, r.NamesOnly e.name →
    (result r).rows = [] ∧ (result r).error = some error.code ∧
      (result r).message = some error.message

theorem Accounted.agreesWith (hnd : (s.entities.map (·.name)).Nodup)
    (h : Accounted answer s.existing.entities counted failed) :
    AgreesWith (resultFor (Planner.ofSnapshot s) answer) counted failed := by
  constructor
  · intro e n hmem r hr
    have he := h.counted_sublist.subset (List.mem_map_of_mem hmem)
    obtain ⟨row, hrow, hn⟩ := h.of_mem_counted hmem
    rw [resultFor, attempt_namesOnly hnd (List.mem_of_mem_filter he) hr, hrow]
    exact ⟨rfl, row.cells, rfl, hn⟩
  · intro e error hmem r hr
    have he := h.failed_sublist.subset (List.mem_map_of_mem hmem)
    rw [resultFor, attempt_namesOnly hnd (List.mem_of_mem_filter he) hr, h.of_mem_failed hmem]
    exact ⟨rfl, rfl, rfl⟩

/-- Without instructions the existing entities are shared out to totals and warnings, in the order
of the snapshot and whatever fails, and each agrees with what a batch says of the entity alone. -/
theorem totals_account (hnd : (s.entities.map (·.name)).Nodup) (hrun : Answers run answer)
    (hcounts : CountsOne answer) :
    ∃ counted failed, SharedOut s counted failed ∧
      (∀ mapped, Ensures (compute ⟨.ok s, mapped⟩ run none) (· =
        .ok (.ok ⟨[], some (totalsOf counted)⟩ (warningsOf failed)))) ∧
      ∃ result : Request → MetricResult,
        (∀ mapped requests, Ensures (compute ⟨.ok s, mapped⟩ run (some (.ok requests))) (· =
          .ok (.ok ⟨requests.map result, none⟩))) ∧
        AgreesWith result counted failed := by
  obtain ⟨counted, failed, haccounted, htotals⟩ :=
    ensures_totals hrun hcounts s.existing.entities
  refine ⟨counted, failed, haccounted.sharedOut hnd, fun mapped => ?_,
    resultFor (Planner.ofSnapshot s) answer, ensures_compute hrun, haccounted.agreesWith hnd⟩
  exact ensures_withSnapshot mapped (htotals.bind_eq (ensures_pure rfl))

theorem countsOne_blog : CountsOne blogAnswer := by
  intro q rows h
  unfold blogAnswer at h
  split at h
  · cases h
  · cases h
    exact ⟨_, 3, rfl, rfl⟩

theorem totals_account_blog :
    (blogSnapshot.entities.map (·.name)).Nodup ∧ Answers (answering blogAnswer) blogAnswer ∧
      CountsOne blogAnswer ∧ ∃ counted failed, SharedOut blogSnapshot counted failed ∧
        totalsOf counted = [⟨"Post", 3⟩] ∧ warningsOf failed = ["Page: pages are locked"] ∧
        ∃ result : Request → MetricResult, ∀ e error, (e, error) ∈ failed →
          Ensures (compute ⟨.ok blogSnapshot, true⟩ (answering blogAnswer)
            (some (.ok [.raw (countInstruction 1 e.name)])))
            (· = .ok (.ok ⟨[result (.raw (countInstruction 1 e.name))], none⟩)) ∧
          (result (.raw (countInstruction 1 e.name))).message = some error.message := by
  have hnd : (blogSnapshot.entities.map (·.name)).Nodup := by decide
  have hrun := answers_answering blogAnswer
  obtain ⟨counted, failed, hshared, htotals, result, hbatch, hagrees⟩ :=
    totals_account hnd hrun countsOne_blog
  have hcomputed : ((compute ⟨.ok blogSnapshot, true⟩ (answering blogAnswer) none).perform
      Journal.empty).1 = .ok (.ok ⟨[], some [⟨"Post", 3⟩]⟩ ["Page: pages are locked"]) := by rfl
  have heq := (htotals true Journal.empty).symm.trans hcomputed
  simp only [Except.ok.injEq, Outcome.ok, Outcome.mk.injEq, Option.some.injEq,
    MetricsResponse.mk.injEq, true_and] at heq
  refine ⟨hnd, hrun, countsOne_blog, counted, failed, hshared, heq.1, heq.2, result, ?_⟩
  intro e error hmem
  refine ⟨hbatch true _, ?_⟩
  exact (hagrees.warning e error hmem _ (Request.namesOnly_raw (.int 1) e.name)).2.2

end Metrics

end EntityAtlas
