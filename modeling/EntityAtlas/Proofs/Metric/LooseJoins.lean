import EntityAtlas.Entity.Declaration
import EntityAtlas.Proofs.Metric.Course
import EntityAtlas.Proofs.Metric.Refusals

/-!
# Joins without conditions

An association without columns for the table of its target is refused. The table in between of an
association is joined on the columns that are declared between it and the owner, and these may be
none: such a table is joined without any condition, and no other is.
-/

namespace EntityAtlas

/-- The table in between of an association, if there are no columns of the owner to join it on. -/
def Association.looseTable? (a : Association) : Option String :=
  match a.through with
  | some t => if t.sourceColumns = [] then some t.tableName else none
  | none => none

theorem loose_legs {a : Association} (target : Entity) (h : a.arrivalColumns ≠ []) :
    ((a.legs target).filter (·.columns.isEmpty)).map (·.table) = a.looseTable?.toList := by
  unfold Association.arrivalColumns at h
  unfold Association.legs Association.looseTable?
  cases hthrough : a.through with
  | none =>
    rw [hthrough] at h
    simp [h]
  | some t =>
    rw [hthrough] at h
    by_cases hsource : t.sourceColumns = []
    · simp [hsource, h]
    · simp [hsource, h]

theorem loose_legsOf {hops : List Hop} (h : ∀ x ∈ hops, x.1.arrivalColumns ≠ []) :
    ((legsOf hops).filter (·.columns.isEmpty)).map (·.table) =
      hops.filterMap (·.1.looseTable?) := by
  induction hops with
  | nil => rfl
  | cons x hops ih =>
    obtain ⟨hx, hrest⟩ := List.forall_mem_cons.mp h
    have hlegs : legsOf (x :: hops) = x.1.legs x.2 ++ legsOf hops := rfl
    rw [hlegs, List.filter_append, List.map_append, loose_legs x.2 hx, ih hrest,
      List.filterMap_cons]
    cases x.1.looseTable? with
    | none => rfl
    | some table => rfl

theorem loose_stepsFrom (position : Nat) (legs : List Leg) :
    ((Planner.stepsFrom position legs).filter (·.pairs.isEmpty)).map (·.tableName) =
      (legs.filter (·.columns.isEmpty)).map (·.table) := by
  induction legs generalizing position with
  | nil => rfl
  | cons l legs ih =>
    have hpairs : (Planner.step l.association l.table position l.columns).pairs.isEmpty =
        l.columns.isEmpty := by
      simp [Planner.step, Planner.pairsFrom]
    rw [Planner.stepsFrom, List.filter_cons, List.filter_cons, hpairs]
    cases l.columns.isEmpty with
    | false => exact ih (position + 1)
    | true =>
      rw [if_pos rfl, if_pos rfl, List.map_cons, List.map_cons, ih]
      rfl

/-- The path of an instruction leads, over associations with columns, to an entity whose next
association is known with its target. -/
structure ComesTo (s : Snapshot) (i : MetricInstruction) (entity pivot owner : Entity)
    (a : Association) : Prop where
  entity_eq : s.entity? i.entity = some entity
  pivot_eq : ∃ name, i.pivot = some name ∧ s.entity? name = some pivot
  keyed : Keyed pivot
  follows : ∃ before after hops, LeadsBy s i entity pivot (before ++ a.name :: after) ∧
    Follows s entity before hops owner ∧ ∀ x ∈ hops, x.1.arrivalColumns ≠ []
  joinable_eq : s.joinable? owner.name a.name = some a
  target_eq : ∃ goal target, a.target = .direct goal ∧ s.entity? goal = some target

/-- What breaks a path after some hops with columns breaks the whole path. -/
theorem Follows.breaks_append {s : Snapshot} {source pivot : String} {owner final : Entity}
    {path rest : List String} {hops : List Hop} {e : MetricError}
    (h : Follows s owner path hops final) (hcs : ∀ x ∈ hops, x.1.arrivalColumns ≠ [])
    (hbreaks : Breaks s source pivot final rest e) :
    Breaks s source pivot owner (path ++ rest) e := by
  induction h with
  | stay owner => exact hbreaks
  | hop ha hd ht _ ih =>
    obtain ⟨hc, hrest⟩ := List.forall_mem_cons.mp hcs
    exact .later ha hd ht hc (ih hrest hbreaks)

/-- An association without columns for the table of its target is reported. -/
theorem ComesTo.compile_eq {s : Snapshot} {i : MetricInstruction} {entity pivot owner : Entity}
    {a : Association} (h : ComesTo s i entity pivot owner a) (hc : a.arrivalColumns = []) :
    (Planner.ofSnapshot s).compile i =
      .error (.noJoinPath entity.name pivot.name (.noColumns owner.name a.name)) := by
  obtain ⟨name, hname, hp⟩ := h.pivot_eq
  obtain ⟨before, after, hops, hleads, hF, hcs⟩ := h.follows
  obtain ⟨goal, target, hd, ht⟩ := h.target_eq
  have hbroken : Breaks s entity.name pivot.name owner (a.name :: after)
      (.noJoinPath entity.name pivot.name (.noColumns owner.name a.name)) :=
    .unjoined h.joinable_eq hd ht hc
  exact Planner.compile_eq_error.mpr (.grouping h.entity_eq hname hp
    (.broken h.keyed hleads (hF.breaks_append hcs hbroken)))

/-- Which joins of compiled queries have conditions. The joins without any are, one after the other,
those of the tables in between on the way to the pivot for which no columns of the owner are
declared; so every join has a condition exactly if there is no such table on the way. An association
without columns for the table of its target is not compiled at all. -/
theorem loose_joins (s : Snapshot) (i : MetricInstruction) :
    (∀ q, (Planner.ofSnapshot s).compile i = .ok q → ∃ c, LeadsTo (Planner.ofSnapshot s) i c ∧
      (q.joins.filter (·.pairs.isEmpty)).map (·.tableName) =
        c.hops.filterMap (·.1.looseTable?) ∧
      ((∀ j ∈ q.joins, j.pairs ≠ []) ↔ ∀ x ∈ c.hops, x.1.looseTable? = none)) ∧
    ∀ entity pivot owner a, ComesTo s i entity pivot owner a → a.arrivalColumns = [] →
      (Planner.ofSnapshot s).compile i =
        .error (.noJoinPath entity.name pivot.name (.noColumns owner.name a.name)) := by
  refine ⟨fun q hq => ?_, fun entity pivot owner a hcomes hc => hcomes.compile_eq hc⟩
  obtain ⟨c, hleads, hadmitted, rfl⟩ := query_of_compile hq
  have hloose : (c.query.joins.filter (·.pairs.isEmpty)).map (·.tableName) =
      c.hops.filterMap (·.1.looseTable?) := by
    rw [c.joins_query, loose_stepsFrom, loose_legsOf hadmitted.columns]
  refine ⟨c, hleads, hloose, ?_⟩
  calc (∀ j ∈ c.query.joins, j.pairs ≠ [])
      ↔ (c.query.joins.filter (·.pairs.isEmpty)).map (·.tableName) = [] := by
        rw [List.map_eq_nil_iff, List.filter_eq_nil_iff]
        simp
    _ ↔ ∀ x ∈ c.hops, x.1.looseTable? = none := by
        rw [hloose, List.filterMap_eq_nil_iff]

/-! ## Articles by their tags -/

/-- Articles and their tags, with a table in between that is joined to articles on the given
columns. -/
def taggedSnapshot (columns : List (String × String)) : Snapshot :=
  { entities :=
      [⟨"Article", "articles", some "id", [], true⟩, ⟨"Tag", "tags", some "id", [], true⟩]
    associations :=
      [("Article", [⟨"tags", .hasManyThrough, .direct "Tag", [], [],
          some ⟨"article_tags", columns, [("tag_id", "id")]⟩⟩]),
       ("Tag", [])]
    schemaVersion := none }

/-- The articles of every tag. -/
def articlesByTag (pairs : List ColumnPair) : GroupedQuery :=
  { entity := "Article", tableName := "articles", pivot := "Tag", pivotAlias := "t2"
    groupBy := "id", joinPath := ["tags"]
    joins := [⟨"tags", "article_tags", "t1", pairs⟩,
      ⟨"tags", "tags", "t2", [⟨"t1", "tag_id", "id"⟩]⟩] }

/-- The instruction to count them. -/
def countByTag : MetricInstruction := ⟨.int 1, "Article", some "Tag", some ["tags"], none⟩

theorem loose_joins_tags : ∃ c,
    LeadsTo (Planner.ofSnapshot (taggedSnapshot [("id", "article_id")])) countByTag c ∧
      ∀ x ∈ c.hops, x.1.looseTable? = none := by
  have hq : (Planner.ofSnapshot (taggedSnapshot [("id", "article_id")])).compile countByTag =
      .ok (.grouped (articlesByTag [⟨"t0", "id", "article_id"⟩])) := by
    decide +kernel
  obtain ⟨hok, _⟩ := loose_joins (taggedSnapshot [("id", "article_id")]) countByTag
  obtain ⟨c, hleads, _, hconditions⟩ := hok _ hq
  exact ⟨c, hleads, hconditions.mp (by decide +kernel)⟩

/-- A declaration may leave the columns between articles and the table in between empty; the table
is then joined to every article. -/
theorem tags_unconstrained :
    Declaration.read (taggedSnapshot []).declare = .ok (taggedSnapshot []) ∧
      (Planner.ofSnapshot (taggedSnapshot [])).compile countByTag =
        .ok (.grouped (articlesByTag [])) ∧
      ∃ j ∈ (articlesByTag []).joins, j.pairs = [] := by
  refine ⟨by rfl, by decide +kernel, ?_⟩
  exact ⟨⟨"tags", "article_tags", "t1", []⟩, List.mem_cons_self, rfl⟩

end EntityAtlas
