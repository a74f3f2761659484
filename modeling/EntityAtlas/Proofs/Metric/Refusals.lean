import EntityAtlas.Proofs.Except
import EntityAtlas.Proofs.Graph.Existing
import EntityAtlas.Proofs.Metric.Expansion

/-!
# Which instructions are compiled

An instruction is compiled exactly if it names known entities, its pivot can be grouped on, and a
join path leads to the pivot over associations with columns. Every other instruction is refused, and
with one condition only: the first that applies, where the entities come first, then the key of the
pivot, the path, its associations one after the other, its end, and the attribute last.
-/

namespace EntityAtlas

/-! ## What is asked of an instruction -/

/-- The path from the counted entity to the pivot: the one that is given, or one that is resolved
among the entities whose tables exist. -/
inductive LeadsBy (s : Snapshot) (i : MetricInstruction) (entity pivot : Entity) :
    List String → Prop where
  | given {path : List String} (h : i.joinPath = some path) : LeadsBy s i entity pivot path
  | found {path : List String} (hnone : i.joinPath = none) (hentity : entity.present = true)
      (hpivot : pivot.present = true)
      (h : Route.resolve (EntityGraph.ofExisting s) entity.name pivot.name = .ok path) :
      LeadsBy s i entity pivot path

/-- The path of an instruction is followed to an entity, over associations with columns on which the
tables of their targets are joined. -/
def Reaches (s : Snapshot) (i : MetricInstruction) (entity pivot final : Entity) : Prop :=
  ∃ path hops, LeadsBy s i entity pivot path ∧ Follows s entity path hops final ∧
    ∀ x ∈ hops, x.1.arrivalColumns ≠ []

/-- A pivot has a key that is not named like the counts. -/
def Keyed (pivot : Entity) : Prop := ∃ key, pivot.primaryKey = some key ∧ key ≠ countLabel

/-- The pivot has a key and is reached, and has the attribute that is asked for, if any, under
another name than the counts. -/
structure Groupable (s : Snapshot) (i : MetricInstruction) (entity pivot : Entity) : Prop where
  keyed : Keyed pivot
  reaches : Reaches s i entity pivot pivot
  reported : ∀ name, i.pivotAttribute = some name →
    name ∈ pivot.attributeNames ∧ name ≠ countLabel

/-- The kind of query that an instruction asks for. -/
def MetricInstruction.kind (i : MetricInstruction) : String :=
  match i.pivot, i.pivotAttribute with
  | none, _ => "count"
  | some _, none => "grouped_count"
  | some _, some _ => "zero_filled_grouped_count"

/-- The entity is known and, if there is a pivot, it is known as well and can be grouped on. -/
def Compilable (s : Snapshot) (i : MetricInstruction) : Prop :=
  ∃ entity, s.entity? i.entity = some entity ∧ ∀ name, i.pivot = some name →
    ∃ pivot, s.entity? name = some pivot ∧ Groupable s i entity pivot

/-! ## The conditions with which instructions are refused -/

/-- The first association at which a path cannot be followed: it is not there, its target is not
listed, or it has no columns on which the table of its target is joined. -/
inductive Breaks (s : Snapshot) (source pivot : String) :
    Entity → List String → MetricError → Prop where
  | unnamed {owner : Entity} {name : String} {path : List String}
      (ha : s.joinable? owner.name name = none) :
      Breaks s source pivot owner (name :: path) (.unknownAssociation owner.name name)
  | unlisted {owner : Entity} {a : Association} {name goal : String} {path : List String}
      (ha : s.joinable? owner.name name = some a) (hd : a.target = .direct goal)
      (ht : s.entity? goal = none) :
      Breaks s source pivot owner (name :: path) (.unknownEntity goal)
  | unjoined {owner target : Entity} {a : Association} {name goal : String} {path : List String}
      (ha : s.joinable? owner.name name = some a) (hd : a.target = .direct goal)
      (ht : s.entity? goal = some target) (hc : a.arrivalColumns = []) :
      Breaks s source pivot owner (name :: path)
        (.noJoinPath source pivot (.noColumns owner.name name))
  | later {owner target : Entity} {a : Association} {name goal : String} {path : List String}
      {e : MetricError} (ha : s.joinable? owner.name name = some a) (hd : a.target = .direct goal)
      (ht : s.entity? goal = some target) (hc : a.arrivalColumns ≠ [])
      (rest : Breaks s source pivot target path e) : Breaks s source pivot owner (name :: path) e

/-- At an association that leads on, a path breaks over missing columns, or else where the rest of
it does. -/
theorem breaks_cons_iff {s : Snapshot} {source pivot : String} {owner target : Entity}
    {a : Association} {name goal : String} {path : List String} {e : MetricError}
    (ha : s.joinable? owner.name name = some a) (hd : a.target = .direct goal)
    (ht : s.entity? goal = some target) :
    Breaks s source pivot owner (name :: path) e ↔
      if a.arrivalColumns = [] then e = .noJoinPath source pivot (.noColumns owner.name name)
      else Breaks s source pivot target path e := by
  constructor
  · intro h
    cases h with
    | unnamed hnone => exact absurd (hnone.symm.trans ha) (fun h => nomatch h)
    | unlisted ha' hd' hnone =>
      obtain rfl := Option.some.inj (ha.symm.trans ha')
      obtain rfl := Target.direct.inj (hd.symm.trans hd')
      exact absurd (hnone.symm.trans ht) (fun h => nomatch h)
    | unjoined ha' _ _ hc =>
      obtain rfl := Option.some.inj (ha.symm.trans ha')
      rw [if_pos hc]
    | later ha' hd' ht' hc rest =>
      obtain rfl := Option.some.inj (ha.symm.trans ha')
      obtain rfl := Target.direct.inj (hd.symm.trans hd')
      obtain rfl := Option.some.inj (ht.symm.trans ht')
      rw [if_neg hc]
      exact rest
  · intro h
    by_cases hc : a.arrivalColumns = []
    · rw [if_pos hc] at h
      rw [h]
      exact .unjoined ha hd ht hc
    · rw [if_neg hc] at h
      exact .later ha hd ht hc h

/-- A path that leads on breaks only at its first hop without columns. -/
theorem Follows.breaks_iff {s : Snapshot} {source pivot : String} {owner final : Entity}
    {path : List String} {hops : List Hop} {e : MetricError} (h : Follows s owner path hops final) :
    Breaks s source pivot owner path e ↔
      ∃ x, ((owner.name :: hops.map (·.2.name)).zip (hops.map (·.1))).find?
          (·.2.arrivalColumns.isEmpty) = some x ∧
        e = .noJoinPath source pivot (.noColumns x.1 x.2.name) := by
  induction h with
  | stay owner =>
    refine ⟨fun h => (nomatch h), ?_⟩
    rintro ⟨x, hx, _⟩
    cases hx
  | @hop owner target final a name goal path hops ha hd ht _ ih =>
    obtain ⟨_, hname, _⟩ := Snapshot.joinable?_spec ha
    rw [breaks_cons_iff ha hd ht]
    simp only [List.map_cons, List.zip_cons_cons, List.find?_cons]
    by_cases hc : a.arrivalColumns = []
    · simp only [hc, List.isEmpty_nil, Option.some.injEq, if_true]
      constructor
      · rintro rfl
        exact ⟨_, rfl, by rw [hname]⟩
      · rintro ⟨x, rfl, rfl⟩
        rw [hname]
    · have hsome : a.arrivalColumns.isEmpty = false := by simpa using hc
      simp only [hsome, if_neg hc]
      exact ih

/-- A pivot without a usable key. -/
inductive Unkeyed (pivot : Entity) : PivotFault → Prop where
  | absent (h : pivot.primaryKey = none) : Unkeyed pivot (.noKey pivot.name)
  | count (h : pivot.primaryKey = some countLabel) :
      Unkeyed pivot (.keyIsCount pivot.name countLabel)

/-- No path is found: the table of the entity does not exist, or else that of the pivot, or else no
references lead from the one to the other. -/
inductive Pathless (s : Snapshot) (entity pivot : Entity) : JoinFault → Prop where
  | entityTable (h : entity.present = false) :
      Pathless s entity pivot (.missingTable entity.tableName)
  | pivotTable (hentity : entity.present = true) (h : pivot.present = false) :
      Pathless s entity pivot (.missingTable pivot.tableName)
  | unreachable (hentity : entity.present = true) (hpivot : pivot.present = true)
      (h : ¬ ∃ names, Route.Hops (EntityGraph.ofExisting s) entity.name names pivot.name) :
      Pathless s entity pivot .unreachable

/-- A pivot that does not have the attribute, or has it under the name of the counts. -/
inductive Unreported (pivot : Entity) (name : String) : PivotFault → Prop where
  | missing (h : name ∉ pivot.attributeNames) : Unreported pivot name (.noAttribute pivot.name name)
  | count (hmem : name ∈ pivot.attributeNames) (h : name = countLabel) :
      Unreported pivot name (.attributeIsCount name)

/-- What is wrong with grouping an entity by a pivot, each condition where those before it do not
arise. -/
inductive Ungrouped (s : Snapshot) (i : MetricInstruction) (entity pivot : Entity) :
    MetricError → Prop where
  | unkeyed {fault : PivotFault} (h : Unkeyed pivot fault) :
      Ungrouped s i entity pivot (.invalidPivot fault)
  | pathless {fault : JoinFault} (hkey : Keyed pivot) (hnone : i.joinPath = none)
      (h : Pathless s entity pivot fault) :
      Ungrouped s i entity pivot (.noJoinPath entity.name pivot.name fault)
  | broken {path : List String} {e : MetricError} (hkey : Keyed pivot)
      (hpath : LeadsBy s i entity pivot path)
      (h : Breaks s entity.name pivot.name entity path e) : Ungrouped s i entity pivot e
  | astray {final : Entity} (hkey : Keyed pivot) (hreach : Reaches s i entity pivot final)
      (hend : final.name ≠ pivot.name) :
      Ungrouped s i entity pivot (.noJoinPath entity.name pivot.name (.endsAt final.name))
  | unreported {name : String} {fault : PivotFault} (hkey : Keyed pivot)
      (hreach : Reaches s i entity pivot pivot) (hattr : i.pivotAttribute = some name)
      (h : Unreported pivot name fault) : Ungrouped s i entity pivot (.invalidPivot fault)

/-- The condition with which an instruction is refused: an unknown entity, or else an unknown pivot,
or else what is wrong with grouping the one by the other. -/
inductive Refused (s : Snapshot) (i : MetricInstruction) : MetricError → Prop where
  | entity (h : s.entity? i.entity = none) : Refused s i (.unknownEntity i.entity)
  | pivot {entity : Entity} {name : String} (he : s.entity? i.entity = some entity)
      (hname : i.pivot = some name) (h : s.entity? name = none) : Refused s i (.unknownEntity name)
  | grouping {entity pivot : Entity} {name : String} {e : MetricError}
      (he : s.entity? i.entity = some entity) (hname : i.pivot = some name)
      (hp : s.entity? name = some pivot) (h : Ungrouped s i entity pivot e) : Refused s i e

/-! ## Looking for a path -/

theorem Route.resolve_eq_error {entities : List Entity} {associations : Table (List Association)}
    {source target : String} {e : MetricError}
    (hs : (EntityGraph.build entities associations).has source = true)
    (ht : (EntityGraph.build entities associations).has target = true) :
    resolve (EntityGraph.build entities associations) source target = .error e ↔
      e = .noJoinPath source target .unreachable ∧
        ¬ ∃ names, Hops (EntityGraph.build entities associations) source names target := by
  by_cases hex : ∃ names, Hops (EntityGraph.build entities associations) source names target
  · obtain ⟨names, hnames⟩ := hex
    obtain ⟨shortest, hok, _⟩ := resolve_of_hops hs ht hnames
    rw [hok]
    exact ⟨fun h => (nomatch h), fun h => absurd ⟨names, hnames⟩ h.2⟩
  · have hne : source ≠ target := fun heq => hex ⟨[], heq ▸ .refl source⟩
    rw [resolve_of_not_hops hs ht hne hex]
    constructor
    · intro h
      exact ⟨(Except.error.inj h).symm, hex⟩
    · rintro ⟨rfl, _⟩
      rfl

namespace Planner

variable {s : Snapshot} {i : MetricInstruction} {entity pivot : Entity}

theorem joinPath_eq_ok {path : List String} :
    (ofSnapshot s).joinPath i entity pivot = .ok path ↔ LeadsBy s i entity pivot path := by
  cases hgiven : i.joinPath with
  | some given =>
    have hsame : (ofSnapshot s).joinPath i entity pivot = .ok given := by rw [joinPath, hgiven]
    rw [hsame]
    constructor
    · intro h
      exact .given (hgiven.trans (congrArg some (Except.ok.inj h)))
    · rintro (h | ⟨hnone, _⟩)
      · rw [Option.some.inj (hgiven.symm.trans h)]
      · rw [hgiven] at hnone
        cases hnone
  | none =>
    constructor
    · intro h
      obtain ⟨hentity, hpivot⟩ := present_of_joinPath hgiven h
      rw [joinPath_searched hgiven hentity hpivot] at h
      exact .found hgiven hentity hpivot h
    · rintro (h | ⟨_, hentity, hpivot, h⟩)
      · rw [hgiven] at h
        cases h
      · rw [joinPath_searched hgiven hentity hpivot]
        exact h

/-- Without a path given, an entity without a table is reported, and a pivot without one after
it. -/
theorem joinPath_of_absent (p : Planner) (entity pivot : Entity) (hnone : i.joinPath = none) :
    (entity.present = false → p.joinPath i entity pivot =
      .error (.noJoinPath entity.name pivot.name (.missingTable entity.tableName))) ∧
    (entity.present = true → pivot.present = false → p.joinPath i entity pivot =
      .error (.noJoinPath entity.name pivot.name (.missingTable pivot.tableName))) := by
  constructor
  · intro hentity
    simp only [joinPath, hnone, findPath, List.find?, hentity, Bool.not_false]
  · intro hentity hpivot
    simp only [joinPath, hnone, findPath, List.find?, hentity, hpivot, Bool.not_true,
      Bool.not_false]

theorem joinPath_eq_error {e : MetricError} (he : s.entity? entity.name = some entity)
    (hp : s.entity? pivot.name = some pivot) :
    (ofSnapshot s).joinPath i entity pivot = .error e ↔ i.joinPath = none ∧
      ∃ fault, e = .noJoinPath entity.name pivot.name fault ∧ Pathless s entity pivot fault := by
  cases hgiven : i.joinPath with
  | some given =>
    have hok : (ofSnapshot s).joinPath i entity pivot = .ok given := by rw [joinPath, hgiven]
    rw [hok]
    constructor
    · intro h
      cases h
    · rintro ⟨h, _⟩
      cases h
  | none =>
    obtain ⟨hnoEntity, hnoPivot⟩ := joinPath_of_absent (ofSnapshot s) entity pivot hgiven
    have hresolve : entity.present = true → pivot.present = true →
        ((ofSnapshot s).joinPath i entity pivot = .error e ↔
          e = .noJoinPath entity.name pivot.name .unreachable ∧
            ¬ ∃ names, Route.Hops (EntityGraph.ofExisting s) entity.name names pivot.name) := by
      intro hentity hpivot
      have hs : (EntityGraph.ofExisting s).has entity.name = true :=
        Snapshot.has_ofExisting.mpr ⟨entity, List.mem_of_find?_eq_some he, hentity, rfl⟩
      have ht : (EntityGraph.ofExisting s).has pivot.name = true :=
        Snapshot.has_ofExisting.mpr ⟨pivot, List.mem_of_find?_eq_some hp, hpivot, rfl⟩
      rw [joinPath_searched hgiven hentity hpivot]
      exact Route.resolve_eq_error hs ht
    constructor
    · intro h
      refine ⟨rfl, ?_⟩
      cases hentity : entity.present with
      | false =>
        rw [hnoEntity hentity] at h
        exact ⟨_, (Except.error.inj h).symm, .entityTable hentity⟩
      | true =>
        cases hpivot : pivot.present with
        | false =>
          rw [hnoPivot hentity hpivot] at h
          exact ⟨_, (Except.error.inj h).symm, .pivotTable hentity hpivot⟩
        | true =>
          obtain ⟨rfl, hno⟩ := (hresolve hentity hpivot).mp h
          exact ⟨_, rfl, .unreachable hentity hpivot hno⟩
    · rintro ⟨_, fault, rfl, hentity | ⟨hentity, hpivot⟩ | ⟨hentity, hpivot, hno⟩⟩
      · exact hnoEntity hentity
      · exact hnoPivot hentity hpivot
      · exact (hresolve hentity hpivot).mpr ⟨rfl, hno⟩

/-! ## Following a path -/

theorem entity_eq_error {p : Planner} {name : String} {e : MetricError} :
    p.entity name = .error e ↔ p.snapshot.entity? name = none ∧ e = .unknownEntity name := by
  unfold entity
  cases p.snapshot.entity? name <;> simp [eq_comm]

theorem association_eq_error {p : Planner} {owner : Entity} {name : String} {e : MetricError} :
    p.association owner name = .error e ↔
      p.snapshot.joinable? owner.name name = none ∧ e = .unknownAssociation owner.name name := by
  unfold association Snapshot.joinable?
  cases (p.snapshot.associationsOf owner.name).find? fun a => a.name = name && !a.isPolymorphic <;>
    simp [eq_comm]

section Walk

variable {p : Planner} {source goal : String}

/-- What stops a single hop stops it at its own association. -/
theorem breaks_of_hop {owner : Entity} {position : Nat} {name : String} {path : List String}
    {e : MetricError} (h : p.hop source goal owner position name = .error e) :
    Breaks p.snapshot source goal owner (name :: path) e := by
  unfold hop at h
  rcases Except.bind_eq_error.mp h with h | ⟨a, ha, h⟩
  · obtain ⟨hnone, rfl⟩ := association_eq_error.mp h
    exact .unnamed hnone
  · have hjoin := association_eq_ok.mp ha
    obtain ⟨_, _, aim, hd⟩ := Snapshot.joinable?_spec hjoin
    rw [Association.targetEntity?_of_direct hd, Option.getD_some] at h
    rcases Except.bind_eq_error.mp h with h | ⟨target, ht, h⟩
    · obtain ⟨hnone, rfl⟩ := entity_eq_error.mp h
      exact .unlisted hjoin hd hnone
    · simp only [hopSteps_eq] at h
      by_cases hc : a.arrivalColumns = []
      · rw [if_pos hc] at h
        rw [← Except.error.inj h]
        exact .unjoined hjoin hd (entity_eq_ok.mp ht) hc
      · rw [if_neg hc] at h
        cases h

/-- A path fails where it breaks, and with that condition. -/
theorem walk_eq_error {path : List String} {e : MetricError} : ∀ {owner : Entity} {position : Nat},
    p.walk source goal owner position path = .error e ↔
      Breaks p.snapshot source goal owner path e := by
  induction path with
  | nil =>
    intro owner position
    exact ⟨fun h => (nomatch h), fun h => (nomatch h)⟩
  | cons name path ih =>
    intro owner position
    rw [walk, Except.bind_eq_error]
    constructor
    · rintro (h | ⟨⟨target, steps⟩, hhop, h⟩)
      · exact breaks_of_hop h
      · obtain ⟨a, aim, ha, hd, ht, hc, _⟩ := hop_ok hhop
        rcases Except.bind_eq_error.mp h with h | ⟨_, _, h⟩
        · exact .later ha hd ht hc (ih.mp h)
        · cases h
    · intro h
      cases h with
      | unnamed ha =>
        refine Or.inl ?_
        rw [hop, association_eq_error.mpr ⟨ha, rfl⟩]
        rfl
      | @unlisted _ a _ aim _ ha hd ht =>
        refine Or.inl ?_
        have htarget := entity_eq_error.mpr ⟨ht, rfl⟩
        simp only [hop, association_eq_ok.mpr ha, Association.targetEntity?_of_direct hd,
          Option.getD_some, htarget, bind, Except.bind]
      | unjoined ha hd ht hc =>
        refine Or.inl ?_
        rw [hop_of_joinable source goal ha hd ht, if_pos hc]
      | later ha hd ht hc rest =>
        have hhop := hop_of_joinable source goal ha hd ht position
        rw [if_neg hc] at hhop
        exact Or.inr ⟨_, hhop, Except.bind_eq_error.mpr (Or.inl (ih.mpr rest))⟩

/-- An expansion fails where its path breaks, or at an end that is not the pivot. -/
theorem expand_eq_error {entity pivot : Entity} {path : List String} {e : MetricError} :
    p.expand entity pivot path = .error e ↔
      Breaks p.snapshot entity.name pivot.name entity path e ∨
        ∃ hops final, Follows p.snapshot entity path hops final ∧
          (∀ x ∈ hops, x.1.arrivalColumns ≠ []) ∧ final.name ≠ pivot.name ∧
          e = .noJoinPath entity.name pivot.name (.endsAt final.name) := by
  rw [expand, Except.bind_eq_error, walk_eq_error]
  refine or_congr_right ⟨?_, ?_⟩
  · rintro ⟨⟨final, steps⟩, hwalk, h⟩
    obtain ⟨hops, hF, hcs, _⟩ := walk_ok hwalk
    by_cases hend : final.name = pivot.name
    · simp only [if_pos hend] at h
      cases h
    · simp only [if_neg hend] at h
      exact ⟨hops, final, hF, hcs, hend, (Except.error.inj h).symm⟩
  · rintro ⟨hops, final, hF, hcs, hend, rfl⟩
    have hwalk := walk_of_follows entity.name pivot.name hF hcs 0
    exact ⟨_, hwalk, by simp only [if_neg hend]⟩

end Walk

/-! ## The key and the attribute of the pivot -/

theorem groupingKey_eq_error {e : MetricError} :
    groupingKey pivot = .error e ↔ ∃ fault, e = .invalidPivot fault ∧ Unkeyed pivot fault := by
  unfold groupingKey
  constructor
  · intro h
    cases hkey : pivot.primaryKey with
    | none =>
      rw [hkey] at h
      exact ⟨_, (Except.error.inj h).symm, .absent hkey⟩
    | some key =>
      simp only [hkey] at h
      by_cases hc : key = countLabel
      · rw [if_pos hc, hc] at h
        exact ⟨_, (Except.error.inj h).symm, .count (hc ▸ hkey)⟩
      · rw [if_neg hc] at h
        cases h
  · rintro ⟨fault, rfl, hkey | hkey⟩
    · simp only [hkey]
    · simp only [hkey, if_true]

theorem reportedAttribute_eq_error {name : String} {e : MetricError} :
    reportedAttribute pivot name = .error e ↔
      ∃ fault, e = .invalidPivot fault ∧ Unreported pivot name fault := by
  unfold reportedAttribute
  by_cases hmem : name ∈ pivot.attributeNames
  · have hcontains : (!pivot.attributeNames.contains name) = false := by simpa using hmem
    rw [hcontains, if_neg (by decide)]
    by_cases hc : name = countLabel
    · rw [if_pos hc]
      constructor
      · intro h
        exact ⟨_, (Except.error.inj h).symm, .count hmem hc⟩
      · rintro ⟨fault, rfl, hno | _⟩
        · exact absurd hmem hno
        · rfl
    · rw [if_neg hc]
      refine ⟨fun h => (nomatch h), ?_⟩
      rintro ⟨fault, _, hno | ⟨_, hcount⟩⟩
      · exact absurd hmem hno
      · exact absurd hcount hc
  · have hcontains : (!pivot.attributeNames.contains name) = true := by simpa using hmem
    rw [hcontains, if_pos rfl]
    constructor
    · intro h
      exact ⟨_, (Except.error.inj h).symm, .missing hmem⟩
    · rintro ⟨fault, rfl, _ | ⟨hyes, _⟩⟩
      · rfl
      · exact absurd hyes hmem

/-! ## Instructions with a pivot -/

section Pivot

variable (he : s.entity? entity.name = some entity) (hp : s.entity? pivot.name = some pivot)

include he hp

/-- The pivot is reached exactly if there is a path and it is expanded. -/
theorem reaches_iff : Reaches s i entity pivot pivot ↔ ∃ path joins,
    (ofSnapshot s).joinPath i entity pivot = .ok path ∧
      (ofSnapshot s).expand entity pivot path = .ok joins := by
  constructor
  · rintro ⟨path, hops, hpath, hF, hcs⟩
    exact ⟨path, _, joinPath_eq_ok.mpr hpath, expand_of_follows hF hcs⟩
  · rintro ⟨path, ⟨joins, label⟩, hpath, hexpand⟩
    obtain ⟨hops, hF, hcs, _⟩ := expand_ok hexpand he hp
    exact ⟨path, hops, joinPath_eq_ok.mp hpath, hF, hcs⟩

theorem compilePivot_eq_error {e : MetricError} :
    (ofSnapshot s).compilePivot i entity pivot = .error e ↔ Ungrouped s i entity pivot e := by
  unfold compilePivot
  constructor
  · intro h
    rcases Except.bind_eq_error.mp h with h | ⟨key, hkey, h⟩
    · obtain ⟨fault, rfl, hfault⟩ := groupingKey_eq_error.mp h
      exact .unkeyed hfault
    have hkeyed : Keyed pivot := ⟨key, groupingKey_eq_ok.mp hkey⟩
    rcases Except.bind_eq_error.mp h with h | ⟨path, hpath, h⟩
    · obtain ⟨hnone, fault, rfl, hfault⟩ := (joinPath_eq_error he hp).mp h
      exact .pathless hkeyed hnone hfault
    have hleads := joinPath_eq_ok.mp hpath
    rcases Except.bind_eq_error.mp h with h | ⟨joins, hexpand, h⟩
    · rcases expand_eq_error.mp h with hbreaks | ⟨hops, final, hF, hcs, hend, rfl⟩
      · exact .broken hkeyed hleads hbreaks
      · exact .astray hkeyed ⟨path, hops, hleads, hF, hcs⟩ hend
    have hreach := (reaches_iff he hp).mpr ⟨path, joins, hpath, hexpand⟩
    cases hattr : i.pivotAttribute with
    | none =>
      simp only [hattr] at h
      cases h
    | some name =>
      simp only [hattr] at h
      rcases Except.bind_eq_error.mp h with h | ⟨_, _, h⟩
      · obtain ⟨fault, rfl, hfault⟩ := reportedAttribute_eq_error.mp h
        exact .unreported hkeyed hreach hattr hfault
      · cases h
  · intro h
    have hgroup : Keyed pivot → ∃ key, groupingKey pivot = .ok key := fun ⟨key, hkey⟩ =>
      ⟨key, groupingKey_eq_ok.mpr hkey⟩
    cases h with
    | unkeyed hfault =>
      exact Except.bind_eq_error.mpr (.inl (groupingKey_eq_error.mpr ⟨_, rfl, hfault⟩))
    | pathless hkeyed hnone hfault =>
      obtain ⟨key, hkey⟩ := hgroup hkeyed
      refine Except.bind_eq_error.mpr (.inr ⟨key, hkey, ?_⟩)
      exact Except.bind_eq_error.mpr (.inl ((joinPath_eq_error he hp).mpr ⟨hnone, _, rfl, hfault⟩))
    | broken hkeyed hpath hbreaks =>
      obtain ⟨key, hkey⟩ := hgroup hkeyed
      refine Except.bind_eq_error.mpr (.inr ⟨key, hkey, ?_⟩)
      refine Except.bind_eq_error.mpr (.inr ⟨_, joinPath_eq_ok.mpr hpath, ?_⟩)
      exact Except.bind_eq_error.mpr (.inl (expand_eq_error.mpr (.inl hbreaks)))
    | astray hkeyed hreach hend =>
      obtain ⟨key, hkey⟩ := hgroup hkeyed
      obtain ⟨path, hops, hpath, hF, hcs⟩ := hreach
      refine Except.bind_eq_error.mpr (.inr ⟨key, hkey, ?_⟩)
      refine Except.bind_eq_error.mpr (.inr ⟨path, joinPath_eq_ok.mpr hpath, ?_⟩)
      refine Except.bind_eq_error.mpr (.inl (expand_eq_error.mpr (.inr ?_)))
      exact ⟨hops, _, hF, hcs, hend, rfl⟩
    | unreported hkeyed hreach hattr hfault =>
      obtain ⟨key, hkey⟩ := hgroup hkeyed
      obtain ⟨path, joins, hpath, hexpand⟩ := (reaches_iff he hp).mp hreach
      refine Except.bind_eq_error.mpr (.inr ⟨key, hkey, ?_⟩)
      refine Except.bind_eq_error.mpr (.inr ⟨path, hpath, ?_⟩)
      refine Except.bind_eq_error.mpr (.inr ⟨joins, hexpand, ?_⟩)
      have hreported := reportedAttribute_eq_error.mpr ⟨_, rfl, hfault⟩
      simp only [hattr, hreported]
      rfl

theorem compilePivot_eq_ok :
    (∃ q, (ofSnapshot s).compilePivot i entity pivot = .ok q) ↔ Groupable s i entity pivot := by
  unfold compilePivot
  constructor
  · rintro ⟨q, h⟩
    obtain ⟨key, hkey, h⟩ := Except.bind_eq_ok.mp h
    obtain ⟨path, hpath, h⟩ := Except.bind_eq_ok.mp h
    obtain ⟨joins, hexpand, h⟩ := Except.bind_eq_ok.mp h
    refine ⟨⟨key, groupingKey_eq_ok.mp hkey⟩,
      (reaches_iff he hp).mpr ⟨path, joins, hpath, hexpand⟩, ?_⟩
    intro name hattr
    simp only [hattr] at h
    obtain ⟨reported, hreported, _⟩ := Except.bind_eq_ok.mp h
    exact (reportedAttribute_eq_ok.mp hreported).2
  · rintro ⟨⟨key, hkey⟩, hreach, hattribute⟩
    obtain ⟨path, joins, hpath, hexpand⟩ := (reaches_iff he hp).mp hreach
    simp only [groupingKey_eq_ok.mpr hkey, hpath, hexpand, bind, Except.bind]
    cases hattr : i.pivotAttribute with
    | none => exact ⟨_, rfl⟩
    | some name =>
      have hreported := reportedAttribute_eq_ok.mpr ⟨rfl, hattribute name hattr⟩
      simp only [hreported]
      exact ⟨_, rfl⟩

end Pivot

/-! ## All instructions -/

theorem compile_eq_error {e : MetricError} :
    (ofSnapshot s).compile i = .error e ↔ Refused s i e := by
  unfold compile
  constructor
  · intro h
    rcases Except.bind_eq_error.mp h with h | ⟨entity, he, h⟩
    · obtain ⟨hnone, rfl⟩ := entity_eq_error.mp h
      exact .entity hnone
    have hentity := entity_eq_ok.mp he
    cases hname : i.pivot with
    | none =>
      simp only [hname] at h
      cases h
    | some name =>
      simp only [hname] at h
      rcases Except.bind_eq_error.mp h with h | ⟨pivot, hp, h⟩
      · obtain ⟨hnone, rfl⟩ := entity_eq_error.mp h
        exact .pivot hentity hname hnone
      have hpivot := entity_eq_ok.mp hp
      exact .grouping hentity hname hpivot
        ((compilePivot_eq_error (Snapshot.entity?_self hentity)
          (Snapshot.entity?_self hpivot)).mp h)
  · intro h
    cases h with
    | entity hnone => exact Except.bind_eq_error.mpr (.inl (entity_eq_error.mpr ⟨hnone, rfl⟩))
    | pivot hentity hname hnone =>
      refine Except.bind_eq_error.mpr (.inr ⟨_, entity_eq_ok.mpr hentity, ?_⟩)
      simp only [hname]
      exact Except.bind_eq_error.mpr (.inl (entity_eq_error.mpr ⟨hnone, rfl⟩))
    | grouping hentity hname hpivot hfault =>
      refine Except.bind_eq_error.mpr (.inr ⟨_, entity_eq_ok.mpr hentity, ?_⟩)
      simp only [hname]
      refine Except.bind_eq_error.mpr (.inr ⟨_, entity_eq_ok.mpr hpivot, ?_⟩)
      exact (compilePivot_eq_error (Snapshot.entity?_self hentity)
        (Snapshot.entity?_self hpivot)).mpr hfault

theorem exists_compile_eq_ok : (∃ q, (ofSnapshot s).compile i = .ok q) ↔ Compilable s i := by
  unfold compile
  constructor
  · rintro ⟨q, h⟩
    obtain ⟨entity, he, h⟩ := Except.bind_eq_ok.mp h
    have hentity := entity_eq_ok.mp he
    refine ⟨entity, hentity, fun name hname => ?_⟩
    simp only [hname] at h
    obtain ⟨pivot, hp, h⟩ := Except.bind_eq_ok.mp h
    have hpivot := entity_eq_ok.mp hp
    exact ⟨pivot, hpivot, (compilePivot_eq_ok (Snapshot.entity?_self hentity)
      (Snapshot.entity?_self hpivot)).mp ⟨q, h⟩⟩
  · rintro ⟨entity, hentity, hgroupable⟩
    cases hname : i.pivot with
    | none => exact ⟨_, Except.bind_eq_ok.mpr ⟨entity, entity_eq_ok.mpr hentity, rfl⟩⟩
    | some name =>
      obtain ⟨pivot, hpivot, hgroup⟩ := hgroupable name hname
      obtain ⟨q, hq⟩ := (compilePivot_eq_ok (Snapshot.entity?_self hentity)
        (Snapshot.entity?_self hpivot)).mpr hgroup
      refine ⟨q, Except.bind_eq_ok.mpr ⟨entity, entity_eq_ok.mpr hentity, ?_⟩⟩
      exact Except.bind_eq_ok.mpr ⟨pivot, entity_eq_ok.mpr hpivot, hq⟩

/-- Where the path leads to the pivot, only the key or the attribute of the pivot can be at fault,
or the path breaks. -/
theorem fault_or_breaks {name : String} {path : List String} {hops : List Hop} {e : MetricError}
    (he : s.entity? i.entity = some entity) (hname : i.pivot = some name)
    (hp : s.entity? name = some pivot) (hleads : LeadsBy s i entity pivot path)
    (hF : Follows s entity path hops pivot) (h : (ofSnapshot s).compile i = .error e) :
    (∃ fault, e = .invalidPivot fault) ∨ Breaks s entity.name pivot.name entity path e := by
  have hpath := joinPath_eq_ok.mpr hleads
  have hsame : ∀ {path'}, LeadsBy s i entity pivot path' → path = path' := fun hleads' =>
    Except.ok.inj (hpath.symm.trans (joinPath_eq_ok.mpr hleads'))
  cases compile_eq_error.mp h with
  | entity hnone => exact absurd (hnone.symm.trans he) (fun h => nomatch h)
  | pivot _ hname' hnone =>
    obtain rfl := Option.some.inj (hname.symm.trans hname')
    exact absurd (hnone.symm.trans hp) (fun h => nomatch h)
  | grouping he' hname' hp' hfault =>
    obtain rfl := Option.some.inj (he.symm.trans he')
    obtain rfl := Option.some.inj (hname.symm.trans hname')
    obtain rfl := Option.some.inj (hp.symm.trans hp')
    cases hfault with
    | unkeyed _ => exact .inl ⟨_, rfl⟩
    | pathless _ hnone hfault =>
      have herror := (joinPath_eq_error (Snapshot.entity?_self he) (Snapshot.entity?_self hp)).mpr
        ⟨hnone, _, rfl, hfault⟩
      rw [hpath] at herror
      cases herror
    | broken _ hleads' hbreaks =>
      rw [hsame hleads']
      exact .inr hbreaks
    | astray _ hreach hend =>
      obtain ⟨path', hops', hleads', hF', _⟩ := hreach
      obtain rfl := hsame hleads'
      obtain ⟨_, rfl⟩ := hF.unique hF'
      exact absurd rfl hend
    | unreported _ _ _ _ => exact .inl ⟨_, rfl⟩

/-- An instruction whose path leads to the pivot fails to compile only over the key or the attribute
of the pivot, or over an association of the path without columns. -/
theorem compile_error_of_follows {name : String} {path : List String} {hops : List Hop}
    {e : MetricError} (he : s.entity? i.entity = some entity) (hname : i.pivot = some name)
    (hp : s.entity? name = some pivot) (hpath : (ofSnapshot s).joinPath i entity pivot = .ok path)
    (hF : Follows s entity path hops pivot) (h : (ofSnapshot s).compile i = .error e) :
    (∃ fault, e = .invalidPivot fault) ∨ ∃ owner association,
      e = .noJoinPath entity.name pivot.name (.noColumns owner association) := by
  refine (fault_or_breaks he hname hp (joinPath_eq_ok.mp hpath) hF h).imp_right fun hbreaks => ?_
  obtain ⟨x, _, rfl⟩ := hF.breaks_iff.mp hbreaks
  exact ⟨_, _, rfl⟩

/-- A compiled query is of the kind that the instruction asks for. -/
theorem kind_of_compile {p : Planner} {q : Query} (h : p.compile i = .ok q) : q.kind = i.kind := by
  rcases compile_ok h with ⟨hnone, _, _, rfl⟩ |
    ⟨_, _, _, _, _, _, _, hplan, ⟨hattr, rfl⟩ | ⟨_, hattr, _, _, rfl⟩⟩
  · simp only [MetricInstruction.kind, hnone]
    rfl
  · obtain ⟨name, hname, _⟩ := hplan.pivot_eq
    simp only [MetricInstruction.kind, hname, hattr]
    rfl
  · obtain ⟨name, hname, _⟩ := hplan.pivot_eq
    simp only [MetricInstruction.kind, hname, hattr]
    rfl

end Planner

/-! ## The conditions that can occur -/

/-- Conditions under which an instruction is refused: an unknown entity, a pivot that cannot be
grouped on, an unknown association, or no join path. Two associations that nothing tells apart are
not among them. -/
inductive MetricError.Planning : MetricError → Prop where
  | unknownEntity (name : String) : Planning (.unknownEntity name)
  | invalidPivot (fault : PivotFault) : Planning (.invalidPivot fault)
  | unknownAssociation (owner name : String) : Planning (.unknownAssociation owner name)
  | noJoinPath (source pivot : String) (fault : JoinFault) :
    Planning (.noJoinPath source pivot fault)

theorem Breaks.planning {s : Snapshot} {source pivot : String} {owner : Entity}
    {path : List String} {e : MetricError} (h : Breaks s source pivot owner path e) :
    e.Planning := by
  induction h with
  | unnamed _ => exact .unknownAssociation _ _
  | unlisted _ _ _ => exact .unknownEntity _
  | unjoined _ _ _ _ => exact .noJoinPath _ _ _
  | later _ _ _ _ _ ih => exact ih

theorem Refused.planning {s : Snapshot} {i : MetricInstruction} {e : MetricError}
    (h : Refused s i e) : e.Planning := by
  cases h with
  | entity _ => exact .unknownEntity _
  | pivot _ _ _ => exact .unknownEntity _
  | grouping _ _ _ hfault =>
    cases hfault with
    | unkeyed _ => exact .invalidPivot _
    | pathless _ _ _ => exact .noJoinPath _ _ _
    | broken _ _ hbreaks => exact hbreaks.planning
    | astray _ _ _ => exact .noJoinPath _ _ _
    | unreported _ _ _ _ => exact .invalidPivot _

/-- Which instructions are compiled and what the others are refused with. An instruction compiles
exactly if it is compilable, and then to the kind of query that it asks for; every other one is
refused, with the first condition that applies and no other. -/
theorem compile_decides (s : Snapshot) (i : MetricInstruction) :
    ((∃ q, (Planner.ofSnapshot s).compile i = .ok q) ↔ Compilable s i) ∧
    (∀ q, (Planner.ofSnapshot s).compile i = .ok q → q.kind = i.kind) ∧
    (∀ e, (Planner.ofSnapshot s).compile i = .error e ↔ Refused s i e) ∧
    (∀ e, (Planner.ofSnapshot s).compile i = .error e → e.Planning) := by
  refine ⟨Planner.exists_compile_eq_ok, fun q => Planner.kind_of_compile, fun e =>
    Planner.compile_eq_error, fun e he => ?_⟩
  exact (Planner.compile_eq_error.mp he).planning

end EntityAtlas
