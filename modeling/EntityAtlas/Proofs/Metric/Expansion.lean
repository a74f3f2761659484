import EntityAtlas.Metric.Planner

/-!
# What a join path is expanded to

A path is followed from an entity by looking up one name after the other among the associations that
the entity reached so far declares. `Follows` is this relation on its own, without positions, steps
or errors. An expansion that succeeds is then the list of the legs of the hops followed, numbered in
their order, and a compiled query with a pivot is made of the expansion of its path; every other way
to fail is to find an association without columns.
-/

namespace EntityAtlas

/-- The first association of a name that an owner declares with a fixed target. -/
def Snapshot.joinable? (s : Snapshot) (owner name : String) : Option Association :=
  (s.associationsOf owner).find? fun a => a.name = name && !a.isPolymorphic

/-- One table that is joined on the way along an association. -/
structure Leg where
  /-- The association. -/
  association : String
  /-- The table. -/
  table : String
  /-- Pairs of a column of the table before and a column of this one. -/
  columns : List (String × String)

namespace Association

/-- The pairs of columns on which the table of the target is joined. -/
def arrivalColumns (a : Association) : List (String × String) :=
  match a.through with
  | some t => t.targetColumns
  | none => a.joinColumns

theorem targetEntity?_of_direct {a : Association} {goal : String} (h : a.target = .direct goal) :
    a.targetEntity? = some goal := by
  rw [targetEntity?, h]

/-- The tables joined along an association: the one in between if there is one, and that of the
target. -/
def legs (a : Association) (target : Entity) : List Leg :=
  match a.through with
  | some t => [⟨a.name, t.tableName, t.sourceColumns⟩, ⟨a.name, target.tableName, t.targetColumns⟩]
  | none => [⟨a.name, target.tableName, a.joinColumns⟩]

end Association

/-- A hop: an association with the entity that it leads to. -/
abbrev Hop := Association × Entity

/-- The tables joined along some hops. -/
def legsOf (hops : List Hop) : List Leg := hops.flatMap fun h => h.1.legs h.2

/-- The names of a path, looked up one after the other, lead along the given hops from an owner to a
final entity. -/
inductive Follows (s : Snapshot) : Entity → List String → List Hop → Entity → Prop where
  /-- Without a name there is no hop. -/
  | stay (e : Entity) : Follows s e [] [] e
  /-- The first name is that of an association of the owner; the rest leads on from its target. -/
  | hop {owner target final : Entity} {a : Association} {name goal : String} {path : List String}
      {hops : List Hop} (ha : s.joinable? owner.name name = some a) (hd : a.target = .direct goal)
      (ht : s.entity? goal = some target) (rest : Follows s target path hops final) :
      Follows s owner (name :: path) ((a, target) :: hops) final

namespace Snapshot

theorem name_of_entity? {s : Snapshot} {name : String} {e : Entity} (h : s.entity? name = some e) :
    e.name = name := by
  have := List.find?_some h
  simpa using this

/-- An entity that is found is found by its own name. -/
theorem entity?_self {s : Snapshot} {name : String} {e : Entity} (h : s.entity? name = some e) :
    s.entity? e.name = some e :=
  (name_of_entity? h).symm ▸ h

/-- A joinable association is one of its owner's, has that name and leads to a fixed target. -/
theorem joinable?_spec {s : Snapshot} {owner name : String} {a : Association}
    (h : s.joinable? owner name = some a) :
    a ∈ s.associationsOf owner ∧ a.name = name ∧ ∃ goal, a.target = .direct goal := by
  unfold Snapshot.joinable? at h
  have hname := List.find?_some h
  simp only [Bool.and_eq_true, decide_eq_true_eq, Bool.not_eq_true'] at hname
  refine ⟨List.mem_of_find?_eq_some h, hname.1, ?_⟩
  cases ht : a.target with
  | direct goal => exact ⟨goal, rfl⟩
  | polymorphic =>
    have hpoly := hname.2
    simp [Association.isPolymorphic, ht] at hpoly

end Snapshot

/-- Following a path ends at an entity of the snapshot. -/
theorem Follows.entity?_final {s : Snapshot} {owner final : Entity} {path : List String}
    {hops : List Hop} (h : Follows s owner path hops final)
    (ho : s.entity? owner.name = some owner) : s.entity? final.name = some final := by
  induction h with
  | stay e => exact ho
  | hop _ _ ht _ ih =>
    have hname := Snapshot.name_of_entity? ht
    exact ih (by rw [hname]; exact ht)

/-- A path leads along one list of hops only. -/
theorem Follows.unique {s : Snapshot} {owner final : Entity} {path : List String}
    {hops : List Hop} (h : Follows s owner path hops final) :
    ∀ {hops' : List Hop} {final' : Entity}, Follows s owner path hops' final' →
      hops = hops' ∧ final = final' := by
  induction h with
  | stay e =>
    intro hops' final' h'
    cases h'
    exact ⟨rfl, rfl⟩
  | hop ha hd ht _ ih =>
    intro hops' final' h'
    cases h' with
    | hop ha' hd' ht' rest' =>
      obtain rfl := Option.some.inj (ha.symm.trans ha')
      obtain rfl := Target.direct.inj (hd.symm.trans hd')
      obtain rfl := Option.some.inj (ht.symm.trans ht')
      obtain ⟨rfl, rfl⟩ := ih rest'
      exact ⟨rfl, rfl⟩

namespace Query

def tableName : Query → String
  | .count q => q.tableName
  | .grouped q => q.tableName
  | .zeroFilled q => q.tableName

def joinPath : Query → List String
  | .count _ => []
  | .grouped q => q.joinPath
  | .zeroFilled q => q.joinPath

def joins : Query → List JoinStep
  | .count _ => []
  | .grouped q => q.joins
  | .zeroFilled q => q.joins

/-- The name under which the table takes part whose keys are reported. -/
def pivotAlias : Query → String
  | .count _ => tableAlias 0
  | .grouped q => q.pivotAlias
  | .zeroFilled q => q.pivotAlias

end Query

namespace Planner

/-- The steps that join legs one after the other, after `position` other tables. -/
def stepsFrom : Nat → List Leg → List JoinStep
  | _, [] => []
  | position, l :: legs =>
    step l.association l.table position l.columns :: stepsFrom (position + 1) legs

theorem length_stepsFrom (position : Nat) (legs : List Leg) :
    (stepsFrom position legs).length = legs.length := by
  induction legs generalizing position with
  | nil => rfl
  | cons l legs ih => rw [stepsFrom, List.length_cons, List.length_cons, ih]

theorem stepsFrom_append (position : Nat) (legs more : List Leg) :
    stepsFrom position (legs ++ more) =
      stepsFrom position legs ++ stepsFrom (position + legs.length) more := by
  induction legs generalizing position with
  | nil => rfl
  | cons l legs ih =>
    rw [List.cons_append, stepsFrom, stepsFrom, ih, List.cons_append, List.length_cons,
      Nat.add_assoc, Nat.add_comm 1]

theorem hopSteps_eq (a : Association) (target : Entity) (position : Nat) :
    hopSteps a target position =
      if a.arrivalColumns = [] then none else some (stepsFrom position (a.legs target)) := by
  unfold hopSteps Association.arrivalColumns Association.legs
  cases a.through with
  | none => simp [stepsFrom]
  | some t => simp [stepsFrom]

theorem entity_eq_ok {p : Planner} {name : String} {e : Entity} :
    p.entity name = .ok e ↔ p.snapshot.entity? name = some e := by
  unfold entity
  cases p.snapshot.entity? name <;> simp

theorem association_eq_ok {p : Planner} {owner : Entity} {name : String} {a : Association} :
    p.association owner name = .ok a ↔ p.snapshot.joinable? owner.name name = some a := by
  unfold association Snapshot.joinable?
  cases (p.snapshot.associationsOf owner.name).find? fun a => a.name = name && !a.isPolymorphic <;>
    simp

section Walk

variable {p : Planner} {source pivot : String}

theorem hop_ok {owner target : Entity} {position : Nat} {name : String} {steps : List JoinStep}
    (h : p.hop source pivot owner position name = .ok (target, steps)) :
    ∃ a goal, p.snapshot.joinable? owner.name name = some a ∧ a.target = .direct goal ∧
      p.snapshot.entity? goal = some target ∧ a.arrivalColumns ≠ [] ∧
      steps = stepsFrom position (a.legs target) := by
  unfold hop at h
  cases ha : p.association owner name with
  | error e => rw [ha] at h; cases h
  | ok a =>
    have hjoin := association_eq_ok.mp ha
    obtain ⟨_, _, goal, hgoal⟩ := Snapshot.joinable?_spec hjoin
    have htarget := Association.targetEntity?_of_direct hgoal
    cases he : p.entity goal with
    | error e =>
      simp only [ha, htarget, Option.getD_some, he, bind, Except.bind] at h
      cases h
    | ok e =>
      simp only [ha, htarget, Option.getD_some, he, bind, Except.bind, hopSteps_eq] at h
      by_cases hc : a.arrivalColumns = []
      · rw [if_pos hc] at h
        cases h
      · rw [if_neg hc] at h
        obtain ⟨rfl, rfl⟩ := Prod.mk.inj (Except.ok.inj h)
        exact ⟨a, goal, hjoin, hgoal, entity_eq_ok.mp he, hc, rfl⟩

theorem hop_of_joinable (source pivot : String) {owner target : Entity} {a : Association}
    {name goal : String}
    (ha : p.snapshot.joinable? owner.name name = some a) (hd : a.target = .direct goal)
    (ht : p.snapshot.entity? goal = some target) (position : Nat) :
    p.hop source pivot owner position name =
      if a.arrivalColumns = [] then .error (.noJoinPath source pivot (.noColumns owner.name name))
      else .ok (target, stepsFrom position (a.legs target)) := by
  unfold hop
  simp only [association_eq_ok.mpr ha, Association.targetEntity?_of_direct hd, Option.getD_some,
    entity_eq_ok.mpr ht, bind, Except.bind, hopSteps_eq]
  by_cases hc : a.arrivalColumns = []
  · rw [if_pos hc, if_pos hc]
  · rw [if_neg hc, if_neg hc]
    rfl

/-- A walk that succeeds follows its path, and its steps are the legs of the hops. -/
theorem walk_ok {path : List String} : ∀ {owner final : Entity} {position : Nat}
    {steps : List JoinStep}, p.walk source pivot owner position path = .ok (final, steps) →
    ∃ hops, Follows p.snapshot owner path hops final ∧ (∀ h ∈ hops, h.1.arrivalColumns ≠ []) ∧
      steps = stepsFrom position (legsOf hops) := by
  induction path with
  | nil =>
    intro owner final position steps h
    obtain ⟨rfl, rfl⟩ := Prod.mk.inj (Except.ok.inj h)
    exact ⟨[], .stay owner, fun _ hm => absurd hm List.not_mem_nil, rfl⟩
  | cons name path ih =>
    intro owner final position steps h
    rw [walk] at h
    cases hhop : p.hop source pivot owner position name with
    | error e => rw [hhop] at h; cases h
    | ok r =>
      obtain ⟨target, first⟩ := r
      obtain ⟨a, goal, ha, hd, ht, hc, rfl⟩ := hop_ok hhop
      simp only [hhop, bind, Except.bind] at h
      cases hrest : p.walk source pivot target
          (position + (stepsFrom position (a.legs target)).length) path with
      | error e => rw [hrest] at h; cases h
      | ok r =>
        obtain ⟨last, more⟩ := r
        simp only [hrest] at h
        obtain ⟨rfl, rfl⟩ := Prod.mk.inj (Except.ok.inj h)
        obtain ⟨hops, hF, hcs, rfl⟩ := ih hrest
        refine ⟨(a, target) :: hops, .hop ha hd ht hF, ?_, ?_⟩
        · intro x hx
          rcases List.mem_cons.mp hx with rfl | hx
          · exact hc
          · exact hcs x hx
        · rw [length_stepsFrom, ← stepsFrom_append]
          rfl

/-- A path that can be followed over hops with columns is expanded to their legs. -/
theorem walk_of_follows (source pivot : String) {owner final : Entity} {path : List String}
    {hops : List Hop} (h : Follows p.snapshot owner path hops final)
    (hcs : ∀ x ∈ hops, x.1.arrivalColumns ≠ []) (position : Nat) :
    p.walk source pivot owner position path = .ok (final, stepsFrom position (legsOf hops)) := by
  induction h generalizing position with
  | stay e => rfl
  | @hop owner target final a name goal path hops ha hd ht _ ih =>
    obtain ⟨hc, hrest⟩ := List.forall_mem_cons.mp hcs
    have hhop := hop_of_joinable source pivot ha hd ht position
    rw [if_neg hc] at hhop
    simp only [walk, hhop, ih hrest, bind, Except.bind]
    rw [length_stepsFrom, ← stepsFrom_append]
    rfl

end Walk

/-- An expansion that succeeds follows its path to the pivot. -/
theorem expand_ok {p : Planner} {entity pivot : Entity} {path : List String}
    {joins : List JoinStep} {label : String} (h : p.expand entity pivot path = .ok (joins, label))
    (he : p.snapshot.entity? entity.name = some entity)
    (hp : p.snapshot.entity? pivot.name = some pivot) :
    ∃ hops, Follows p.snapshot entity path hops pivot ∧ (∀ x ∈ hops, x.1.arrivalColumns ≠ []) ∧
      joins = stepsFrom 0 (legsOf hops) ∧ label = tableAlias (legsOf hops).length := by
  unfold expand at h
  cases hw : p.walk entity.name pivot.name entity 0 path with
  | error e => rw [hw] at h; cases h
  | ok r =>
    obtain ⟨final, steps⟩ := r
    simp only [hw, bind, Except.bind] at h
    by_cases hend : final.name = pivot.name
    · rw [if_pos hend] at h
      obtain ⟨rfl, rfl⟩ := Prod.mk.inj (Except.ok.inj h)
      obtain ⟨hops, hF, hcs, rfl⟩ := walk_ok hw
      have hfinal := hF.entity?_final he
      rw [hend, hp] at hfinal
      obtain rfl : pivot = final := Option.some.inj hfinal
      exact ⟨hops, hF, hcs, rfl, by rw [length_stepsFrom]⟩
    · rw [if_neg hend] at h
      cases h

/-- A path that leads to the pivot over hops with columns is expanded to their legs. -/
theorem expand_of_follows {p : Planner} {entity pivot : Entity} {path : List String}
    {hops : List Hop} (hF : Follows p.snapshot entity path hops pivot)
    (hcs : ∀ x ∈ hops, x.1.arrivalColumns ≠ []) :
    p.expand entity pivot path =
      .ok (stepsFrom 0 (legsOf hops), tableAlias (legsOf hops).length) := by
  simp only [expand, walk_of_follows entity.name pivot.name hF hcs 0, bind, Except.bind, if_true,
    length_stepsFrom]
  rfl

/-- What the joins of an instruction with a pivot are made of: the entities it names, the key of the
pivot, which is not named like the counts, and the path, given or found, that leads from the one to
the other; the joins are the legs of its hops, and the table of the pivot is the last one. -/
structure Planned (p : Planner) (i : MetricInstruction) (entity pivot : Entity) (key : String)
    (path : List String) (hops : List Hop) (joins : List JoinStep) (label : String) : Prop where
  entity_eq : p.snapshot.entity? i.entity = some entity
  pivot_eq : ∃ name, i.pivot = some name ∧ p.snapshot.entity? name = some pivot
  key_eq : pivot.primaryKey = some key
  key_ne : key ≠ countLabel
  path_eq : p.joinPath i entity pivot = .ok path
  follows : Follows p.snapshot entity path hops pivot
  columns : ∀ x ∈ hops, x.1.arrivalColumns ≠ []
  joins_eq : joins = stepsFrom 0 (legsOf hops)
  label_eq : label = tableAlias (legsOf hops).length

/-- Without a path given, the path between two entities is looked for between their names, provided
that both tables exist. -/
theorem joinPath_searched {p : Planner} {i : MetricInstruction} {entity pivot : Entity}
    (hnone : i.joinPath = none) (he : entity.present = true) (hp : pivot.present = true) :
    p.joinPath i entity pivot = Route.resolve p.graph entity.name pivot.name := by
  have hfind : [entity, pivot].find? (!·.present) = none := by simp [he, hp]
  unfold joinPath
  rw [hnone]
  show p.findPath entity pivot = _
  unfold findPath
  rw [hfind]

/-- A path is found only between entities whose tables exist. -/
theorem present_of_joinPath {p : Planner} {i : MetricInstruction} {entity pivot : Entity}
    {path : List String} (hnone : i.joinPath = none)
    (hpath : p.joinPath i entity pivot = .ok path) :
    entity.present = true ∧ pivot.present = true := by
  unfold joinPath at hpath
  rw [hnone] at hpath
  change p.findPath entity pivot = .ok path at hpath
  unfold findPath at hpath
  cases hfind : [entity, pivot].find? (!·.present) with
  | some missing =>
    rw [hfind] at hpath
    cases hpath
  | none =>
    have hall := List.find?_eq_none.mp hfind
    exact ⟨by simpa using hall entity List.mem_cons_self,
      by simpa using hall pivot (List.mem_cons_of_mem _ List.mem_cons_self)⟩

theorem groupingKey_eq_ok {pivot : Entity} {key : String} :
    groupingKey pivot = .ok key ↔ pivot.primaryKey = some key ∧ key ≠ countLabel := by
  unfold groupingKey
  cases hk : pivot.primaryKey with
  | none => simp
  | some k =>
    by_cases hc : k = countLabel
    · simp only [if_pos hc]
      refine ⟨fun h => (nomatch h), ?_⟩
      rintro ⟨hkey, hne⟩
      exact absurd (Option.some.inj hkey ▸ hc) hne
    · simp only [if_neg hc]
      constructor
      · intro h
        obtain rfl := Except.ok.inj h
        exact ⟨rfl, hc⟩
      · rintro ⟨hkey, _⟩
        rw [Option.some.inj hkey]

theorem reportedAttribute_eq_ok {pivot : Entity} {name reported : String} :
    reportedAttribute pivot name = .ok reported ↔
      reported = name ∧ name ∈ pivot.attributeNames ∧ name ≠ countLabel := by
  unfold reportedAttribute
  by_cases hm : name ∈ pivot.attributeNames
  · have hcontains : (!pivot.attributeNames.contains name) = false := by simpa using hm
    rw [hcontains, if_neg (by decide)]
    by_cases hc : name = countLabel
    · rw [if_pos hc]
      exact ⟨fun h => (nomatch h), fun h => absurd hc h.2.2⟩
    · rw [if_neg hc]
      constructor
      · intro h
        exact ⟨(Except.ok.inj h).symm, hm, hc⟩
      · rintro ⟨rfl, _⟩
        rfl
  · have hcontains : (!pivot.attributeNames.contains name) = true := by simpa using hm
    rw [hcontains, if_pos rfl]
    exact ⟨fun h => (nomatch h), fun h => absurd h.2.1 hm⟩

/-- An instruction that compiles either has no pivot and counts all rows, or has one and its joins
are planned; then it reports an attribute or none. -/
theorem compile_ok {p : Planner} {i : MetricInstruction} {q : Query} (h : p.compile i = .ok q) :
    (i.pivot = none ∧ ∃ entity, p.snapshot.entity? i.entity = some entity ∧
      q = .count ⟨entity.name, entity.tableName⟩) ∨
    ∃ entity pivot key path hops joins label,
      Planned p i entity pivot key path hops joins label ∧
      ((i.pivotAttribute = none ∧
          q = .grouped ⟨entity.name, entity.tableName, pivot.name, label, key, path, joins⟩) ∨
        ∃ reported, i.pivotAttribute = some reported ∧ reported ∈ pivot.attributeNames ∧
          reported ≠ countLabel ∧
          q = .zeroFilled ⟨entity.name, entity.tableName, pivot.name, pivot.tableName, label, key,
            reported, path, joins⟩) := by
  unfold compile at h
  cases he : p.entity i.entity with
  | error e => rw [he] at h; cases h
  | ok entity =>
    have hentity := entity_eq_ok.mp he
    simp only [he, bind, Except.bind] at h
    cases hpivot : i.pivot with
    | none =>
      simp only [hpivot] at h
      exact Or.inl ⟨rfl, entity, hentity, (Except.ok.inj h).symm⟩
    | some name =>
      simp only [hpivot] at h
      cases hp : p.entity name with
      | error e => rw [hp] at h; cases h
      | ok pivot =>
        simp only [hp] at h
        unfold compilePivot at h
        cases hkey : groupingKey pivot with
        | error e => rw [hkey] at h; cases h
        | ok key =>
          cases hpath : p.joinPath i entity pivot with
          | error e => simp only [hkey, hpath, bind, Except.bind] at h; cases h
          | ok path =>
            cases hexp : p.expand entity pivot path with
            | error e => simp only [hkey, hpath, hexp, bind, Except.bind] at h; cases h
            | ok r =>
              obtain ⟨joins, label⟩ := r
              simp only [hkey, hpath, hexp, bind, Except.bind] at h
              have hnamed := entity_eq_ok.mp hp
              obtain ⟨hk, hkne⟩ := groupingKey_eq_ok.mp hkey
              obtain ⟨hops, hF, hcs, hjoins, hlabel⟩ :=
                expand_ok hexp (Snapshot.entity?_self hentity) (Snapshot.entity?_self hnamed)
              refine Or.inr ⟨entity, pivot, key, path, hops, joins, label,
                ⟨hentity, ⟨name, hpivot, hnamed⟩, hk, hkne, hpath, hF, hcs, hjoins, hlabel⟩, ?_⟩
              cases hattr : i.pivotAttribute with
              | none =>
                simp only [hattr] at h
                exact Or.inl ⟨rfl, (Except.ok.inj h).symm⟩
              | some reported =>
                simp only [hattr] at h
                cases hrep : reportedAttribute pivot reported with
                | error e => rw [hrep] at h; cases h
                | ok a =>
                  obtain ⟨rfl, hm, hne⟩ := reportedAttribute_eq_ok.mp hrep
                  rw [hrep] at h
                  exact Or.inr ⟨a, rfl, hm, hne, (Except.ok.inj h).symm⟩

section Planned

variable {p : Planner} {i : MetricInstruction} {entity pivot : Entity} {key : String}
  {path : List String} {hops : List Hop} {joins : List JoinStep} {label : String}

/-- The plan of an instruction does not depend on the attribute that it asks for. -/
theorem Planned.without_attribute (h : Planned p i entity pivot key path hops joins label) :
    Planned p { i with pivotAttribute := none } entity pivot key path hops joins label :=
  ⟨h.entity_eq, h.pivot_eq, h.key_eq, h.key_ne, h.path_eq, h.follows, h.columns, h.joins_eq,
    h.label_eq⟩

/-- A planned instruction that asks for no attribute compiles. -/
theorem Planned.compile_eq (h : Planned p i entity pivot key path hops joins label)
    (hattr : i.pivotAttribute = none) :
    p.compile i = .ok (.grouped
      ⟨entity.name, entity.tableName, pivot.name, label, key, path, joins⟩) := by
  obtain ⟨name, hname, hpivot⟩ := h.pivot_eq
  have hkey := groupingKey_eq_ok.mpr ⟨h.key_eq, h.key_ne⟩
  have hexp := expand_of_follows h.follows h.columns
  rw [← h.joins_eq, ← h.label_eq] at hexp
  simp only [compile, entity_eq_ok.mpr h.entity_eq, hname, entity_eq_ok.mpr hpivot, compilePivot,
    hkey, h.path_eq, hexp, hattr, bind, Except.bind]
  rfl

end Planned

section Compiled

variable {p : Planner} {i : MetricInstruction}

theorem compile_total {entity : Entity} (h : p.snapshot.entity? i.entity = some entity) :
    p.compile { i with pivot := none } = .ok (.count ⟨entity.name, entity.tableName⟩) := by
  simp only [compile, entity_eq_ok.mpr h, bind, Except.bind]
  rfl

theorem compile_count {q : CountQuery} (h : p.compile i = .ok (.count q)) : i.pivot = none := by
  rcases compile_ok h with ⟨hnone, _⟩ | ⟨_, _, _, _, _, _, _, _, ⟨_, heq⟩ | ⟨_, _, _, _, heq⟩⟩
  · exact hnone
  · cases heq
  · cases heq

theorem compile_grouped {q : GroupedQuery} (h : p.compile i = .ok (.grouped q)) :
    ∃ entity pivot hops,
      Planned p i entity pivot q.groupBy q.joinPath hops q.joins q.pivotAlias ∧
      q.tableName = entity.tableName := by
  rcases compile_ok h with ⟨_, _, _, hcount⟩ |
    ⟨entity, pivot, key, path, hops, joins, label, hplan, ⟨_, heq⟩ | ⟨_, _, _, _, heq⟩⟩
  · cases hcount
  · cases heq
    exact ⟨entity, pivot, hops, hplan, rfl⟩
  · cases heq

theorem compile_zeroFilled {q : ZeroFilledQuery} (h : p.compile i = .ok (.zeroFilled q)) :
    ∃ entity pivot hops,
      Planned p i entity pivot q.primaryKey q.joinPath hops q.joins q.pivotAlias ∧
      q.entity = entity.name ∧ q.tableName = entity.tableName ∧ q.pivot = pivot.name ∧
      q.pivotTableName = pivot.tableName ∧ q.pivotAttribute ≠ countLabel := by
  rcases compile_ok h with ⟨_, _, _, hcount⟩ |
    ⟨entity, pivot, key, path, hops, joins, label, hplan, ⟨_, heq⟩ | ⟨_, _, _, hne, heq⟩⟩
  · cases hcount
  · cases heq
  · cases heq
    exact ⟨entity, pivot, hops, hplan, rfl, rfl, rfl, rfl, hne⟩

/-- An instruction with a pivot and an attribute of it is compiled to a zero-filled query. -/
theorem compile_attribute {q : Query} {name reported : String} (hq : p.compile i = .ok q)
    (hname : i.pivot = some name) (hattr : i.pivotAttribute = some reported) :
    ∃ z, q = .zeroFilled z ∧ z.pivotAttribute = reported := by
  rcases compile_ok hq with ⟨hnone, _⟩ |
    ⟨_, _, _, _, _, _, _, _, ⟨hnone, _⟩ | ⟨_, hreported, _, _, rfl⟩⟩
  · rw [hname] at hnone
    cases hnone
  · rw [hattr] at hnone
    cases hnone
  · rw [hattr] at hreported
    exact ⟨_, rfl, (Option.some.inj hreported).symm⟩

/-- A query with a pivot is made of the plan of its instruction. -/
theorem compile_planned {q : Query} {name : String} (hq : p.compile i = .ok q)
    (hname : i.pivot = some name) :
    ∃ entity pivot key hops,
      Planned p i entity pivot key q.joinPath hops q.joins q.pivotAlias ∧
      q.tableName = entity.tableName ∧
      ∀ z, q = .zeroFilled z → z.pivotTableName = pivot.tableName := by
  cases q with
  | count q =>
    have hnone := compile_count hq
    rw [hname] at hnone
    cases hnone
  | grouped q =>
    obtain ⟨entity, pivot, hops, hplan, htable⟩ := compile_grouped hq
    refine ⟨entity, pivot, _, hops, hplan, htable, fun z hz => ?_⟩
    cases hz
  | zeroFilled q =>
    obtain ⟨entity, pivot, hops, hplan, _, htable, _, hzeros, _⟩ := compile_zeroFilled hq
    refine ⟨entity, pivot, _, hops, hplan, htable, fun z hz => ?_⟩
    cases hz
    exact hzeros

end Compiled

section Path

variable {p : Planner} {i : MetricInstruction} {entity pivot : Entity} {name : String}

/-- An instruction whose path is found is compiled as if the path were given. -/
theorem compile_given {path : List String} (he : p.snapshot.entity? i.entity = some entity)
    (hname : i.pivot = some name) (hp : p.snapshot.entity? name = some pivot)
    (hpath : p.joinPath i entity pivot = .ok path) :
    p.compile i = p.compile { i with joinPath := some path } := by
  simp only [compile, compilePivot, entity_eq_ok.mpr he, hname, entity_eq_ok.mpr hp, hpath, bind,
    Except.bind]
  rfl

/-- A compiled query has the path that the instruction gives. -/
theorem joinPath_of_compile {q : Query} {path : List String} (hname : i.pivot = some name)
    (hgiven : i.joinPath = some path) (hq : p.compile i = .ok q) : q.joinPath = path := by
  obtain ⟨entity, pivot, key, hops, hplan, _⟩ := compile_planned hq hname
  have hpath := hplan.path_eq
  rw [joinPath, hgiven] at hpath
  exact (Except.ok.inj hpath).symm

/-- An instruction compiles only if its two entities are known and there is a path. -/
theorem joinPath_ok_of_compile {q : Query} (hname : i.pivot = some name)
    (hq : p.compile i = .ok q) :
    ∃ entity pivot path, p.snapshot.entity? i.entity = some entity ∧
      p.snapshot.entity? name = some pivot ∧ p.joinPath i entity pivot = .ok path := by
  obtain ⟨entity, pivot, key, hops, hplan, _⟩ := compile_planned hq hname
  obtain ⟨name', hname', hp⟩ := hplan.pivot_eq
  obtain rfl : name = name' := Option.some.inj (hname.symm.trans hname')
  exact ⟨entity, pivot, _, hplan.entity_eq, hp, hplan.path_eq⟩

end Path

end Planner

end EntityAtlas
