import EntityAtlas.Proofs.Metric.Expansion
import Std.Data.String.ToNat

/-!
# One path after another

A path that is made of two is followed to where the first leads, and on from there. Its steps are
those of the first path and then those of the second, in which the tables go by other names: the
table that the second path starts from is the last one of the first, and every other comes as many
places later as the first path has steps.
-/

namespace EntityAtlas

/-! ## Names of tables that come later -/

/-- The position of the table that goes by a name. -/
def tablePosition? (label : String) : Option Nat :=
  match label.toList with
  | 't' :: digits => (String.ofList digits).toNat?
  | _ => none

theorem tablePosition?_tableAlias (position : Nat) :
    tablePosition? (tableAlias position) = some position := by
  have hlabel : (tableAlias position).toList = 't' :: position.repr.toList := by
    rw [tableAlias, String.toList_append]
    rfl
  rw [tablePosition?, hlabel]
  show (String.ofList position.repr.toList).toNat? = some position
  rw [String.ofList_toList, Nat.toNat?_repr]

/-- The name of a table that comes after others: the first table goes by the name `start`, and the
others come `count` places later. -/
def renumbered (start : String) (count : Nat) (label : String) : String :=
  match tablePosition? label with
  | some 0 => start
  | some (k + 1) => tableAlias (k + 1 + count)
  | none => label

/-- A step in which the tables go by other names. -/
def JoinStep.rename (f : String → String) (s : JoinStep) : JoinStep :=
  { s with
    label := f s.label
    pairs := s.pairs.map fun c => { c with leftAlias := f c.leftAlias } }

theorem renumbered_tableAlias (count position : Nat) :
    renumbered (tableAlias count) count (tableAlias position) = tableAlias (position + count) := by
  rw [renumbered, tablePosition?_tableAlias]
  cases position with
  | zero => rw [Nat.zero_add]
  | succ k => rfl

namespace Planner

theorem rename_step (association tableName : String) (count position : Nat)
    (columns : List (String × String)) :
    (step association tableName position columns).rename (renumbered (tableAlias count) count) =
      step association tableName (position + count) columns := by
  simp only [step, JoinStep.rename, pairsFrom, renumbered_tableAlias, List.map_map,
    Function.comp_def, Nat.add_right_comm position count 1]

/-- Legs that come after `count` more tables have the same steps, renumbered. -/
theorem stepsFrom_add (count position : Nat) (legs : List Leg) :
    stepsFrom (position + count) legs =
      (stepsFrom position legs).map (·.rename (renumbered (tableAlias count) count)) := by
  induction legs generalizing position with
  | nil => rfl
  | cons l legs ih =>
    rw [stepsFrom, stepsFrom, List.map_cons, rename_step, ← ih, Nat.add_right_comm]

end Planner

/-! ## Following one path after another -/

theorem legsOf_append (hops more : List Hop) : legsOf (hops ++ more) = legsOf hops ++ legsOf more :=
  List.flatMap_append

namespace Follows

variable {s : Snapshot}

theorem append {owner via final : Entity} {path more : List String} {hops later : List Hop}
    (h : Follows s owner path hops via) (hmore : Follows s via more later final) :
    Follows s owner (path ++ more) (hops ++ later) final := by
  induction h with
  | stay e => exact hmore
  | hop ha hd ht _ ih => exact .hop ha hd ht (ih hmore)

theorem split {path more : List String} : ∀ {owner final : Entity} {hops : List Hop},
    Follows s owner (path ++ more) hops final → ∃ via first later, hops = first ++ later ∧
      Follows s owner path first via ∧ Follows s via more later final := by
  induction path with
  | nil =>
    intro owner final hops h
    exact ⟨owner, [], hops, rfl, .stay owner, h⟩
  | cons name path ih =>
    intro owner final hops h
    cases h with
    | hop ha hd ht rest =>
      obtain ⟨via, first, later, rfl, hfirst, hlater⟩ := ih rest
      exact ⟨via, _ :: first, later, rfl, .hop ha hd ht hfirst, hlater⟩

/-- Only the name of the entity that a path starts from matters. -/
theorem of_name {owner owner' final : Entity} {path : List String} {hops : List Hop}
    (h : Follows s owner path hops final) (hname : owner'.name = owner.name) :
    ∃ final', final'.name = final.name ∧ Follows s owner' path hops final' := by
  cases h with
  | stay e => exact ⟨owner', hname, .stay owner'⟩
  | hop ha hd ht rest =>
    rw [← hname] at ha
    exact ⟨final, rfl, .hop ha hd ht rest⟩

end Follows

namespace Planner

variable {p : Planner}

/-- An expansion succeeds exactly if the path is followed, over hops with columns, to an entity of
the name of the pivot. -/
theorem expand_eq_ok {entity pivot : Entity} {path : List String} {joins : List JoinStep}
    {label : String} : p.expand entity pivot path = .ok (joins, label) ↔
      ∃ hops final, Follows p.snapshot entity path hops final ∧
        (∀ x ∈ hops, x.1.arrivalColumns ≠ []) ∧ final.name = pivot.name ∧
        joins = stepsFrom 0 (legsOf hops) ∧ label = tableAlias (legsOf hops).length := by
  constructor
  · intro h
    unfold expand at h
    cases hw : p.walk entity.name pivot.name entity 0 path with
    | error e =>
      rw [hw] at h
      cases h
    | ok r =>
      obtain ⟨final, steps⟩ := r
      obtain ⟨hops, hF, hcs, rfl⟩ := walk_ok hw
      simp only [hw, bind, Except.bind] at h
      by_cases hend : final.name = pivot.name
      · rw [if_pos hend] at h
        obtain ⟨rfl, rfl⟩ := Prod.mk.inj (Except.ok.inj h)
        exact ⟨hops, final, hF, hcs, hend, rfl, by rw [length_stepsFrom]⟩
      · rw [if_neg hend] at h
        cases h
  · rintro ⟨hops, final, hF, hcs, hend, rfl, rfl⟩
    simp only [expand, walk_of_follows entity.name pivot.name hF hcs 0, bind, Except.bind,
      if_pos hend, length_stepsFrom]
    rfl

/-- Expansions of two paths, one to where the other starts, make the expansion of both. -/
theorem expand_append_ok {entity via pivot : Entity} {path more : List String}
    {first second : List JoinStep} {last label : String}
    (h : p.expand entity via path = .ok (first, last))
    (hmore : p.expand via pivot more = .ok (second, label)) :
    p.expand entity pivot (path ++ more) =
      .ok (first ++ second.map (·.rename (renumbered last first.length)),
        renumbered last first.length label) := by
  obtain ⟨hops, reached, hF, hcs, hreached, rfl, rfl⟩ := expand_eq_ok.mp h
  obtain ⟨later, final, hFmore, hcsmore, hfinal, rfl, rfl⟩ := expand_eq_ok.mp hmore
  -- Only names are compared, so the path may have reached another descriptor of the same name.
  obtain ⟨final', hname, hFmore⟩ := hFmore.of_name hreached
  refine expand_eq_ok.mpr ⟨hops ++ later, final', hF.append hFmore, ?_, hname.trans hfinal, ?_, ?_⟩
  · intro x hx
    exact (List.mem_append.mp hx).elim (hcs x) (hcsmore x)
  · rw [legsOf_append, stepsFrom_append, length_stepsFrom, stepsFrom_add]
  · rw [legsOf_append, List.length_append, length_stepsFrom, renumbered_tableAlias, Nat.add_comm]

/-- A path made of two is expanded exactly if the first is, to the entity that it leads to, and the
second from there; its steps are those of the first and then those of the second, which start from
the last table of the first and come as many places later as it has steps. -/
theorem expand_append (p : Planner) (entity pivot : Entity) (path more : List String) :
    ((∃ r, p.expand entity pivot (path ++ more) = .ok r) ↔
      ∃ via hops, Follows p.snapshot entity path hops via ∧
        (∃ r, p.expand entity via path = .ok r) ∧ ∃ r, p.expand via pivot more = .ok r) ∧
    ∀ via first last second label, p.expand entity via path = .ok (first, last) →
      p.expand via pivot more = .ok (second, label) →
      p.expand entity pivot (path ++ more) =
        .ok (first ++ second.map (·.rename (renumbered last first.length)),
          renumbered last first.length label) := by
  refine ⟨⟨?_, ?_⟩, fun via first last second label => expand_append_ok⟩
  · rintro ⟨r, hr⟩
    obtain ⟨hops, final, hF, hcs, hfinal, -, -⟩ := expand_eq_ok.mp hr
    obtain ⟨via, first, later, rfl, hfirst, hlater⟩ := hF.split
    obtain ⟨hcsfirst, hcslater⟩ := List.forall_mem_append.mp hcs
    exact ⟨via, first, hfirst, ⟨_, expand_eq_ok.mpr ⟨first, via, hfirst, hcsfirst, rfl, rfl, rfl⟩⟩,
      _, expand_eq_ok.mpr ⟨later, final, hlater, hcslater, hfinal, rfl, rfl⟩⟩
  · rintro ⟨via, _, _, ⟨⟨first, last⟩, hfirst⟩, ⟨second, label⟩, hsecond⟩
    exact ⟨_, expand_append_ok hfirst hsecond⟩

/-- Books have authors, through a table in between, and an author belongs to a country. -/
def authorSnapshot : Snapshot :=
  { entities := [⟨"Book", "books", some "id", [], true⟩, ⟨"Author", "authors", some "id", [], true⟩,
      ⟨"Country", "countries", some "id", [], true⟩]
    associations :=
      [("Book", [⟨"authors", .hasMany, .direct "Author", [], [],
          some ⟨"book_authors", [("id", "book_id")], [("author_id", "id")]⟩⟩]),
        ("Author", [⟨"country", .belongsTo, .direct "Country", [], [("country_id", "id")], none⟩])]
    schemaVersion := none }

theorem expand_append_authors :
    let p := Planner.ofSnapshot authorSnapshot
    let book : Entity := ⟨"Book", "books", some "id", [], true⟩
    let author : Entity := ⟨"Author", "authors", some "id", [], true⟩
    let country : Entity := ⟨"Country", "countries", some "id", [], true⟩
    let first := [step "authors" "book_authors" 0 [("id", "book_id")],
      step "authors" "authors" 1 [("author_id", "id")]]
    p.expand book author ["authors"] = .ok (first, "t2") ∧
      p.expand author country ["country"] =
        .ok ([step "country" "countries" 0 [("country_id", "id")]], "t1") ∧
      p.expand book country (["authors"] ++ ["country"]) =
        .ok (first ++ [step "country" "countries" 2 [("country_id", "id")]], "t3") := by
  intro p book author country first
  have hfirst : p.expand book author ["authors"] = .ok (first, "t2") := by rfl
  have hmore : p.expand author country ["country"] =
      .ok ([step "country" "countries" 0 [("country_id", "id")]], "t1") := by rfl
  have hstep : (step "country" "countries" 0 [("country_id", "id")]).rename (renumbered "t2" 2) =
      step "country" "countries" 2 [("country_id", "id")] := rename_step _ _ 2 0 _
  have hlabel : renumbered "t2" 2 "t1" = "t3" := renumbered_tableAlias 2 1
  refine ⟨hfirst, hmore,
    ((expand_append p book country _ _).2 author _ _ _ _ hfirst hmore).trans ?_⟩
  rw [List.map_singleton, show first.length = 2 from rfl, hstep, hlabel]

end Planner

end EntityAtlas
