import EntityAtlas.Proofs.Graph.Existing
import EntityAtlas.Proofs.Graph.Preference
import EntityAtlas.Proofs.Ranking.Exact
import EntityAtlas.Proofs.Request.Batch
import EntityAtlas.Request.Schema

/-!
# The listing of the schema

The schema lists every entity whose table exists once for every time it is reported, with everything
that is known about it. The list is sorted by rank and name where the entities can be ranked, and
otherwise by name alone, with a warning. Both orders are one: an entity without a rank counts as
having rank zero.
-/

namespace EntityAtlas

open Recorded Scalar

/-- How an association shows: by its name, kind and options, and by its target unless that differs
from row to row. -/
structure Association.ShownAs (a : Association) (shown : AssociationSchema) : Prop where
  name_eq : shown.name = a.name
  kind_eq : shown.kind = a.kind.word
  options_eq : shown.options = a.options
  target_none : shown.targetEntity = none ↔ a.target = .polymorphic
  target_some : ∀ goal, shown.targetEntity = some goal ↔ a.target = .direct goal

/-- How an entity of a snapshot shows: by its own fields and all associations of its name, in their
order. -/
structure Snapshot.Shows {α : Type} (s : Snapshot) (e : Entity) (shown : EntitySchema α) :
    Prop where
  name_eq : shown.name = e.name
  tableName_eq : shown.tableName = e.tableName
  attributeNames_eq : shown.attributeNames = e.attributeNames
  primaryKey_eq : shown.primaryKey = e.primaryKey
  tableExists_eq : shown.tableExists = e.present
  associations : List.Forall₂ Association.ShownAs (s.associationsOf e.name) shown.associations

theorem Association.shownAs_schema (a : Association) : a.ShownAs a.schema := by
  refine ⟨rfl, rfl, rfl, ?_, fun goal => ?_⟩
  · show a.targetEntity? = none ↔ _
    cases ht : a.target <;> simp [targetEntity?, ht]
  · show a.targetEntity? = some goal ↔ _
    cases ht : a.target <;> simp [targetEntity?, ht]

theorem Snapshot.shows_schema {α : Type} {s : Snapshot} {e : Entity}
    (h : e ∈ s.existing.entities) (rank : Option α) :
    s.Shows e (e.schema (s.existing.associationsOf e.name) rank) := by
  have hassociations : s.existing.associationsOf e.name = s.associationsOf e.name := by
    have htable : s.hasTable e.name = true := by
      obtain ⟨hmem, hpresent⟩ := List.mem_filter.mp h
      exact hasTable_iff.mpr ⟨e, hmem, hpresent, rfl⟩
    rw [associationsOf_existing, if_pos htable]
  refine ⟨rfl, rfl, rfl, rfl, rfl, ?_⟩
  show List.Forall₂ _ _ ((s.existing.associationsOf e.name).map Association.schema)
  rw [hassociations, List.forall₂_map_right_iff, List.forall₂_same]
  exact fun a _ => a.shownAs_schema

namespace Schema

variable {ε α : Type} [Scalar α]

/-! ## What describing comes to -/

/-- What describing a snapshot comes to: its listing by the ranks, or without any and with a
warning. -/
def described (o : RankingOptions α) (s : Snapshot) : Outcome (SchemaResponse α) :=
  match Ranking.rank o (EntityGraph.ofExisting s) with
  | .ok (ranks, _) => .ok (listing s.existing ranks)
  | .error fault => .ok (listing s.existing []) [unranked fault]

theorem succeeds_rank (o : RankingOptions α) (g : EntityGraph) :
    Succeeds (rank o g : Recorded ε (Except RankingFault (Table α)))
      (· = (Ranking.rank o g).map Prod.fst) := by
  unfold rank Ranking.rank
  cases Ranking.settled o g with
  | error fault => exact succeeds_pure rfl
  | ok found =>
    obtain ⟨ranks, iterations⟩ := found
    refine Ensures.after_log _ _ _ (succeeds_pure ?_)
    show (Ranking.normalise ranks).map g.names.zip = Except.map Prod.fst
      ((Ranking.normalise ranks).bind fun scaled => .ok (g.names.zip scaled, iterations))
    cases Ranking.normalise ranks <;> rfl

theorem succeeds_ofSnapshot (o : RankingOptions α) (s : Snapshot) :
    Succeeds (ofSnapshot o s : Recorded ε (Outcome (SchemaResponse α))) (· = described o s) := by
  refine (Metrics.succeeds_graphNote s.existing).bind fun _ _ => ?_
  refine (succeeds_rank o _).bind fun ranks hranks => ?_
  unfold described
  rw [EntityGraph.ofExisting]
  subst hranks
  cases Ranking.rank o (EntityGraph.ofSnapshot s.existing) with
  | ok ranked =>
    obtain ⟨ranks, iterations⟩ := ranked
    refine Succeeds.bind (P := (· = (ranks, []))) (succeeds_pure rfl) ?_
    rintro _ rfl
    exact Ensures.after_log _ _ _ (succeeds_pure rfl)
  | error fault =>
    refine Ensures.after_log _ _ _ ?_
    refine Succeeds.bind (P := (· = (([] : Table α), [unranked fault]))) (succeeds_pure rfl) ?_
    rintro _ rfl
    exact Ensures.after_log _ _ _ (succeeds_pure rfl)

/-- Describing a snapshot that a provider has gives a response with warnings, whatever the journal
holds. -/
def Describes (o : RankingOptions α) (s : Snapshot) (response : SchemaResponse α)
    (warnings : List String) : Prop :=
  ∀ (ε : Type) (mapped : Bool), Ensures
    (describe o ⟨.ok s, mapped⟩ : Recorded ε (Outcome (SchemaResponse α)))
    (· = .ok (.ok response warnings))

theorem describes_described {o : RankingOptions α} {s : Snapshot} {response : SchemaResponse α}
    {warnings : List String} (h : described o s = .ok response warnings) :
    Describes o s response warnings := by
  intro _ mapped
  refine Metrics.ensures_withSnapshot mapped ((succeeds_ofSnapshot o s).mono ?_)
  rintro _ ⟨_, rfl, rfl⟩
  rw [h]

theorem describes_of_rank {o : RankingOptions α} {s : Snapshot} {ranks : Table α}
    {iterations : Nat} (h : Ranking.rank o (EntityGraph.ofExisting s) = .ok (ranks, iterations)) :
    Describes o s (listing s.existing ranks) [] :=
  describes_described (by rw [described, h])

theorem describes_of_fault {o : RankingOptions α} {s : Snapshot} {fault : RankingFault}
    (h : Ranking.rank o (EntityGraph.ofExisting s) = .error fault) :
    Describes o s (listing s.existing []) [unranked fault] :=
  describes_described (by rw [described, h])

/-! ## The order of the entities -/

section Order

variable [Scalar.Ordered α] {ranks : Table α}

theorem isNaN_weight (hranks : ∀ entry ∈ ranks, isNaN entry.2 = false) (e : Entity) :
    isNaN (weight ranks e) = false := by
  unfold weight Table.findD
  cases h : ranks.find? e.name with
  | none => exact Ordered.isNaN_zero
  | some r => exact hranks _ (Table.mem_of_find?_eq_some h)

omit [Scalar.Ordered α] in
theorem notAfter_iff {a b : Entity} : notAfter ranks a b = true ↔
    less (weight ranks b) (weight ranks a) = true ∨
      ¬ less (weight ranks a) (weight ranks b) = true ∧ a.name ≤ b.name := by
  unfold notAfter
  by_cases hba : less (weight ranks b) (weight ranks a) = true
  · simp [hba]
  · by_cases hab : less (weight ranks a) (weight ranks b) = true
    · simp [hba, hab]
    · simp [hba, hab, Text.notAfter_iff]

omit [Scalar.Ordered α] in
theorem notAfter_total (a b : Entity) : (notAfter ranks a b || notAfter ranks b a) = true := by
  rw [Bool.or_eq_true, notAfter_iff, notAfter_iff]
  by_cases hba : less (weight ranks b) (weight ranks a) = true
  · exact Or.inl (Or.inl hba)
  · by_cases hab : less (weight ranks a) (weight ranks b) = true
    · exact Or.inr (Or.inl hab)
    · rcases le_total a.name b.name with h | h
      · exact Or.inl (Or.inr ⟨hab, h⟩)
      · exact Or.inr (Or.inr ⟨hba, h⟩)

theorem notAfter_trans (hranks : ∀ entry ∈ ranks, isNaN entry.2 = false) (a b c : Entity)
    (hab : notAfter ranks a b = true) (hbc : notAfter ranks b c = true) :
    notAfter ranks a c = true := by
  rw [notAfter_iff] at *
  have hbetween : ∀ x y z : Entity, less (weight ranks x) (weight ranks z) = true →
      less (weight ranks x) (weight ranks y) = true ∨
        less (weight ranks y) (weight ranks z) = true := fun x y z =>
    Ordered.less_or_less _ _ _ (isNaN_weight hranks y)
  rcases hab with hba | ⟨hab, hnab⟩
  · -- `a` ranks higher than `b`, and `c` not higher than `b`
    have hcb : ¬ less (weight ranks b) (weight ranks c) = true :=
      hbc.elim (Ordered.less_asymm _ _) And.left
    exact Or.inl ((hbetween b c a hba).resolve_left hcb)
  · rcases hbc with hcb | ⟨hbc, hnbc⟩
    · exact Or.inl ((hbetween c a b hcb).resolve_right hab)
    · exact Or.inr ⟨fun hac => (hbetween a b c hac).elim hab hbc, hnab.trans hnbc⟩

/-- Entities that may stand before each other have the same name. -/
theorem name_eq_of_notAfter {a b : Entity} (hab : notAfter ranks a b = true)
    (hba : notAfter ranks b a = true) : a.name = b.name := by
  rw [notAfter_iff] at hab hba
  rcases hab with hless | ⟨hnot, hname⟩
  · exact absurd hba (not_or.mpr ⟨Ordered.less_asymm _ _ hless, fun h => h.1 hless⟩)
  · rcases hba with hless | ⟨_, hname'⟩
    · exact absurd hless hnot
    · exact le_antisymm hname hname'

theorem pairwise_notAfter (hranks : ∀ entry ∈ ranks, isNaN entry.2 = false)
    (entities : List Entity) :
    (entities.mergeSort (notAfter ranks)).Pairwise (notAfter ranks · · = true) :=
  List.pairwise_mergeSort (notAfter_trans hranks) notAfter_total entities

/-- The listing is sorted: by rank, the highest first, and by name where ranks are equal. -/
theorem pairwise_sorted (hranks : ∀ entry ∈ ranks, isNaN entry.2 = false) (entities : List Entity) :
    (entities.mergeSort (notAfter ranks)).Pairwise fun a b =>
      ¬ less (weight ranks a) (weight ranks b) = true ∧
        (¬ less (weight ranks b) (weight ranks a) = true → a.name ≤ b.name) := by
  refine (pairwise_notAfter hranks entities).imp fun {a b} hab => ?_
  rcases notAfter_iff.mp hab with h | ⟨h, hname⟩
  · exact ⟨Ordered.less_asymm _ _ h, fun hnot => absurd h hnot⟩
  · exact ⟨h, fun _ => hname⟩

end Order

/-! ## The listing -/

/-- A response lists the entities of a snapshot whose tables exist, each as often as it is
reported. -/
structure Lists (s : Snapshot) (response : SchemaResponse α) : Prop where
  version_eq : response.schemaVersion = s.schemaVersion
  entities : ∃ order, order.Perm s.existing.entities ∧ List.Forall₂ s.Shows order response.entities

/-- A response has the rank of every entity, is sorted by rank, and by name among equal ranks. -/
structure RankedBy (ranks : Table α) (response : SchemaResponse α) : Prop where
  ranked : response.ranked = true
  rank_eq : ∀ e ∈ response.entities, ∃ r, ranks.find? e.name = some r ∧ e.rank = some r
  sorted : response.entities.Pairwise fun a b => ∀ r t, a.rank = some r → b.rank = some t →
    ¬ less r t = true ∧ (¬ less t r = true → a.name ≤ b.name)

/-- A response has no ranks and is sorted by name. -/
structure ByName (response : SchemaResponse α) : Prop where
  ranked : response.ranked = false
  rank_eq : ∀ e ∈ response.entities, e.rank = none
  sorted : response.entities.Pairwise fun a b => a.name ≤ b.name

variable {s : Snapshot}

theorem lists_listing (s : Snapshot) (ranks : Table α) : Lists s (listing s.existing ranks) := by
  have hperm := List.mergeSort_perm s.existing.entities (notAfter ranks)
  refine ⟨rfl, _, hperm, ?_⟩
  show List.Forall₂ _ _ (List.map _ (s.existing.entities.mergeSort (notAfter ranks)))
  rw [List.forall₂_map_right_iff, List.forall₂_same]
  exact fun e he => Snapshot.shows_schema (hperm.mem_iff.mp he) _

/-- The entities that are listed are vertices, so each has a rank if the graph can be ranked. -/
theorem exists_rank {o : RankingOptions α} {ranks : Table α} {iterations : Nat}
    (h : Ranking.rank o (EntityGraph.ofExisting s) = .ok (ranks, iterations)) {e : Entity}
    (he : e ∈ s.existing.entities) : ∃ r, ranks.find? e.name = some r := by
  have hvertex : e.name ∈ (EntityGraph.ofExisting s).names :=
    Table.has_iff_mem_names.mp (EntityGraph.has_build.mpr ⟨e, he, rfl⟩)
  rw [← Ranking.names_rank h] at hvertex
  exact Option.isSome_iff_exists.mp (Table.has_iff_mem_names.mpr hvertex)

section Order

variable [Scalar.Ordered α]

theorem rankedBy_listing {o : RankingOptions α} {ranks : Table α} {iterations : Nat}
    (h : Ranking.rank o (EntityGraph.ofExisting s) = .ok (ranks, iterations)) :
    RankedBy ranks (listing s.existing ranks) := by
  have hranked : (listing s.existing ranks).ranked = true := by
    have hne := Ranking.ne_nil_rank h
    simpa [listing] using hne
  refine ⟨hranked, fun shown hshown => ?_, ?_⟩
  · obtain ⟨e, he, rfl⟩ := List.mem_map.mp hshown
    obtain ⟨r, hr⟩ := exists_rank h (List.mem_mergeSort.mp he)
    exact ⟨r, hr, hr⟩
  · refine List.pairwise_map.mpr ((pairwise_sorted (fun _ => Ranking.isNaN_rank h) _).imp ?_)
    intro a b hab r t hr ht
    have hweight : ∀ (e : Entity) q, ranks.find? e.name = some q → weight ranks e = q :=
      fun e q hq => by rw [weight, Table.findD, hq, Option.getD_some]
    rwa [hweight a r hr, hweight b t ht] at hab

theorem byName_listing (s : Snapshot) : ByName (listing s.existing ([] : Table α)) := by
  refine ⟨rfl, fun shown hshown => ?_, ?_⟩
  · obtain ⟨e, _, rfl⟩ := List.mem_map.mp hshown
    rfl
  · have hnone : ∀ entry ∈ ([] : Table α), isNaN entry.2 = false := fun _ h =>
      absurd h List.not_mem_nil
    refine List.pairwise_map.mpr ((pairwise_sorted hnone _).imp fun {a b} hab => ?_)
    -- without ranks all weights are zero
    exact hab.2 hab.1

/-- Describing a snapshot succeeds with a listing of its entities whose tables exist. If their graph
can be ranked, the listing has the ranks and their order, and there is no warning; otherwise it has
no ranks, is in the order of the names and comes with the one warning that says why. -/
theorem describe_lists (o : RankingOptions α) (s : Snapshot) :
    ∃ response warnings, Describes o s response warnings ∧ Lists s response ∧
      (∀ ranks iterations,
        Ranking.rank o (EntityGraph.ofExisting s) = .ok (ranks, iterations) →
          RankedBy ranks response ∧ warnings = []) ∧
      ∀ fault, Ranking.rank o (EntityGraph.ofExisting s) = .error fault →
        ByName response ∧ warnings = [unranked fault] := by
  cases hrank : Ranking.rank o (EntityGraph.ofExisting s) with
  | ok ranked =>
    obtain ⟨ranks, iterations⟩ := ranked
    refine ⟨_, _, describes_of_rank hrank, lists_listing s ranks, ?_, ?_⟩
    · intro _ _ h
      cases h
      exact ⟨rankedBy_listing hrank, rfl⟩
    · intro _ h
      cases h
  | error fault =>
    refine ⟨_, _, describes_of_fault hrank, lists_listing s [], ?_, ?_⟩
    · intro _ _ h
      cases h
    · intro _ h
      cases h
      exact ⟨byName_listing s, rfl⟩

end Order

/-! ## Notes on many things -/

/-- Notes on anything, posts in two tables, a table of tags that is missing, and authors. -/
def noteSnapshot : Snapshot :=
  { entities :=
      [⟨"Note", "notes", some "id", ["text"], true⟩, ⟨"Post", "posts", some "id", [], true⟩,
       ⟨"Tag", "tags", some "id", [], false⟩, ⟨"Author", "authors", none, [], true⟩,
       ⟨"Post", "archived_posts", some "id", [], true⟩]
    associations :=
      [("Note", [⟨"subject", .belongsTo, .polymorphic, [], [], none⟩,
         reference "writer" "writer_id" "Author"]),
       ("Post", [reference "author" "author_id" "Author", reference "tag" "tag_id" "Tag",
         ⟨"notes", .hasMany, .direct "Note", [], [("id", "post_id")], none⟩])]
    schemaVersion := some "7" }

/-- The ranks of notes, posts and authors. -/
def noteRanks : Table ℚ := [("Note", 1 / 4), ("Post", 1 / 4), ("Author", 1 / 2)]

theorem describe_lists_notes :
    Ranking.rank .usualExact (EntityGraph.ofExisting noteSnapshot) = .ok (noteRanks, 3) ∧
      ∃ response, Describes .usualExact noteSnapshot response [] ∧
        Lists noteSnapshot response ∧ RankedBy noteRanks response := by
  have hrank : Ranking.rank .usualExact (EntityGraph.ofExisting noteSnapshot) =
      .ok (noteRanks, 3) := by decide +kernel
  obtain ⟨response, warnings, hdescribes, hlists, hranks, _⟩ :=
    describe_lists .usualExact noteSnapshot
  obtain ⟨hranked, rfl⟩ := hranks _ _ hrank
  exact ⟨hrank, response, hdescribes, hlists, hranked⟩

end Schema

end EntityAtlas
