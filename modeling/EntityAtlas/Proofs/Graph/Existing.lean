import EntityAtlas.Proofs.Graph.Resolve

/-!
# Restricting to the tables that exist

A snapshot may be restricted to the entities whose tables exist before its graph is built, or the
graph of the whole snapshot may be cut down to their names afterwards. Both give the same edges in
the same order, since the first of several equal references is the same one before and after:
whether a reference stays depends on its two ends alone. So a path that is found among the existing
entities is a path of the whole graph that stays among them, though the whole graph may have a
shorter one.
-/

namespace EntityAtlas

namespace Snapshot

variable {s : Snapshot} {name : String}

/-- Whether some entity of that name has a table that exists. -/
def hasTable (s : Snapshot) (name : String) : Bool := s.existing.entities.any (·.name = name)

theorem existing_associations : s.existing.associations =
    s.associations.filter fun entry => s.hasTable entry.1 := rfl

theorem hasTable_iff : s.hasTable name = true ↔
    ∃ e ∈ s.entities, e.present = true ∧ e.name = name := by
  unfold hasTable
  rw [List.any_eq_true]
  constructor
  · rintro ⟨e, he, hname⟩
    obtain ⟨hmem, hpresent⟩ := List.mem_filter.mp he
    exact ⟨e, hmem, hpresent, by simpa using hname⟩
  · rintro ⟨e, he, hpresent, hname⟩
    exact ⟨e, List.mem_filter.mpr ⟨he, hpresent⟩, by simpa using hname⟩

theorem has_ofExisting : (EntityGraph.ofExisting s).has name = true ↔
    ∃ e ∈ s.entities, e.present = true ∧ e.name = name := by
  unfold EntityGraph.ofExisting EntityGraph.ofSnapshot
  rw [EntityGraph.has_build, ← hasTable_iff, hasTable, List.any_eq_true]
  simp

theorem has_ofExisting_eq (s : Snapshot) (name : String) :
    (EntityGraph.ofExisting s).has name = s.hasTable name := by
  rw [Bool.eq_iff_iff, has_ofExisting, hasTable_iff]

theorem has_of_hasTable (h : s.hasTable name = true) :
    (EntityGraph.ofSnapshot s).has name = true := by
  obtain ⟨e, he, _, hname⟩ := hasTable_iff.mp h
  exact EntityGraph.has_build.mpr ⟨e, he, hname⟩

/-- An entity with a table that exists keeps all its associations. -/
theorem associationsOf_existing (s : Snapshot) (name : String) :
    s.existing.associationsOf name = if s.hasTable name then s.associationsOf name else [] := by
  unfold associationsOf Table.findD
  rw [existing_associations, Table.find?_filter]
  split <;> rfl

/-- Restricting twice is restricting once. -/
theorem existing_existing (s : Snapshot) : s.existing.existing = s.existing := by
  have hentities : s.existing.existing.entities = s.existing.entities := by
    show (s.entities.filter (·.present)).filter (·.present) = s.entities.filter (·.present)
    rw [List.filter_filter]
    simp only [Bool.and_self]
  have hassociations : s.existing.existing.associations = s.existing.associations := by
    have hsame : s.existing.hasTable = s.hasTable := by
      funext name
      rw [hasTable, hentities, hasTable]
    rw [existing_associations (s := s.existing), hsame, existing_associations, List.filter_filter]
    simp only [Bool.and_self]
  calc s.existing.existing
      = ⟨s.existing.existing.entities, s.existing.existing.associations, s.schemaVersion⟩ := rfl
    _ = ⟨s.existing.entities, s.existing.associations, s.schemaVersion⟩ := by
        rw [hentities, hassociations]
    _ = s.existing := rfl

end Snapshot

namespace EntityGraph

/-! ## The edges that stay -/

/-- Leaving out owners before the references are collected leaves out the references from them. -/
theorem offered_filter_source {vertices kept : Table Entity} {p : String → Bool}
    (hkept : ∀ name, kept.has name = (p name && vertices.has name))
    (associations : Table (List Association)) :
    offered kept (associations.filter fun entry => p entry.1) =
      (offered vertices associations).filter fun e => p e.source := by
  rw [offered_eq, offered_eq]
  induction associations with
  | nil => rfl
  | cons entry rest ih =>
    have hsource : ∀ e ∈ edgesOf entry.1 entry.2, e.source = entry.1 := fun e he =>
      (mem_edgesOf.mp he).1
    rw [List.flatMap_cons, List.filter_append, ← ih, List.filter_cons]
    by_cases hp : p entry.1 = true
    · have hhas : kept.has entry.1 = vertices.has entry.1 := by rw [hkept, hp, Bool.true_and]
      have hall : (if vertices.has entry.1 then edgesOf entry.1 entry.2 else []).filter
          (fun e => p e.source) = if vertices.has entry.1 then edgesOf entry.1 entry.2 else [] := by
        refine List.filter_eq_self.mpr fun e he => ?_
        split at he
        · rw [hsource e he]
          exact hp
        · exact absurd he List.not_mem_nil
      rw [if_pos hp, List.flatMap_cons, hhas, hall]
    · have hnone : (if vertices.has entry.1 then edgesOf entry.1 entry.2 else []).filter
          (fun e => p e.source) = [] := by
        refine List.filter_eq_nil_iff.mpr fun e he => ?_
        split at he
        · rw [hsource e he]
          exact hp
        · exact absurd he List.not_mem_nil
      rw [if_neg hp, hnone, List.nil_append]

/-- The references between existing entities are those of the whole snapshot with both ends among
them. -/
theorem admitted_existing (s : Snapshot) :
    admitted s.existing.entities s.existing.associations =
      (admitted s.entities s.associations).filter fun e =>
        s.hasTable e.source && s.hasTable e.target := by
  have hkept : ∀ name,
      Table.has name (Table.ofEntries (s.existing.entities.map fun e => (e.name, e))) =
        (s.hasTable name &&
          Table.has name (Table.ofEntries (s.entities.map fun e => (e.name, e)))) := by
    intro name
    have hinner : Table.has name (Table.ofEntries (s.existing.entities.map fun e => (e.name, e)))
      = s.hasTable name := Snapshot.has_ofExisting_eq s name
    rw [hinner]
    cases h : s.hasTable name with
    | false => rfl
    | true => exact (Snapshot.has_of_hasTable h).symm
  simp only [admitted, Snapshot.existing_associations, offered_filter_source hkept,
    List.filter_filter]
  refine List.filter_congr fun e _ => ?_
  rw [hkept]
  ac_rfl

/-- The edges among existing entities are the edges of the whole graph between them, each with the
same association. -/
theorem edges_ofExisting (s : Snapshot) : (ofExisting s).edges =
    (ofSnapshot s).edges.filter fun e => s.hasTable e.source && s.hasTable e.target := by
  show (build s.existing.entities s.existing.associations).edges =
    (build s.entities s.associations).edges.filter _
  rw [edges_build, edges_build, admitted_existing]
  exact (filter_firstOfEach Edge.triple (fun x => s.hasTable x.1 && s.hasTable x.2.1) _).symm

/-- A reference between existing entities stands in their graph, or an earlier one of its name. -/
theorem exists_edge_of_reference {s : Snapshot} {source target : String} {a : Association}
    (hsource : s.hasTable source = true) (htarget : s.hasTable target = true)
    (ha : a ∈ s.associationsOf source) (href : a.refersTo target = true) :
    ∃ e ∈ (ofExisting s).edges, e.triple = (source, target, a.name) := by
  obtain ⟨owned, hentry, hmem⟩ := Table.mem_of_mem_findD ha
  obtain ⟨e, he, htriple⟩ : ∃ e ∈ (ofSnapshot s).edges, e.triple = (source, target, a.name) :=
    exists_edge_build hentry hmem href (Snapshot.has_of_hasTable hsource)
      (Snapshot.has_of_hasTable htarget)
  obtain ⟨hs, ht, _⟩ := Edge.triple_eq htriple
  refine ⟨e, ?_, htriple⟩
  rw [edges_ofExisting, List.mem_filter, hs, ht, hsource, htarget]
  exact ⟨he, rfl⟩

/-! ## The paths that stay -/

theorem way_ofSnapshot {s : Snapshot} {source target : String} {path : List Edge}
    (h : Route.Way (ofExisting s) source path target) :
    Route.Way (ofSnapshot s) source path target :=
  h.mono fun e he => by
    rw [edges_ofExisting] at he
    exact (List.mem_filter.mp he).1

theorem hasTable_of_way {s : Snapshot} {source target : String} {path : List Edge}
    (h : Route.Way (ofExisting s) source path target) (hsource : s.hasTable source = true) :
    ∀ name ∈ source :: path.map (·.target), s.hasTable name = true := by
  refine h.forall_mem hsource fun e he => ?_
  rw [edges_ofExisting] at he
  have hends := (List.mem_filter.mp he).2
  rw [Bool.and_eq_true] at hends
  exact hends.2

/-- The graph among existing entities has the names with a table that exists for its vertices, and
for its edges exactly those of the whole graph whose ends are both among them, each with the same
association and in the same order. Restricting twice is restricting once. A path that is found in it
is a path of the whole graph through its vertices only, and the path that the whole graph gives, one
with the fewest hops, is no longer. -/
theorem existing_part (s : Snapshot) :
    (∀ name, name ∈ (ofExisting s).names ↔ ∃ e ∈ s.entities, e.present = true ∧ e.name = name) ∧
    (ofExisting s).edges =
      (ofSnapshot s).edges.filter (fun e =>
        (ofExisting s).names.contains e.source && (ofExisting s).names.contains e.target) ∧
    s.existing.existing = s.existing ∧
    ∀ source target names, Route.resolve (ofExisting s) source target = .ok names →
      (∃ path, Route.Way (ofSnapshot s) source path target ∧
        path.map (·.association.name) = names ∧
        ∀ name ∈ source :: path.map (·.target), name ∈ (ofExisting s).names) ∧
      ∃ shortest, Route.resolve (ofSnapshot s) source target = .ok shortest ∧
        (∀ others, Route.Hops (ofSnapshot s) source others target →
          shortest.length ≤ others.length) ∧
        shortest.length ≤ names.length := by
  have hnames : ∀ name, name ∈ (ofExisting s).names ↔ s.hasTable name = true := by
    intro name
    rw [← Snapshot.has_ofExisting_eq]
    exact Table.has_iff_mem_names.symm
  have hcontains : ∀ name, (ofExisting s).names.contains name = s.hasTable name := by
    intro name
    rw [Bool.eq_iff_iff, List.contains_iff_mem, hnames]
  refine ⟨fun name => (hnames name).trans Snapshot.hasTable_iff, ?_, s.existing_existing, ?_⟩
  · simp only [hcontains]
    exact edges_ofExisting s
  · intro source target names hok
    obtain ⟨hs, ht, hhops⟩ := Route.hops_of_resolve hok
    obtain ⟨path, hway, hpath⟩ := hhops.exists_way
    have hsource : s.hasTable source = true := (Snapshot.has_ofExisting_eq s source).symm.trans hs
    have htarget : s.hasTable target = true := (Snapshot.has_ofExisting_eq s target).symm.trans ht
    have hwhole := way_ofSnapshot hway
    refine ⟨⟨path, hwhole, hpath, fun name hname => ?_⟩, ?_⟩
    · exact (hnames name).mpr (hasTable_of_way hway hsource name hname)
    · obtain ⟨shortest, hshortest, _, hleast⟩ :=
        Route.resolve_of_hops (Snapshot.has_of_hasTable hsource)
          (Snapshot.has_of_hasTable htarget) hwhole.hops
      refine ⟨shortest, hshortest, hleast, ?_⟩
      rw [← hpath]
      exact hleast _ hwhole.hops

/-! ## A detour around a table that is missing -/

/-- Comments on posts of a blog, and on drafts, whose table is missing. Posts are listed twice. -/
def blogEntries : Snapshot :=
  { entities :=
      [⟨"Comment", "comments", some "id", [], true⟩, ⟨"Post", "old_posts", some "id", [], false⟩,
       ⟨"Post", "posts", some "id", [], true⟩, ⟨"Draft", "drafts", some "id", [], false⟩,
       ⟨"Blog", "blogs", some "id", [], true⟩, ⟨"Owner", "owners", some "id", [], true⟩]
    associations :=
      [("Comment", [reference "draft" "draft_id" "Draft", reference "post" "post_id" "Post"]),
       ("Draft", [reference "writer" "writer_id" "Owner"]),
       ("Post", [reference "blog" "blog_id" "Blog"]),
       ("Blog", [reference "owner" "owner_id" "Owner"])]
    schemaVersion := none }

theorem existing_part_blog :
    Route.resolve (ofExisting blogEntries) "Comment" "Owner" = .ok ["post", "blog", "owner"] ∧
      Route.resolve (ofSnapshot blogEntries) "Comment" "Owner" = .ok ["draft", "writer"] ∧
      ∃ path, Route.Way (ofSnapshot blogEntries) "Comment" path "Owner" ∧
        path.map (·.association.name) = ["post", "blog", "owner"] ∧
        ∀ name ∈ "Comment" :: path.map (·.target), name ∈ ["Comment", "Post", "Blog", "Owner"] := by
  have hok : Route.resolve (ofExisting blogEntries) "Comment" "Owner" =
      .ok ["post", "blog", "owner"] := by decide +kernel
  have hnames : (ofExisting blogEntries).names = ["Comment", "Post", "Blog", "Owner"] := by
    decide +kernel
  obtain ⟨_, _, _, hpaths⟩ := existing_part blogEntries
  obtain ⟨⟨path, hway, hpath, hstays⟩, _⟩ := hpaths "Comment" "Owner" _ hok
  rw [hnames] at hstays
  exact ⟨hok, by decide +kernel, path, hway, hpath, hstays⟩

end EntityGraph

end EntityAtlas
