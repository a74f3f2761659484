import EntityAtlas.Proofs.Entity.Guarantees
import EntityAtlas.Proofs.Graph.Existing

/-!
# Names that are declared more than once

A declaration may use a name twice, and then what the name stands for depends on who asks. The
snapshot finds the first descriptor; the entity graph and the conventions take the last one; the
graph of the existing entities has the name if any of its descriptors has a table; and only the
associations of the last descriptor are kept. For a name that is declared once all of these speak
of one entity.
-/

namespace EntityAtlas.Declaration

/-- The entries of a declaration that have a name. -/
def named (name : String) (entries : List (Entity × List Association)) :
    List (Entity × List Association) :=
  entries.filter (·.1.name = name)

/-! ## The first and the last of a name -/

variable {entries : List (Entity × List Association)} {name : String}

theorem head?_named :
    (named name entries).head?.map (·.1) = (entries.map (·.1)).find? (·.name = name) := by
  rw [named, List.head?_filter, List.find?_map]
  rfl

theorem getLast?_named :
    (named name entries).getLast? = entries.reverse.find? (·.1.name = name) := by
  rw [named, ← List.head?_reverse, ← List.filter_reverse, List.head?_filter]

theorem find?_described_named : (described (entries.map (·.1))).find? name =
    (named name entries).getLast?.map (·.1) := by
  rw [find?_described, getLast?_named, ← List.map_reverse, List.find?_map]
  rfl

theorem find?_declared : (declared entries).find? name =
    (named name entries).getLast?.map (·.2) := by
  rw [declared, Table.find?_ofEntries, getLast?_named, ← List.map_reverse, List.find?_map,
    Option.map_map]
  rfl

theorem mem_named {entry : Entity × List Association} :
    entry ∈ named name entries ↔ entry ∈ entries ∧ entry.1.name = name := by
  rw [named, List.mem_filter, decide_eq_true_eq]

/-! ## What a name stands for -/

/-- The entity and the associations that a name stands for, in each place where it is looked up:
`declarations` are the entries under that name. -/
structure Resolves (s : Snapshot) (declarations : List (Entity × List Association))
    (name : String) : Prop where
  first : s.entity? name = declarations.head?.map (·.1)
  vertex : (EntityGraph.ofSnapshot s).entity? name = declarations.getLast?.map (·.1)
  convention : (described s.entities).find? name = declarations.getLast?.map (·.1)
  existing : (EntityGraph.ofExisting s).has name = true ↔
    ∃ entry ∈ declarations, entry.1.present = true
  owned : s.associationsOf name = (declarations.getLast?.map fun entry =>
    entry.2.map (withConventions (described s.entities) entry.1)).getD []

/-- A name stands for one entity wherever it is looked up, and no association that is declared for
it is lost. -/
structure OneEntity (s : Snapshot) (declarations : List (Entity × List Association))
    (name : String) : Prop where
  vertex : (EntityGraph.ofSnapshot s).entity? name = s.entity? name
  convention : (described s.entities).find? name = s.entity? name
  existing : (EntityGraph.ofExisting s).has name = true ↔
    ∃ e, s.entity? name = some e ∧ e.present = true
  kept : ∀ entry ∈ declarations, ∀ a ∈ entry.2,
    withConventions (described s.entities) entry.1 a ∈ s.associationsOf name

theorem associationsOf_complete {s : Snapshot} {table : Table Entity}
    (h : s.associations = (declared entries).map (complete table))
    (htable : table.find? name = (named name entries).getLast?.map (·.1)) :
    s.associationsOf name = ((named name entries).getLast?.map fun entry =>
      entry.2.map (withConventions table entry.1)).getD [] := by
  have hcomplete : s.associations = (declared entries).map fun e =>
      (e.1, (complete table (e.1, e.2)).2) := by
    rw [h]
    exact List.map_congr_left fun e _ => Prod.ext (complete_fst table e) rfl
  rw [Snapshot.associationsOf, Table.findD, hcomplete,
    Table.find?_mapValues (fun owner owned => (complete table (owner, owned)).2), find?_declared]
  cases hlast : (named name entries).getLast? with
  | none => rfl
  | some entry =>
    rw [hlast] at htable
    simp [complete, htable]

theorem resolves_named {s : Snapshot} (hentities : s.entities = entries.map (·.1))
    (hassociations : s.associations = (declared entries).map (complete (described s.entities)))
    (name : String) : Resolves s (named name entries) name := by
  have hconvention :
      (described s.entities).find? name = (named name entries).getLast?.map (·.1) := by
    rw [hentities]
    exact find?_described_named
  refine ⟨?_, hconvention, hconvention, ?_, associationsOf_complete hassociations hconvention⟩
  · rw [head?_named, ← hentities]
    rfl
  · rw [Snapshot.has_ofExisting, hentities]
    constructor
    · rintro ⟨e, he, hpresent, hname⟩
      obtain ⟨entry, hentry, rfl⟩ := List.mem_map.mp he
      exact ⟨entry, mem_named.mpr ⟨hentry, hname⟩, hpresent⟩
    · rintro ⟨entry, hentry, hpresent⟩
      obtain ⟨hmem, hname⟩ := mem_named.mp hentry
      exact ⟨entry.1, List.mem_map_of_mem hmem, hpresent, hname⟩

/-- A name that is declared at most once stands for one entity. -/
theorem Resolves.oneEntity {s : Snapshot} {declarations : List (Entity × List Association)}
    (h : Resolves s declarations name) (honce : declarations.length ≤ 1) :
    OneEntity s declarations name := by
  match declarations, honce, h with
  | [], _, h =>
    refine ⟨h.vertex.trans h.first.symm, h.convention.trans h.first.symm, h.existing.trans ?_, ?_⟩
    · rw [h.first]
      simp
    · intro entry hentry
      exact absurd hentry List.not_mem_nil
  | [entry], _, h =>
    refine ⟨h.vertex.trans h.first.symm, h.convention.trans h.first.symm, h.existing.trans ?_, ?_⟩
    · rw [h.first]
      simp
    · intro other hother a ha
      rw [List.mem_singleton.mp hother] at ha ⊢
      rw [h.owned]
      exact List.mem_map_of_mem ha

/-- What every name stands for in a snapshot that was read: the snapshot finds the first entity
declared under it, its graph and the conventions take the last, the graph of existing entities has
it if any of them has a table, and the associations are those of the last. A name that is declared
at most once stands for one entity. -/
theorem read_resolves {d : Document} {s : Snapshot} (h : read d = .ok s) :
    ∃ entries, Declares d entries ∧ s.entities = entries.map (·.1) ∧
      s.associations = (declared entries).map (complete (described s.entities)) ∧
      ∀ name, Resolves s (named name entries) name ∧
        ((named name entries).length ≤ 1 → OneEntity s (named name entries) name) := by
  obtain ⟨fields, items, entries, hd, hitems, hentries, hentities, hassociations, _⟩ :=
    read_eq_ok.mp h
  rw [← hentities] at hassociations
  refine ⟨entries, ⟨fields, items, hd, hitems, hentries⟩, hentities, hassociations, fun name => ?_⟩
  have hresolves := resolves_named hentities hassociations name
  exact ⟨hresolves, hresolves.oneEntity⟩

/-! ## Pages that are declared twice -/

/-- Pages of an author in a table that is missing, and pages in another table that have none. -/
def pageDocument : Document :=
  .record
    [("entities", .list
      [.record
        [("name", .text "Page"), ("table_name", .text "old_pages"), ("exists", .bool false),
         ("associations", .list
          [.record [("name", .text "author"), ("target_entity", .text "Author")]])],
       .record [("name", .text "Author"), ("table_name", .text "authors")],
       .record [("name", .text "Page"), ("table_name", .text "pages")]])]

/-- Pages as the snapshot finds them. -/
def oldPage : Entity := ⟨"Page", "old_pages", some "id", [], false⟩

/-- Pages as the graph has them. -/
def newPage : Entity := ⟨"Page", "pages", some "id", [], true⟩

/-- What is read of the pages. -/
def pageSnapshot : Snapshot :=
  { entities := [oldPage, ⟨"Author", "authors", some "id", [], true⟩, newPage]
    associations := [("Page", []), ("Author", [])]
    schemaVersion := none }

theorem read_resolves_pages :
    read pageDocument = .ok pageSnapshot ∧
    ∃ entries, Declares pageDocument entries ∧ Resolves pageSnapshot (named "Page" entries) "Page" ∧
      OneEntity pageSnapshot (named "Author" entries) "Author" := by
  have hread : read pageDocument = .ok pageSnapshot := by decide +kernel
  obtain ⟨entries, hdeclares, hentities, _, hresolves⟩ := read_resolves hread
  have honce : (named "Author" entries).length ≤ 1 := by
    have hnames : ((named "Author" entries).map (·.1)).length =
        (pageSnapshot.entities.filter (·.name = "Author")).length := by
      rw [hentities, named, List.filter_map]
      rfl
    rw [List.length_map] at hnames
    rw [hnames]
    decide +kernel
  exact ⟨hread, entries, hdeclares, (hresolves "Page").1, (hresolves "Author").2 honce⟩

/-- The pages that the snapshot finds have no table and are not those of the graph; the graph of
existing entities has them nevertheless, and their author is lost. -/
theorem pages_disagree :
    ∃ s author, read pageDocument = .ok s ∧
      Declares pageDocument
        [(oldPage, [author]), (⟨"Author", "authors", some "id", [], true⟩, []), (newPage, [])] ∧
      s.entity? "Page" = some oldPage ∧ (EntityGraph.ofSnapshot s).entity? "Page" = some newPage ∧
      (EntityGraph.ofExisting s).has "Page" = true ∧ s.associationsOf "Page" = [] ∧
      ¬ OneEntity s [(oldPage, [author]), (newPage, [])] "Page" := by
  have hread : read pageDocument = .ok pageSnapshot := by decide +kernel
  have hfirst : pageSnapshot.entity? "Page" = some oldPage := by decide +kernel
  have hvertex : (EntityGraph.ofSnapshot pageSnapshot).entity? "Page" = some newPage := by
    decide +kernel
  refine ⟨pageSnapshot, ⟨"author", .belongsTo, .direct "Author", [], [], none⟩, hread,
    ⟨_, _, rfl, rfl, ?_⟩, hfirst, hvertex, by decide +kernel, by decide +kernel, fun h => ?_⟩
  · exact .cons (by decide +kernel) (.cons (by decide +kernel) (.cons (by decide +kernel) .nil))
  · have hsame := h.vertex
    rw [hfirst, hvertex] at hsame
    exact absurd hsame (by decide +kernel)

end EntityAtlas.Declaration
