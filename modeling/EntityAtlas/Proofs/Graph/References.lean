import EntityAtlas.Proofs.Graph.Edges
import Mathlib.Data.Set.Card

/-!
# The edges are the declared references

A mapping declares a reference for an owner, a target and a name if the list of the owner holds a
belongs-to association of that name with that target. The triples of a built graph are those of the
references between listed entities, each once, and between two entities stands, for every name, the
association that was declared first.
-/

namespace EntityAtlas.EntityGraph

/-- The references of an owner to one target. -/
theorem edgesOf_filter (owner target : String) (owned : List Association) :
    (edgesOf owner owned).filter (fun e => e.source = owner && e.target = target) =
      (owned.filter (·.refersTo target)).map (Edge.mk owner target) := by
  induction owned with
  | nil => rfl
  | cons a owned ih =>
    have hrest : edgesOf owner (a :: owned) = edgesOf owner [a] ++ edgesOf owner owned := by
      simp only [edgesOf, ← List.filterMap_append, List.singleton_append]
    rw [hrest, List.filter_append, ih, List.filter_cons]
    by_cases ha : a.refersTo target = true
    · obtain ⟨hedge, ht⟩ := Association.refersTo_iff.mp ha
      simp [edgesOf, hedge, ht, ha]
    · have hnone : (edgesOf owner [a]).filter (fun e => e.source = owner && e.target = target) =
          [] := by
        refine List.filter_eq_nil_iff.mpr fun e he hends => ?_
        obtain ⟨_, hmem, href⟩ := mem_edgesOf.mp he
        have htarget : e.target = target := by
          simp only [Bool.and_eq_true, decide_eq_true_eq] at hends
          exact hends.2
        rw [List.mem_singleton.mp hmem, htarget] at href
        exact ha href
      rw [hnone, if_neg ha, List.nil_append]

section Build

variable {entities : List Entity} {associations : Table (List Association)}

/-- The edges from one vertex to another that a mapping with one list for every owner offers. -/
theorem offered_filter (vertices : Table Entity) (hnd : associations.names.Nodup)
    (source target : String) :
    (offered vertices associations).filter (fun e => e.source = source && e.target = target) =
      if vertices.has source then
        ((associations.findD source []).filter (·.refersTo target)).map (Edge.mk source target)
      else [] := by
  rw [offered_eq]
  induction associations with
  | nil => simp [Table.findD, Table.find?]
  | cons entry rest ih =>
    obtain ⟨owner, owned⟩ := entry
    obtain ⟨hnew, hnd⟩ : owner ∉ Table.names rest ∧ (Table.names rest).Nodup :=
      List.nodup_cons.mp hnd
    rw [List.flatMap_cons, List.filter_append, ih hnd]
    by_cases howner : owner = source
    · subst howner
      have hnone : Table.find? owner rest = none := Table.find?_eq_none_iff.mpr hnew
      by_cases hv : vertices.has owner = true
      · simp [hv, hnone, edgesOf_filter, Table.findD, Table.find?]
      · simp [hv]
    · have hother : (if vertices.has owner then edgesOf owner owned else []).filter
          (fun e => e.source = source && e.target = target) = [] := by
        refine List.filter_eq_nil_iff.mpr fun e he hends => howner ?_
        have hsource : e.source = owner := by
          by_cases hv : vertices.has owner = true
          · rw [if_pos hv] at he
            exact (mem_edgesOf.mp he).1
          · rw [if_neg hv] at he
            exact absurd he List.not_mem_nil
        simp only [Bool.and_eq_true, decide_eq_true_eq] at hends
        rw [← hsource, hends.1]
      have hfind : Table.findD source [] ((owner, owned) :: rest) = Table.findD source [] rest := by
        simp [Table.findD, Table.find?, howner]
      rw [hother, hfind, List.nil_append]

theorem has_vertices {name : String} :
    Table.has name (Table.ofEntries (entities.map fun e => (e.name, e))) = true ↔
      name ∈ entities.map (·.name) := by
  rw [Table.has_ofEntries, List.map_map]
  rfl

/-- The associations between two entities are, of the references of the one to the other, the first
of each name. -/
theorem between_build (hnd : associations.names.Nodup) (source target : String) :
    (build entities associations).between source target =
      if source ∈ entities.map (·.name) ∧ target ∈ entities.map (·.name) then
        firstOfEach (·.name) ((associations.findD source []).filter (·.refersTo target))
      else [] := by
  have hends : ((build entities associations).edges.filter fun e =>
        e.source = source && e.target = target) =
      firstOfEach Edge.triple ((admitted entities associations).filter fun e =>
        e.source = source && e.target = target) := by
    rw [edges_build]
    exact filter_firstOfEach Edge.triple (fun x => x.1 = source && x.2.1 = target) _
  have hadmitted : (admitted entities associations).filter (fun e =>
        e.source = source && e.target = target) =
      if source ∈ entities.map (·.name) ∧ target ∈ entities.map (·.name) then
        ((associations.findD source []).filter (·.refersTo target)).map (Edge.mk source target)
      else [] := by
    unfold admitted
    rw [List.filter_comm, offered_filter _ hnd]
    by_cases hs : source ∈ entities.map (·.name)
    · rw [if_pos (has_vertices.mpr hs), List.filter_map]
      by_cases ht : target ∈ entities.map (·.name)
      · rw [if_pos ⟨hs, ht⟩]
        have hall := has_vertices.mpr ht
        simp [Function.comp_def, hall]
      · rw [if_neg fun h => ht h.2]
        have hall := Bool.eq_false_iff.mpr fun h => ht (has_vertices.mp h)
        simp [Function.comp_def, hall]
    · rw [if_neg fun h => hs (has_vertices.mp h), if_neg fun h => hs h.1]
      rfl
  unfold between
  rw [hends, hadmitted]
  by_cases hv : source ∈ entities.map (·.name) ∧ target ∈ entities.map (·.name)
  · rw [if_pos hv, if_pos hv, map_firstOfEach_eq Edge.triple Edge.association (·.name)]
    · simp [Function.comp_def]
    · intro e he f hf
      obtain ⟨a, _, rfl⟩ := List.mem_map.mp he
      obtain ⟨b, _, rfl⟩ := List.mem_map.mp hf
      simp [Edge.triple]
  · rw [if_neg hv, if_neg hv]
    rfl

theorem has_iff_mem_names {g : EntityGraph} {name : String} :
    g.has name = true ↔ name ∈ g.names := Table.has_iff_mem_names

/-- The triples of a built graph are those of its edges. -/
theorem mem_triples_build {x : String × String × String} :
    x ∈ (build entities associations).triples ↔
      x ∈ (build entities associations).edges.map Edge.triple := by
  obtain ⟨source, target, name⟩ := x
  unfold triples
  simp only [List.mem_flatMap, List.mem_map, mem_between, mem_successors]
  constructor
  · rintro ⟨s, _, t, _, a, ha, heq⟩
    obtain ⟨rfl, rfl, rfl⟩ : s = source ∧ t = target ∧ a.name = name := by simpa using heq
    exact ⟨_, ha, rfl⟩
  · rintro ⟨e, he, heq⟩
    obtain ⟨rfl, rfl, rfl⟩ := Edge.triple_eq heq
    have hsource := has_iff_mem_names.mp (mem_edges_build he).1
    exact ⟨e.source, hsource, e.target, ⟨e.association, he⟩, e.association, he, rfl⟩

theorem names_build :
    (build entities associations).names = (entities.map (·.name)).eraseDups := by
  have h := Table.names_ofEntries (entities.map fun e => (e.name, e))
  rw [List.map_map] at h
  exact h

theorem nodup_names_build : (build entities associations).names.Nodup := by
  rw [names_build]
  exact nodup_eraseDups _

/-- Every edge is listed once. -/
theorem nodup_triples_build : (build entities associations).triples.Nodup := by
  unfold triples
  rw [List.nodup_flatMap]
  refine ⟨fun s _ => ?_, nodup_names_build.imp fun {s s'} hne => ?_⟩
  · rw [List.nodup_flatMap]
    refine ⟨fun t _ => ?_, (nodup_eraseDups _).imp fun {t t'} hne => ?_⟩
    · refine List.pairwise_map.mpr ((pairwise_names_between s t).imp fun hname heq => hname ?_)
      simpa using heq
    · intro x hx hx'
      obtain ⟨a, _, rfl⟩ := List.mem_map.mp hx
      obtain ⟨b, _, heq⟩ := List.mem_map.mp hx'
      have htarget : t' = t := by simpa using (Prod.mk.inj (Prod.mk.inj heq).2).1
      exact hne htarget.symm
  · intro x hx hx'
    obtain ⟨t, _, hxt⟩ := List.mem_flatMap.mp hx
    obtain ⟨t', _, hxt'⟩ := List.mem_flatMap.mp hx'
    obtain ⟨a, _, rfl⟩ := List.mem_map.mp hxt
    obtain ⟨b, _, heq⟩ := List.mem_map.mp hxt'
    exact hne (Prod.mk.inj heq).1.symm

theorem edgeCount_build :
    (build entities associations).edgeCount = (build entities associations).triples.length := by
  have hnodup : ((build entities associations).edges.map Edge.triple).Nodup := by
    rw [edges_build]
    exact nodup_map_firstOfEach Edge.triple _
  have hperm := (List.perm_ext_iff_of_nodup hnodup nodup_triples_build).mpr fun _ =>
    mem_triples_build.symm
  rw [edgeCount, ← hperm.length_eq, List.length_map]

theorem mem_triples_iff_between {source target name : String} :
    (source, target, name) ∈ (build entities associations).triples ↔
      name ∈ ((build entities associations).between source target).map (·.name) := by
  rw [mem_triples_build, List.mem_map, List.mem_map]
  constructor
  · rintro ⟨e, he, heq⟩
    obtain ⟨rfl, rfl, rfl⟩ := Edge.triple_eq heq
    exact ⟨e.association, mem_between.mpr he, rfl⟩
  · rintro ⟨a, ha, rfl⟩
    exact ⟨_, mem_between.mp ha, rfl⟩

/-- All references of a mapping, as edges. -/
def declared (associations : Table (List Association)) : List Edge :=
  associations.flatMap fun entry => edgesOf entry.1 entry.2

theorem length_edgesOf (owner : String) (owned : List Association) :
    (edgesOf owner owned).length = owned.countP (·.isEdge) := by
  unfold edgesOf
  rw [List.length_filterMap_eq_countP]
  congr 1
  funext a
  cases ht : a.target with
  | direct target =>
    by_cases hedge : a.isEdge = true <;> simp [Association.targetEntity?, ht, hedge]
  | polymorphic =>
    simp [Association.targetEntity?, Association.isEdge, Association.isPolymorphic, ht]

/-- Where all owners and targets are listed, no reference is left out. -/
theorem admitted_eq_declared
    (h : ∀ e ∈ declared associations,
      e.source ∈ entities.map (·.name) ∧ e.target ∈ entities.map (·.name)) :
    admitted entities associations = declared associations := by
  have hoffered : offered (Table.ofEntries (entities.map fun e => (e.name, e))) associations =
      declared associations := by
    rw [offered_eq, declared]
    refine List.flatMap_congr fun entry hentry => ?_
    by_cases hv : Table.has entry.1 (Table.ofEntries (entities.map fun e => (e.name, e))) = true
    · rw [if_pos hv]
    · rw [if_neg hv, eq_comm, List.eq_nil_iff_forall_not_mem]
      intro e he
      have hsource := (h e (List.mem_flatMap.mpr ⟨entry, hentry, he⟩)).1
      rw [(mem_edgesOf.mp he).1] at hsource
      exact hv (has_vertices.mpr hsource)
  simp only [admitted, hoffered]
  exact List.filter_eq_self.mpr fun e he => has_vertices.mpr (h e he).2

end Build

/-- The references between listed entities, as owner, target and name. -/
def Refers (entities : List Entity) (associations : Table (List Association))
    (x : String × String × String) : Prop :=
  x.1 ∈ entities.map (·.name) ∧ x.2.1 ∈ entities.map (·.name) ∧
    ∃ a ∈ associations.findD x.1 [],
      a.kind = .belongsTo ∧ a.target = .direct x.2.1 ∧ a.name = x.2.2

/-- A graph holds exactly the references that a mapping declares between some entities. -/
structure HoldsReferences (entities : List Entity) (associations : Table (List Association))
    (g : EntityGraph) : Prop where
  /-- The vertices are the distinct names in the order of their first occurrence. -/
  names_eq : g.names = (entities.map (·.name)).eraseDups
  /-- The edges are the references between vertices. -/
  mem_triples : ∀ x, x ∈ g.triples ↔ Refers entities associations x
  /-- Every edge occurs once. -/
  nodup_triples : g.triples.Nodup
  /-- The number of edges is that of the distinct references. -/
  edgeCount_eq : g.edgeCount = {x | Refers entities associations x}.ncard
  /-- Where every owner and target is listed and no reference is repeated, that is the number of
  belongs-to associations that are not polymorphic. -/
  edgeCount_all :
    (∀ e ∈ declared associations,
      e.source ∈ entities.map (·.name) ∧ e.target ∈ entities.map (·.name)) →
    ((declared associations).map Edge.triple).Nodup →
    g.edgeCount = (associations.flatMap (·.2)).countP fun a =>
      a.kind = .belongsTo && !a.isPolymorphic
  /-- Between two vertices stands, for every name of a reference, the first association of it. -/
  between_eq : ∀ source target, g.between source target =
    if source ∈ entities.map (·.name) ∧ target ∈ entities.map (·.name) then
      firstOfEach (·.name) ((associations.findD source []).filter fun a =>
        a.kind = .belongsTo && a.target = .direct target)
    else []

/-- The graph of a list of entities and a mapping with one list for every owner holds exactly the
references declared between them. -/
theorem build_holds_references (entities : List Entity) {associations : Table (List Association)}
    (hnd : associations.names.Nodup) :
    HoldsReferences entities associations (build entities associations) := by
  have hmem : ∀ x, x ∈ (build entities associations).triples ↔
      Refers entities associations x := by
    rintro ⟨source, target, name⟩
    rw [mem_triples_iff_between, between_build hnd, Refers]
    by_cases hv : source ∈ entities.map (·.name) ∧ target ∈ entities.map (·.name)
    · rw [if_pos hv, map_firstOfEach, List.mem_eraseDups, List.mem_map]
      simp [hv.1, hv.2, Association.refersTo, and_assoc]
    · rw [if_neg hv]
      exact ⟨fun h => absurd h List.not_mem_nil, fun h => absurd ⟨h.1, h.2.1⟩ hv⟩
  refine ⟨names_build, hmem, nodup_triples_build, ?_, ?_, fun s t => between_build hnd s t⟩
  · have hset : {x | Refers entities associations x} =
        ↑(build entities associations).triples.toFinset := by
      ext x
      simp [hmem]
    rw [hset, Set.ncard_coe_finset, List.toFinset_card_of_nodup nodup_triples_build,
      edgeCount_build]
  · intro hlisted honce
    rw [edgeCount, edges_build, admitted_eq_declared hlisted, firstOfEach_of_nodup honce, declared,
      List.length_flatMap, List.countP_flatMap]
    exact congrArg List.sum (List.map_congr_left fun entry _ => length_edgesOf entry.1 entry.2)

/-! ## Pages, their authors and their parents -/

/-- Pages, listed twice, and authors. -/
def pageEntities : List Entity :=
  [⟨"Page", "pages", some "id", [], true⟩, ⟨"Author", "authors", some "id", [], true⟩,
   ⟨"Page", "old_pages", none, [], false⟩]

/-- References of pages, one of them repeated, one to themselves and one to nothing that is listed,
next to associations of other kinds. -/
def pageAssociations : Table (List Association) :=
  [("Ghost", [reference "author" "author_id" "Author"]),
   ("Page",
     [reference "author" "author_id" "Author", reference "parent" "parent_id" "Page",
      ⟨"children", .hasMany, .direct "Page", [], [("id", "parent_id")], none⟩,
      reference "author" "owner_id" "Author",
      ⟨"subject", .belongsTo, .polymorphic, [], [], none⟩,
      reference "editor" "editor_id" "Author", reference "site" "site_id" "Site"])]

theorem build_holds_references_pages :
    pageAssociations.names.Nodup ∧ {x | Refers pageEntities pageAssociations x}.ncard = 3 ∧
      Refers pageEntities pageAssociations ("Page", "Page", "parent") ∧
      (build pageEntities pageAssociations).between "Page" "Author" =
        [reference "author" "author_id" "Author", reference "editor" "editor_id" "Author"] := by
  have hnd : pageAssociations.names.Nodup := by decide +kernel
  have h := build_holds_references pageEntities hnd
  refine ⟨hnd, ?_, (h.mem_triples _).mp (by decide +kernel), by decide +kernel⟩
  rw [← h.edgeCount_eq]
  decide +kernel

end EntityAtlas.EntityGraph
