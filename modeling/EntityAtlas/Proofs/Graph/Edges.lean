import EntityAtlas.Graph.Route
import EntityAtlas.Proofs.Table

/-!
# Edges of the entity graph

A reference is a belongs-to association with a fixed target. The edges of a built graph are the
references between its vertices, of those with the same owner, target and name only the first; so
every edge is an association that its owner declares, leads from a vertex to a vertex, and differs
from every other edge in its source, its target or its name. Since the names of parallel edges
differ, the choice among them is never tied.
-/

namespace EntityAtlas

/-- Whether an association is a reference to the entity of that name. -/
def Association.refersTo (a : Association) (target : String) : Bool :=
  a.kind = .belongsTo && a.target = .direct target

theorem Association.refersTo_iff {a : Association} {target : String} :
    a.refersTo target = true ↔ a.isEdge = true ∧ a.targetEntity? = some target := by
  cases ht : a.target <;> simp [refersTo, isEdge, isPolymorphic, targetEntity?, ht]

/-- A belongs-to association on one pair of columns. -/
def reference (name column goal : String) : Association :=
  ⟨name, .belongsTo, .direct goal, [], [(column, "id")], none⟩

/-- What tells an edge from the others: its ends and its name. -/
def Edge.triple (e : Edge) : String × String × String := (e.source, e.target, e.association.name)

theorem Edge.triple_eq {e : Edge} {source target name : String}
    (h : e.triple = (source, target, name)) :
    e.source = source ∧ e.target = target ∧ e.association.name = name := by
  simpa [Edge.triple] using h

theorem Edge.same_eq (e f : Edge) : e.same f = decide (e.triple = f.triple) := by
  simp [Edge.same, Edge.triple, Bool.decide_and, Bool.and_assoc]

namespace EntityGraph

/-- The references of some associations of an owner, as edges. -/
def edgesOf (owner : String) (owned : List Association) : List Edge :=
  owned.filterMap fun a =>
    match a.targetEntity? with
    | some target => if a.isEdge then some ⟨owner, target, a⟩ else none
    | none => none

theorem mem_edgesOf {owner : String} {owned : List Association} {e : Edge} :
    e ∈ edgesOf owner owned ↔
      e.source = owner ∧ e.association ∈ owned ∧ e.association.refersTo e.target = true := by
  unfold edgesOf
  rw [List.mem_filterMap, Association.refersTo_iff]
  constructor
  · rintro ⟨a, ha, hae⟩
    cases ht : a.targetEntity? with
    | none => simp [ht] at hae
    | some target =>
      by_cases hedge : a.isEdge = true
      · simp only [ht, hedge, if_true, Option.some.injEq] at hae
        subst hae
        exact ⟨rfl, ha, hedge, ht⟩
      · simp [ht, hedge] at hae
  · rintro ⟨rfl, ha, hedge, ht⟩
    exact ⟨e.association, ha, by simp [ht, hedge]⟩

theorem offered_eq (vertices : Table Entity) (associations : Table (List Association)) :
    offered vertices associations = associations.flatMap fun entry =>
      if vertices.has entry.1 then edgesOf entry.1 entry.2 else [] := rfl

variable {entities : List Entity} {associations : Table (List Association)}

theorem has_build {name : String} :
    (build entities associations).has name = true ↔ ∃ e ∈ entities, e.name = name := by
  unfold has build
  rw [Table.has_ofEntries]
  simp

/-- An offered edge is declared by its source, which is a vertex, as a belongs-to association with
that target. -/
theorem mem_offered {vertices : Table Entity} {e : Edge} (h : e ∈ offered vertices associations) :
    vertices.has e.source = true ∧ e.association.refersTo e.target = true ∧
      ∃ owned, (e.source, owned) ∈ associations ∧ e.association ∈ owned := by
  rw [offered_eq] at h
  obtain ⟨⟨owner, owned⟩, hmem, he⟩ := List.mem_flatMap.mp h
  by_cases hv : vertices.has owner = true
  · rw [if_pos hv] at he
    obtain ⟨rfl, ha, href⟩ := mem_edgesOf.mp he
    exact ⟨hv, href, owned, hmem, ha⟩
  · rw [if_neg hv] at he
    exact absurd he List.not_mem_nil

/-- The references between vertices, in the order of their declaration and with repetitions. -/
def admitted (entities : List Entity) (associations : Table (List Association)) : List Edge :=
  let vertices : Table Entity := Table.ofEntries (entities.map fun e => (e.name, e))
  (offered vertices associations).filter (vertices.has ·.target)

theorem foldl_addEdge (offers : List Edge) : ∀ edges : List Edge,
    offers.foldl addEdge edges =
      edges ++ firstOfEach Edge.triple (offers.filter fun e => !edges.any (·.same e)) := by
  induction offers with
  | nil =>
    intro edges
    exact (List.append_nil edges).symm
  | cons e offers ih =>
    intro edges
    rw [List.foldl_cons, ih, List.filter_cons]
    by_cases hany : edges.any (·.same e) = true
    · simp [addEdge, hany]
    · have hadd : addEdge edges e = edges ++ [e] := if_neg hany
      have hnew : (!edges.any (·.same e)) = true := by simpa using hany
      rw [hadd, if_pos hnew, firstOfEach_cons, List.filter_filter, List.append_assoc]
      simp only [List.any_append, List.any_cons, List.any_nil, Bool.or_false, Bool.not_or,
        Edge.same_eq, Bool.and_comm, eq_comm, List.singleton_append, ne_eq, decide_not]

/-- A built graph keeps, of the references between its vertices, the first of each triple. -/
theorem edges_build : (build entities associations).edges =
    firstOfEach Edge.triple (admitted entities associations) := by
  show (admitted entities associations).foldl addEdge [] = _
  rw [foldl_addEdge]
  simp

/-- Any two edges of a built graph differ in their source, their target or their name. -/
theorem pairwise_edges_build :
    (build entities associations).edges.Pairwise fun e f => e.triple ≠ f.triple := by
  rw [edges_build]
  exact List.pairwise_map.mp (nodup_map_firstOfEach Edge.triple _)

/-- An edge of a built graph leads from a vertex to a vertex and is an association of its source. -/
theorem mem_edges_build {e : Edge} (h : e ∈ (build entities associations).edges) :
    (build entities associations).has e.source = true ∧
      (build entities associations).has e.target = true ∧ e.association.isEdge = true ∧
      e.association.targetEntity? = some e.target ∧
      ∃ owned, (e.source, owned) ∈ associations ∧ e.association ∈ owned := by
  rw [edges_build] at h
  have hadmitted := List.mem_of_find?_eq_some (mem_firstOfEach.mp h)
  obtain ⟨hoffered, htarget⟩ := List.mem_filter.mp hadmitted
  obtain ⟨hsource, href, howned⟩ := mem_offered hoffered
  obtain ⟨hedge, hdirect⟩ := Association.refersTo_iff.mp href
  exact ⟨hsource, htarget, hedge, hdirect, howned⟩

/-- A reference that a vertex declares to a vertex has an edge of its name between the two. -/
theorem exists_edge_build {source target : String} {owned : List Association} {a : Association}
    (howned : (source, owned) ∈ associations) (ha : a ∈ owned) (href : a.refersTo target = true)
    (hs : (build entities associations).has source = true)
    (ht : (build entities associations).has target = true) :
    ∃ e ∈ (build entities associations).edges, e.triple = (source, target, a.name) := by
  have hadmitted : ⟨source, target, a⟩ ∈ admitted entities associations := by
    refine List.mem_filter.mpr ⟨?_, ht⟩
    rw [offered_eq]
    refine List.mem_flatMap.mpr ⟨_, howned, ?_⟩
    rw [if_pos (show Table.has source (Table.ofEntries (entities.map fun e => (e.name, e))) = true
      from hs)]
    exact mem_edgesOf.mpr ⟨rfl, ha, href⟩
  refine List.mem_map.mp ?_
  rw [edges_build, mem_map_firstOfEach]
  exact List.mem_map.mpr ⟨_, hadmitted, rfl⟩

theorem mem_between {g : EntityGraph} {source target : String} {a : Association} :
    a ∈ g.between source target ↔ ⟨source, target, a⟩ ∈ g.edges := by
  unfold between
  rw [List.mem_map]
  constructor
  · rintro ⟨e, he, rfl⟩
    obtain ⟨hmem, hends⟩ := List.mem_filter.mp he
    obtain ⟨hs, ht⟩ : e.source = source ∧ e.target = target := by simpa using hends
    rw [← hs, ← ht]
    exact hmem
  · intro h
    exact ⟨_, List.mem_filter.mpr ⟨h, by simp⟩, rfl⟩

/-- Parallel edges of a built graph have pairwise distinct names. -/
theorem pairwise_names_between (source target : String) :
    ((build entities associations).between source target).Pairwise fun a b => a.name ≠ b.name := by
  unfold between
  rw [List.pairwise_map]
  refine (pairwise_edges_build.filter _).imp_of_mem ?_
  intro e f he hf hne hname
  have hes : e.source = source ∧ e.target = target := by simpa using (List.mem_filter.mp he).2
  have hfs : f.source = source ∧ f.target = target := by simpa using (List.mem_filter.mp hf).2
  exact hne (by simp [Edge.triple, hes, hfs, hname])

theorem mem_successors {g : EntityGraph} {source target : String} :
    target ∈ g.successors source ↔ ∃ a, ⟨source, target, a⟩ ∈ g.edges := by
  unfold successors
  rw [List.mem_eraseDups, List.mem_map]
  constructor
  · rintro ⟨e, he, rfl⟩
    obtain ⟨hmem, hs⟩ := List.mem_filter.mp he
    have hsource : e.source = source := by simpa using hs
    exact ⟨e.association, hsource ▸ hmem⟩
  · rintro ⟨a, h⟩
    exact ⟨_, List.mem_filter.mpr ⟨h, by simp⟩, rfl⟩

theorem mem_predecessors {g : EntityGraph} {source target : String} :
    source ∈ g.predecessors target ↔ target ∈ g.successors source := by
  rw [mem_successors]
  unfold predecessors
  rw [List.mem_eraseDups, List.mem_map]
  constructor
  · rintro ⟨e, he, rfl⟩
    obtain ⟨hmem, ht⟩ := List.mem_filter.mp he
    have htarget : e.target = target := by simpa using ht
    exact ⟨e.association, htarget ▸ hmem⟩
  · rintro ⟨a, h⟩
    exact ⟨_, List.mem_filter.mpr ⟨h, by simp⟩, rfl⟩

end EntityGraph

namespace Route

/-- The choice among associations with pairwise distinct names is one of them. -/
theorem pickAmong_ok {source target : String} {candidates : List Association}
    (hnd : candidates.Pairwise fun a b => a.name ≠ b.name) (hne : candidates ≠ []) :
    ∃ a ∈ candidates, pickAmong source target candidates = .ok a := by
  have hperm := List.mergeSort_perm candidates preferred
  unfold pickAmong
  cases hs : candidates.mergeSort preferred with
  | nil =>
    rw [hs] at hperm
    exact absurd hperm.symm.eq_nil hne
  | cons a rest =>
    rw [hs] at hperm
    have ha : a ∈ candidates := hperm.mem_iff.mp List.mem_cons_self
    cases rest with
    | nil => exact ⟨a, ha, rfl⟩
    | cons b rest =>
      have hsorted : (a :: b :: rest).Pairwise fun a b => a.name ≠ b.name :=
        (hperm.pairwise_iff fun h => h.symm).mpr hnd
      have hname : a.name ≠ b.name := (List.pairwise_cons.mp hsorted).1 b List.mem_cons_self
      have htied : tied a b = false := by simp [tied, hname]
      exact ⟨a, ha, by simp [htied]⟩

theorem pick_ok {entities : List Entity} {associations : Table (List Association)}
    {u v : String} (h : v ∈ (EntityGraph.build entities associations).successors u) :
    ∃ a, ⟨u, v, a⟩ ∈ (EntityGraph.build entities associations).edges ∧
      pick (EntityGraph.build entities associations) u v = .ok a := by
  obtain ⟨b, hb⟩ := EntityGraph.mem_successors.mp h
  have hne : (EntityGraph.build entities associations).between u v ≠ [] :=
    List.ne_nil_of_mem (EntityGraph.mem_between.mpr hb)
  obtain ⟨a, ha, hpick⟩ : ∃ a ∈ (EntityGraph.build entities associations).between u v,
      pick (EntityGraph.build entities associations) u v = .ok a :=
    pickAmong_ok (EntityGraph.pairwise_names_between u v) hne
  exact ⟨a, EntityGraph.mem_between.mp ha, hpick⟩

end Route

end EntityAtlas
