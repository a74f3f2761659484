import EntityAtlas.Proofs.Except
import EntityAtlas.Proofs.Ranking.Referenced
import EntityAtlas.Proofs.Request.Listing

/-!
# Referenced entities are listed first

Among the existing entities an edge leads to a name exactly if some of them belongs to it. Their
graph is always ranked unless it is empty, and the listing is sorted by rank before anything else.
So the entities that others belong to come first, whatever their ranks are, and the others follow
with one rank and thus in the order of their names.
-/

namespace EntityAtlas

/-- An entity whose table exists belongs to the one of that name. -/
def Snapshot.BelongedTo (s : Snapshot) (name : String) : Prop :=
  ∃ e ∈ s.entities, e.present = true ∧
    ∃ a ∈ s.associationsOf e.name, a.kind = .belongsTo ∧ a.target = .direct name

namespace EntityGraph

variable {s : Snapshot}

theorem mem_names_ofExisting {name : String} :
    name ∈ (ofExisting s).names ↔ s.hasTable name = true := by
  rw [← Snapshot.has_ofExisting_eq]
  exact Table.has_iff_mem_names.symm

/-- The edges to an existing entity are the references of existing entities to it. -/
theorem referenced_ofExisting (howners : s.associations.names.Nodup) {name : String}
    (hname : s.hasTable name = true) : (ofExisting s).Referenced name ↔ s.BelongedTo name := by
  constructor
  · rintro ⟨source, hsource, hedges⟩
    obtain ⟨a, ha⟩ := List.exists_mem_of_length_pos (Nat.pos_of_ne_zero hedges)
    obtain ⟨e, he, hpresent, rfl⟩ := Snapshot.hasTable_iff.mp (mem_names_ofExisting.mp hsource)
    obtain ⟨_, _, hedge, htarget, owned, howned, hmem⟩ := mem_edges_build (mem_between.mp ha)
    have hentry : (e.name, owned) ∈ s.associations := (List.mem_filter.mp howned).1
    have hfind : s.associations.find? e.name = some owned := Table.find?_of_mem howners hentry
    have hrefers := Association.refersTo_iff.mpr ⟨hedge, htarget⟩
    refine ⟨e, he, hpresent, a, ?_, by simpa [Association.refersTo] using hrefers⟩
    rw [Snapshot.associationsOf, Table.findD, hfind]
    exact hmem
  · rintro ⟨e, he, hpresent, a, ha, hkind, htarget⟩
    have hsource : s.hasTable e.name = true := Snapshot.hasTable_iff.mpr ⟨e, he, hpresent, rfl⟩
    have hrefers : a.refersTo name = true := by simp [Association.refersTo, hkind, htarget]
    obtain ⟨edge, hedge, htriple⟩ := exists_edge_of_reference hsource hname ha hrefers
    obtain ⟨hs, ht, _⟩ := Edge.triple_eq htriple
    refine ⟨e.name, mem_names_ofExisting.mpr hsource, ?_⟩
    have hmem : edge.association ∈ (ofExisting s).between e.name name := by
      rw [mem_between, ← hs, ← ht]
      exact hedge
    exact (List.length_pos_of_mem hmem).ne'

end EntityGraph

namespace Schema

variable {s : Snapshot}

/-- No entity that none belongs to comes before one that some entity belongs to, and those that none
belongs to are in the order of their names. -/
structure ReferencedFirst (s : Snapshot) (response : SchemaResponse ℚ) : Prop where
  first : response.entities.Pairwise fun a b => s.BelongedTo b.name → s.BelongedTo a.name
  rest : response.entities.Pairwise fun a b =>
    ¬ s.BelongedTo a.name → ¬ s.BelongedTo b.name → a.name ≤ b.name

theorem hasTable_of_lists {response : SchemaResponse ℚ} (h : Lists s response)
    {shown : EntitySchema ℚ} (hshown : shown ∈ response.entities) :
    s.hasTable shown.name = true := by
  obtain ⟨order, hperm, hshows⟩ := h.entities
  obtain ⟨e, he, hshow⟩ := exists_related hshows hshown
  obtain ⟨hmem, hpresent⟩ := List.mem_filter.mp (hperm.mem_iff.mp he)
  exact Snapshot.hasTable_iff.mpr ⟨e, hmem, hpresent, hshow.name_eq.symm⟩

/-- A listing that is sorted by ranks which separate the referenced entities has them first. -/
theorem referencedFirst_of_ranked (howners : s.associations.names.Nodup) {ranks : Table ℚ}
    {least : ℚ} (hseparates : Ranking.Separates (EntityGraph.ofExisting s) ranks least)
    {response : SchemaResponse ℚ} (hlists : Lists s response) (hranked : RankedBy ranks response) :
    ReferencedFirst s response := by
  -- the rank of a listed entity tells whether some entity belongs to it
  have hrank : ∀ e ∈ response.entities, ∃ r, e.rank = some r ∧
      (¬ s.BelongedTo e.name → r = least) ∧ (s.BelongedTo e.name → least < r) := by
    intro e he
    obtain ⟨r, hfind, hr⟩ := hranked.rank_eq e he
    have hiff := EntityGraph.referenced_ofExisting howners (hasTable_of_lists hlists he)
    obtain ⟨hleast, hmore⟩ := hseparates _ (Table.mem_of_find?_eq_some hfind)
    exact ⟨r, hr, fun h => hleast (hiff.not.mpr h), fun h => hmore (hiff.mpr h)⟩
  have hless : ∀ r t : ℚ, Scalar.less r t = true ↔ r < t := fun _ _ => decide_eq_true_iff
  refine ⟨hranked.sorted.imp_of_mem ?_, hranked.sorted.imp_of_mem ?_⟩
  · intro a b ha hb hab hbelonged
    obtain ⟨r, hr, hleast, _⟩ := hrank a ha
    obtain ⟨t, ht, _, hmore⟩ := hrank b hb
    by_contra hnone
    have hlt : r < t := by
      rw [hleast hnone]
      exact hmore hbelonged
    exact (hab r t hr ht).1 ((hless r t).mpr hlt)
  · intro a b ha hb hab hnone hnone'
    obtain ⟨r, hr, hleast, _⟩ := hrank a ha
    obtain ⟨t, ht, hleast', _⟩ := hrank b hb
    refine (hab r t hr ht).2 fun hlt => ?_
    rw [hless, hleast hnone, hleast' hnone'] at hlt
    exact lt_irrefl _ hlt

theorem describes_referencedFirst (howners : s.associations.names.Nodup) :
    ∃ response warnings, Describes .usualExact s response warnings ∧ Lists s response ∧
      ReferencedFirst s response := by
  by_cases hsize : (EntityGraph.ofExisting s).size = 0
  · -- without a vertex nothing is listed
    have hfault : Ranking.rank .usualExact (EntityGraph.ofExisting s) = .error .empty := by
      rw [Ranking.rank_eq, Ranking.settled, if_pos hsize]
      rfl
    have hlists := lists_listing (α := ℚ) s []
    have hnone : ∀ e, e ∉ (listing s.existing ([] : Table ℚ)).entities := by
      intro e he
      have hvertex := EntityGraph.mem_names_ofExisting.mpr (hasTable_of_lists hlists he)
      rw [List.length_eq_zero_iff.mp ((Ranking.length_names _).trans hsize)] at hvertex
      exact absurd hvertex List.not_mem_nil
    have hempty := List.eq_nil_iff_forall_not_mem.mpr hnone
    refine ⟨_, _, describes_of_fault hfault, hlists, ?_, ?_⟩
    · rw [hempty]
      exact List.Pairwise.nil
    · rw [hempty]
      exact List.Pairwise.nil
  · have h0 : 0 < RankingOptions.usualExact.damping := one_half_pos
    have h1 : RankingOptions.usualExact.damping < 1 := one_half_lt_one
    obtain ⟨ranks, iterations, _, hrank⟩ := Ranking.rank_usualExact_settles hsize
    obtain ⟨least, hseparates⟩ := Ranking.exists_separates h0 h1 hrank
    have hlists := lists_listing s ranks
    exact ⟨_, _, describes_of_rank hrank, hlists,
      referencedFirst_of_ranked howners hseparates hlists (rankedBy_listing hrank)⟩

/-- With a damping factor between zero and one, a ranking that succeeds gives all vertices that no
edge leads to one rank, and every vertex that some edge leads to a higher one. So the schema of a
snapshot with one list of associations for every owner has the existing entities that some existing
entity belongs to first, and then the others in the order of their names. -/
theorem referenced_first :
    (∀ (o : RankingOptions ℚ) (g : EntityGraph), 0 < o.damping → o.damping < 1 →
      ∀ ranks iterations, Ranking.rank o g = .ok (ranks, iterations) →
        ∃ least, Ranking.Separates g ranks least) ∧
    ∀ s : Snapshot, s.associations.names.Nodup →
      ∃ response warnings, Describes .usualExact s response warnings ∧ Lists s response ∧
        ReferencedFirst s response :=
  ⟨fun _ _ h0 h1 _ _ h => Ranking.exists_separates h0 h1 h,
    fun _ howners => describes_referencedFirst howners⟩

/-! ## Branches of a shop -/

/-- Branches belong to a city and to a branch that they are part of, and visits to a branch; the
table of countries is missing. -/
def branchSnapshot : Snapshot :=
  { entities :=
      [⟨"Visit", "visits", some "id", [], true⟩, ⟨"Branch", "branches", some "id", [], true⟩,
       ⟨"Country", "countries", some "id", [], false⟩, ⟨"Advert", "adverts", none, [], true⟩,
       ⟨"City", "cities", some "id", [], true⟩]
    associations :=
      [("Visit", [reference "branch" "branch_id" "Branch"]),
       ("Branch", [reference "city" "city_id" "City", reference "parent" "parent_id" "Branch"]),
       ("City", [reference "country" "country_id" "Country"]),
       ("Country", [reference "advert" "advert_id" "Advert"])]
    schemaVersion := none }

/-- Nothing that exists belongs to visits or adverts. -/
def branchRanks : Table ℚ :=
  [("Visit", 65536 / 360449), ("Branch", 262145 / 720898), ("Advert", 65536 / 360449),
   ("City", 196609 / 720898)]

theorem referenced_first_branches :
    Ranking.rank .usualExact (EntityGraph.ofExisting branchSnapshot) = .ok (branchRanks, 9) ∧
    (∃ least, Ranking.Separates (EntityGraph.ofExisting branchSnapshot) branchRanks least) ∧
    branchSnapshot.associations.names.Nodup ∧
    ∃ response warnings, Describes .usualExact branchSnapshot response warnings ∧
      Lists branchSnapshot response ∧ ReferencedFirst branchSnapshot response := by
  have hrank : Ranking.rank .usualExact (EntityGraph.ofExisting branchSnapshot) =
      .ok (branchRanks, 9) := by decide +kernel
  have howners : branchSnapshot.associations.names.Nodup := by decide +kernel
  have h0 : 0 < RankingOptions.usualExact.damping := one_half_pos
  have h1 : RankingOptions.usualExact.damping < 1 := one_half_lt_one
  have hseparates := referenced_first.1 .usualExact (EntityGraph.ofExisting branchSnapshot) h0 h1
    _ _ hrank
  exact ⟨hrank, hseparates, howners, referenced_first.2 branchSnapshot howners⟩

end Schema

end EntityAtlas
