import EntityAtlas.Proofs.Ranking.Reindexing
import EntityAtlas.Proofs.Request.Listing

/-!
# The listing does not depend on the order of the snapshot

Snapshots that list the same entities in different orders have graphs of one shape, so their
entities have the same ranks; and where no two entities have the same name, rank and name decide the
place of every entity in the listing. Under new names every entity keeps its rank. All of this is
about exact numbers: rounding depends on the order in which sums are taken.
-/

namespace EntityAtlas.Schema

open Scalar

/-! ## Sorting -/

section Sorting

variable {α : Type} [Scalar α] {ranks ranks' : Table α}

theorem weight_congr (h : ∀ name, ranks'.find? name = ranks.find? name) :
    weight ranks' = weight ranks := by
  funext e
  rw [weight, weight, Table.findD, Table.findD, h]

theorem notAfter_congr (h : ∀ name, ranks'.find? name = ranks.find? name) :
    notAfter ranks' = notAfter ranks := by
  funext a b
  rw [notAfter, notAfter, weight_congr h]

variable [Scalar.Ordered α]

/-- Sorting entities of different names forgets their order. -/
theorem sorted_eq_of_perm (hranks : ∀ entry ∈ ranks, isNaN entry.2 = false)
    {entities entities' : List Entity} (hnd : (entities.map (·.name)).Nodup)
    (hperm : entities.Perm entities') :
    entities'.mergeSort (notAfter ranks) = entities.mergeSort (notAfter ranks) := by
  refine List.Perm.eq_of_pairwise ?_ (pairwise_notAfter hranks entities')
    (pairwise_notAfter hranks entities) ?_
  · intro a b ha hb hab hba
    exact List.inj_on_of_nodup_map hnd (hperm.mem_iff.mpr (List.mem_mergeSort.mp ha))
      (List.mem_mergeSort.mp hb) (name_eq_of_notAfter hab hba)
  · exact (List.mergeSort_perm _ _).trans (hperm.symm.trans (List.mergeSort_perm _ _).symm)

end Sorting

/-! ## Snapshots that differ in order and names -/

variable {s s' : Snapshot} {f : String → String}

/-- The ranks of two snapshots that differ only in order and names are the same up to the names, if
there are any. -/
theorem describes_renamed (o : RankingOptions ℚ) (hf : Function.Injective f)
    (hnames : (s.entities.map (·.name)).Nodup) (howners : s.associations.names.Nodup)
    (h : (s.rename f).SameUpTo List.Perm s') :
    ∃ ranks ranks' warnings, Describes o s (listing s.existing ranks) warnings ∧
      Describes o s' (listing s'.existing ranks') warnings ∧
      ranks'.isEmpty = ranks.isEmpty ∧
      ∀ name, Table.find? (f name) ranks' = Table.find? name ranks := by
  have hshape := EntityGraph.renamed_ofExisting hf hnames howners h
  rcases Ranking.rank_renamed o hf EntityGraph.nodup_names_build hshape with
    ⟨fault, hrank, hrank'⟩ | ⟨ranks, ranks', iterations, hrank, hrank', hfind⟩
  · exact ⟨[], [], _, describes_of_fault hrank, describes_of_fault hrank', rfl, fun _ => rfl⟩
  · refine ⟨ranks, ranks', _, describes_of_rank hrank, describes_of_rank hrank', ?_, hfind⟩
    rw [List.isEmpty_eq_false_iff.mpr (Ranking.ne_nil_rank hrank),
      List.isEmpty_eq_false_iff.mpr (Ranking.ne_nil_rank hrank')]

/-- The entities of two snapshots that differ only in order are listed in the same order. -/
theorem sorted_sameUpTo {R : List Association → List Association → Prop} {ranks ranks' : Table ℚ}
    (hnames : (s.entities.map (·.name)).Nodup) (h : s.SameUpTo R s')
    (hfind : ∀ name, ranks'.find? name = ranks.find? name) :
    s'.existing.entities.mergeSort (notAfter ranks') =
      s.existing.entities.mergeSort (notAfter ranks) := by
  rw [notAfter_congr hfind]
  exact sorted_eq_of_perm (fun _ _ => rfl) (hnames.sublist (List.filter_sublist.map _))
    (h.entities.filter _)

theorem listing_eq {ranks ranks' : Table ℚ} (hnames : (s.entities.map (·.name)).Nodup)
    (h : s.SameUpTo Eq s') (hranked : ranks'.isEmpty = ranks.isEmpty)
    (hfind : ∀ name, ranks'.find? name = ranks.find? name) :
    listing s'.existing ranks' = listing s.existing ranks := by
  unfold listing
  rw [sorted_sameUpTo hnames h hfind, hranked, ← h.existing.version_eq]
  congr 2
  funext e
  rw [hfind, ← h.existing.associationsOf rfl]

/-- An entity of the schema is like another, but its associations may be in another order. -/
def SameUpToOrder (e e' : EntitySchema ℚ) : Prop :=
  e' = { e with associations := e'.associations } ∧ e.associations.Perm e'.associations

theorem entities_listing {ranks ranks' : Table ℚ} (hnames : (s.entities.map (·.name)).Nodup)
    (h : s.SameUpTo List.Perm s') (hfind : ∀ name, ranks'.find? name = ranks.find? name) :
    List.Forall₂ SameUpToOrder (listing s.existing ranks).entities
      (listing s'.existing ranks').entities := by
  show List.Forall₂ _ (List.map _ (s.existing.entities.mergeSort (notAfter ranks)))
    (List.map _ (s'.existing.entities.mergeSort (notAfter ranks')))
  rw [sorted_sameUpTo hnames h hfind, List.forall₂_map_left_iff, List.forall₂_map_right_iff,
    List.forall₂_same]
  intro e _
  rw [hfind]
  exact ⟨rfl, (h.existing.associationsOf (List.Perm.refl []) e.name).map _⟩

/-- Under new names every entity keeps its rank. -/
theorem ranks_listing {ranks ranks' : Table ℚ} (h : (s.rename f).SameUpTo List.Perm s')
    (hfind : ∀ name, Table.find? (f name) ranks' = Table.find? name ranks) :
    ((listing s.existing ranks).entities.map fun e => (f e.name, e.rank)).Perm
      ((listing s'.existing ranks').entities.map fun e => (e.name, e.rank)) := by
  have hlisted : ∀ (s : Snapshot) (ranks : Table ℚ) (f : String → String),
      ((listing s.existing ranks).entities.map fun e => (f e.name, e.rank)).Perm
        (s.existing.entities.map fun e => (f e.name, ranks.find? e.name)) := by
    intro s ranks f
    show (List.map _ (List.map _ (s.existing.entities.mergeSort (notAfter ranks)))).Perm _
    rw [List.map_map]
    exact (List.mergeSort_perm _ _).map _
  have hentities : (s.existing.entities.map fun e => (f e.name, ranks.find? e.name)).Perm
      (s'.existing.entities.map fun e => (e.name, ranks'.find? e.name)) := by
    have hperm := h.existing.entities.map fun e => (e.name, ranks'.find? e.name)
    rw [Snapshot.existing_entities_rename, List.map_map] at hperm
    simpa only [Function.comp_def, Entity.rename, hfind] using hperm
  exact (hlisted s ranks f).trans (hentities.trans (hlisted s' ranks' id).symm)

/-- In what order a snapshot with entities of different names lists its entities, and the owners of
associations, each once, makes no difference to its listing. If the associations of an owner are in
another order too, only the associations of listed entities change their order, while the entities
stay in their places with their ranks. Under new names every entity keeps its rank. -/
theorem describe_rearranged (o : RankingOptions ℚ) (hnames : (s.entities.map (·.name)).Nodup)
    (howners : s.associations.names.Nodup) :
    (∀ s', s.SameUpTo Eq s' → ∃ response warnings,
      Describes o s response warnings ∧ Describes o s' response warnings) ∧
    (∀ s', s.SameUpTo List.Perm s' → ∃ response response' warnings,
      Describes o s response warnings ∧ Describes o s' response' warnings ∧
      response' = { response with entities := response'.entities } ∧
      List.Forall₂ SameUpToOrder response.entities response'.entities) ∧
    ∀ f s', Function.Injective f → (s.rename f).SameUpTo List.Perm s' →
      ∃ response response' warnings,
        Describes o s response warnings ∧ Describes o s' response' warnings ∧
        response' = { response with entities := response'.entities } ∧
        (response.entities.map fun e => (f e.name, e.rank)).Perm
          (response'.entities.map fun e => (e.name, e.rank)) := by
  refine ⟨fun s' h => ?_, fun s' h => ?_, fun f s' hf h => ?_⟩
  · have hperm : (s.rename id).SameUpTo List.Perm s' :=
      s.rename_id.symm ▸ h.mono fun _ _ heq => List.Perm.of_eq heq
    obtain ⟨ranks, ranks', warnings, hs, hs', hranked, hfind⟩ :=
      describes_renamed o Function.injective_id hnames howners hperm
    rw [listing_eq hnames h hranked hfind] at hs'
    exact ⟨_, warnings, hs, hs'⟩
  · have hperm : (s.rename id).SameUpTo List.Perm s' := s.rename_id.symm ▸ h
    obtain ⟨ranks, ranks', warnings, hs, hs', hranked, hfind⟩ :=
      describes_renamed o Function.injective_id hnames howners hperm
    refine ⟨_, _, warnings, hs, hs', ?_, entities_listing hnames h hfind⟩
    simp only [listing, hranked, h.existing.version_eq]
  · obtain ⟨ranks, ranks', warnings, hs, hs', hranked, hfind⟩ :=
      describes_renamed o hf hnames howners h
    have hversion : s.existing.schemaVersion = s'.existing.schemaVersion := h.version_eq
    refine ⟨_, _, warnings, hs, hs', ?_, ranks_listing h hfind⟩
    simp only [listing, hranked, hversion]

/-! ## Tracks of albums, reported in several orders -/

/-- An association to many. -/
def collection (name goal : String) : Association :=
  ⟨name, .hasMany, .direct goal, [], [("id", goal ++ "_id")], none⟩

/-- Tracks and covers of albums by artists; the table of labels is missing. -/
def albumSnapshot : Snapshot :=
  { entities :=
      [⟨"Track", "tracks", some "id", ["title"], true⟩, ⟨"Album", "albums", some "id", [], true⟩,
       ⟨"Label", "labels", some "id", [], false⟩, ⟨"Cover", "covers", none, [], true⟩,
       ⟨"Artist", "artists", some "id", [], true⟩]
    associations :=
      [("Track", [reference "album" "album_id" "Album", reference "writer" "writer_id" "Artist",
         reference "singer" "singer_id" "Artist"]),
       ("Album", [reference "label" "label_id" "Label", collection "tracks" "Track",
         reference "artist" "artist_id" "Artist"]),
       ("Cover", [reference "album" "album_id" "Album"])]
    schemaVersion := some "12" }

/-- The same entities and owners in another order. -/
def albumShuffled : Snapshot :=
  { albumSnapshot with
    entities := albumSnapshot.entities.reverse
    associations := albumSnapshot.associations.reverse }

/-- The same associations in another order as well. -/
def albumReversed : Snapshot :=
  { albumShuffled with
    associations := albumShuffled.associations.map fun entry => (entry.1, entry.2.reverse) }

/-- A name with the name of its module. -/
def qualified (name : String) : String := "music." ++ name

theorem describe_rearranged_albums :
    (albumSnapshot.entities.map (·.name)).Nodup ∧ albumSnapshot.associations.names.Nodup ∧
    albumSnapshot.SameUpTo Eq albumShuffled ∧ albumSnapshot.SameUpTo List.Perm albumReversed ∧
    Function.Injective qualified ∧
    (albumSnapshot.rename qualified).SameUpTo List.Perm (albumReversed.rename qualified) ∧
    (∃ response warnings, Describes .usualExact albumSnapshot response warnings ∧
      Describes .usualExact albumShuffled response warnings) ∧
    (∃ response response' warnings, Describes .usualExact albumSnapshot response warnings ∧
      Describes .usualExact albumReversed response' warnings ∧
      response.entities.map (fun e => (e.name, e.rank)) =
        response'.entities.map fun e => (e.name, e.rank)) ∧
    ∃ response response' warnings, Describes .usualExact albumSnapshot response warnings ∧
      Describes .usualExact (albumReversed.rename qualified) response' warnings ∧
      (response.entities.map fun e => (qualified e.name, e.rank)).Perm
        (response'.entities.map fun e => (e.name, e.rank)) := by
  have hnames : (albumSnapshot.entities.map (·.name)).Nodup := by decide +kernel
  have howners : albumSnapshot.associations.names.Nodup := by decide +kernel
  have hshuffled : albumSnapshot.SameUpTo Eq albumShuffled :=
    ⟨by decide +kernel, by decide +kernel, by decide +kernel, rfl⟩
  have hreversed : albumSnapshot.SameUpTo List.Perm albumReversed :=
    ⟨by decide +kernel, by decide +kernel, by decide +kernel, rfl⟩
  have hqualified : Function.Injective qualified := fun a b h => by
    simpa [qualified] using h
  have hrenamed : (albumSnapshot.rename qualified).SameUpTo List.Perm
      (albumReversed.rename qualified) :=
    ⟨by decide +kernel, by decide +kernel, by decide +kernel, rfl⟩
  obtain ⟨horder, hinner, hnew⟩ := describe_rearranged .usualExact hnames howners
  obtain ⟨response, response', warnings, hs, hs', _, hentities⟩ := hinner _ hreversed
  obtain ⟨named, named', notes, hn, hn', _, hranks⟩ := hnew _ _ hqualified hrenamed
  refine ⟨hnames, howners, hshuffled, hreversed, hqualified, hrenamed, horder _ hshuffled,
    ⟨response, response', warnings, hs, hs', ?_⟩, named, named', notes, hn, hn', hranks⟩
  -- only the associations may differ
  have hkept : ∀ e e' : EntitySchema ℚ, SameUpToOrder e e' →
      (e.name, e.rank) = (e'.name, e'.rank) := fun e e' h => by rw [h.1]
  rw [← List.forall₂_eq_eq_eq, List.forall₂_map_left_iff, List.forall₂_map_right_iff]
  exact hentities.imp hkept

end EntityAtlas.Schema
