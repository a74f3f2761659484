import EntityAtlas.Proofs.Graph.Existing
import EntityAtlas.Proofs.Graph.References

/-!
# Renamed and rearranged snapshots

Entities may be called by other names, as long as different ones keep different names, and a
snapshot may list its entities and associations in any order. Neither changes the shape of the
graph: its vertices correspond one to one, and between corresponding vertices there are as many
parallel edges. Which association stands on an edge may change, since of several with one name the
first is kept.
-/

namespace EntityAtlas

/-! ## Renaming -/

/-- A target under its new name. -/
def Target.rename (f : String → String) : Target → Target
  | .direct entity => .direct (f entity)
  | .polymorphic => .polymorphic

/-- An association with its target under its new name. -/
def Association.rename (f : String → String) (a : Association) : Association :=
  { a with target := a.target.rename f }

/-- An entity under its new name. -/
def Entity.rename (f : String → String) (e : Entity) : Entity := { e with name := f e.name }

/-- A snapshot with all entities under their new names. -/
def Snapshot.rename (f : String → String) (s : Snapshot) : Snapshot :=
  { s with
    entities := s.entities.map (·.rename f)
    associations := s.associations.map fun entry => (f entry.1, entry.2.map (·.rename f)) }

section Rename

variable {f : String → String}

theorem Association.refersTo_rename (hf : Function.Injective f) (a : Association) (name : String) :
    (a.rename f).refersTo (f name) = a.refersTo name := by
  cases ht : a.target <;> simp [refersTo, rename, Target.rename, ht, hf.eq_iff]

theorem Association.rename_id (a : Association) : a.rename id = a := by
  obtain ⟨name, kind, target, options, joinColumns, through⟩ := a
  cases target <;> rfl

namespace Snapshot

theorem associationsOf_rename (hf : Function.Injective f) (s : Snapshot) (name : String) :
    (s.rename f).associationsOf (f name) = (s.associationsOf name).map (·.rename f) := by
  have hfind : (s.rename f).associations.find? (f name) =
      (s.associations.find? name).map (List.map (·.rename f)) := Table.find?_rename hf _ name _
  unfold associationsOf Table.findD
  rw [hfind]
  cases s.associations.find? name <;> rfl

theorem names_rename (s : Snapshot) :
    (s.rename f).entities.map (·.name) = (s.entities.map (·.name)).map f := by
  simp [rename, Entity.rename, Function.comp_def]

theorem owners_rename (s : Snapshot) :
    (s.rename f).associations.names = s.associations.names.map f := by
  simp [rename, Table.names, Function.comp_def]

theorem existing_entities_rename (s : Snapshot) :
    (s.rename f).existing.entities = s.existing.entities.map (·.rename f) := List.filter_map ..

theorem hasTable_rename (hf : Function.Injective f) (s : Snapshot) (name : String) :
    (s.rename f).hasTable (f name) = s.hasTable name := by
  unfold hasTable
  rw [existing_entities_rename, List.any_map]
  congr 1
  funext e
  simp [Entity.rename, hf.eq_iff]

/-- Renaming and restricting to the tables that exist are independent. -/
theorem existing_rename (hf : Function.Injective f) (s : Snapshot) :
    (s.rename f).existing = s.existing.rename f := by
  have hassociations : (s.rename f).existing.associations = (s.existing.rename f).associations := by
    rw [existing_associations]
    show List.filter _ (List.map _ s.associations) = List.map _ (List.filter _ s.associations)
    rw [List.filter_map]
    refine congrArg _ (List.filter_congr fun entry _ => ?_)
    exact hasTable_rename hf s entry.1
  calc (s.rename f).existing
      = ⟨(s.rename f).existing.entities, (s.rename f).existing.associations, s.schemaVersion⟩ := rfl
    _ = s.existing.rename f := by
        rw [existing_entities_rename, hassociations]
        rfl

theorem rename_id (s : Snapshot) : s.rename id = s := by
  have hentities : s.entities.map (·.rename id) = s.entities := List.map_id _
  have hassociations : (s.associations.map fun entry => (id entry.1, entry.2.map (·.rename id))) =
      s.associations := by
    simp only [Association.rename_id, List.map_id', id]
  unfold rename
  rw [hentities, hassociations]

end Snapshot

end Rename

/-! ## Rearranging -/

/-- Two snapshots differ only in the order of their entities and owners, and as `R` allows in the
associations of an owner. -/
structure Snapshot.SameUpTo (R : List Association → List Association → Prop)
    (s s' : Snapshot) : Prop where
  entities : s.entities.Perm s'.entities
  owners : s.associations.names.Perm s'.associations.names
  associations : ∀ owner ∈ s.associations.names,
    R (s.associationsOf owner) (s'.associationsOf owner)
  version_eq : s.schemaVersion = s'.schemaVersion

namespace Snapshot.SameUpTo

variable {R R' : List Association → List Association → Prop} {s s' : Snapshot}

theorem mono (h : s.SameUpTo R s') (hR : ∀ l l', R l l' → R' l l') : s.SameUpTo R' s' :=
  ⟨h.entities, h.owners, fun owner howner => hR _ _ (h.associations owner howner), h.version_eq⟩

theorem hasTable_eq (h : s.SameUpTo R s') : s'.hasTable = s.hasTable := by
  funext name
  rw [Bool.eq_iff_iff, hasTable_iff, hasTable_iff]
  simp only [h.entities.mem_iff]

/-- An entity that owns nothing in one snapshot owns nothing in the other. -/
theorem associationsOf (h : s.SameUpTo R s') (hR : R [] []) (name : String) :
    R (s.associationsOf name) (s'.associationsOf name) := by
  by_cases howner : name ∈ s.associations.names
  · exact h.associations name howner
  · have hnone : ∀ t : Table (List Association), name ∉ t.names → t.findD name [] = [] :=
      fun t ht => by rw [Table.findD, Table.find?_eq_none_iff.mpr ht, Option.getD_none]
    unfold Snapshot.associationsOf
    rw [hnone _ howner, hnone _ (mt h.owners.mem_iff.mpr howner)]
    exact hR

theorem existing (h : s.SameUpTo R s') : s.existing.SameUpTo R s'.existing := by
  have hnames : ∀ s : Snapshot, s.existing.associations.names =
      s.associations.names.filter s.hasTable := fun s => by
    unfold Table.names
    rw [existing_associations, List.filter_map]
    rfl
  refine ⟨h.entities.filter _, ?_, fun owner howner => ?_, h.version_eq⟩
  · rw [hnames, hnames, h.hasTable_eq]
    exact h.owners.filter _
  · rw [hnames, List.mem_filter] at howner
    rw [associationsOf_existing, associationsOf_existing, h.hasTable_eq, if_pos howner.2,
      if_pos howner.2]
    exact h.associations owner howner.1

end Snapshot.SameUpTo

/-! ## Graphs of one shape -/

namespace EntityGraph

/-- The vertices of two graphs correspond by new names, and between any two there are as many
edges. -/
structure Renamed (f : String → String) (g g' : EntityGraph) : Prop where
  names_perm : (g.names.map f).Perm g'.names
  multiplicity_eq : ∀ u ∈ g.names, ∀ v ∈ g.names, g'.multiplicity (f u) (f v) = g.multiplicity u v

/-- The number of parallel edges between two entities is that of the different names of the
references from the one to the other. -/
theorem multiplicity_ofSnapshot {s : Snapshot} (howners : s.associations.names.Nodup)
    {source target : String} (hs : source ∈ s.entities.map (·.name))
    (ht : target ∈ s.entities.map (·.name)) :
    (ofSnapshot s).multiplicity source target =
      (((s.associationsOf source).filter (·.refersTo target)).map (·.name)).eraseDups.length := by
  unfold multiplicity ofSnapshot
  rw [between_build howners, if_pos ⟨hs, ht⟩, ← map_firstOfEach, List.length_map]
  rfl

theorem mem_names_ofSnapshot {s : Snapshot} {name : String} :
    name ∈ (ofSnapshot s).names ↔ name ∈ s.entities.map (·.name) := by
  rw [ofSnapshot, names_build, List.mem_eraseDups]

variable {f : String → String} {s s' : Snapshot}

theorem renamed_ofSnapshot (hf : Function.Injective f) (hnames : (s.entities.map (·.name)).Nodup)
    (howners : s.associations.names.Nodup) (h : (s.rename f).SameUpTo List.Perm s') :
    Renamed f (ofSnapshot s) (ofSnapshot s') := by
  have hlisted : ((s.entities.map (·.name)).map f).Perm (s'.entities.map (·.name)) := by
    rw [← Snapshot.names_rename]
    exact h.entities.map _
  have howners' : s'.associations.names.Nodup := by
    rw [← h.owners.nodup_iff, Snapshot.owners_rename]
    exact howners.map hf
  constructor
  · rw [ofSnapshot, ofSnapshot, names_build, names_build, eraseDups_of_nodup hnames,
      eraseDups_of_nodup (hlisted.nodup_iff.mp (hnames.map hf))]
    exact hlisted
  · intro u hu v hv
    rw [mem_names_ofSnapshot] at hu hv
    have hreferences : (((s.associationsOf u).filter (·.refersTo v)).map (·.name)).Perm
        (((s'.associationsOf (f u)).filter (·.refersTo (f v))).map (·.name)) := by
      have howned := h.associationsOf (List.Perm.refl []) (f u)
      have hrefers : ((·.refersTo (f v)) ∘ (·.rename f) : Association → Bool) = (·.refersTo v) :=
        funext fun a => a.refersTo_rename hf v
      rw [Snapshot.associationsOf_rename hf] at howned
      have hfiltered := (howned.filter (·.refersTo (f v))).map (·.name)
      rwa [List.filter_map, List.map_map, hrefers] at hfiltered
    rw [multiplicity_ofSnapshot howners hu hv, multiplicity_ofSnapshot howners'
      (hlisted.mem_iff.mp (List.mem_map_of_mem hu)) (hlisted.mem_iff.mp (List.mem_map_of_mem hv))]
    exact (perm_eraseDups hreferences).symm.length_eq

/-- The graphs of the existing entities of two snapshots that differ only in order and names have
one shape. -/
theorem renamed_ofExisting (hf : Function.Injective f) (hnames : (s.entities.map (·.name)).Nodup)
    (howners : s.associations.names.Nodup) (h : (s.rename f).SameUpTo List.Perm s') :
    Renamed f (ofExisting s) (ofExisting s') := by
  refine renamed_ofSnapshot hf ?_ ?_ ?_
  · exact hnames.sublist (List.filter_sublist.map _)
  · exact howners.sublist (List.filter_sublist.map _)
  · rw [← Snapshot.existing_rename hf]
    exact h.existing

end EntityGraph

end EntityAtlas
