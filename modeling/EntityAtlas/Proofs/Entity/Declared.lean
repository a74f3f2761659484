import EntityAtlas.Entity.Declaration
import EntityAtlas.Proofs.Except
import EntityAtlas.Proofs.Validation.Reload

/-!
# What a declaration says

A declaration is read in steps, each of which may fail. Where all succeed, the snapshot is made of
what the steps yield: an entity for every item, and for every association its kind, target, options
and join columns. A kind, a target and options that were read fit together, and conventions change
nothing but the join columns.
-/

namespace EntityAtlas

namespace Declaration

variable {α : Type}

theorem asked_eq_ok {answer : Except Fault α} {a : α} : asked answer = .ok a ↔ answer = .ok a :=
  Except.mapError_eq_ok

theorem validated_eq_ok {title : String} {c : Checked α} {a : α} :
    validated title c = .ok a ↔ c = .valid a := by
  rw [validated, Except.mapError_eq_ok]
  cases c <;> simp [Checked.toExcept]

theorem fieldsVia_eq_ok {d : Document} {member : String} {fields : List (String × Document)} :
    d.fieldsVia member = .ok fields ↔ d = .record fields := by
  cases d <;> simp [Document.fieldsVia]

theorem part_eq_ok {d value : Document} {key : String} :
    d.part key = .ok value ↔
      ∃ fields, d = .record fields ∧ Table.find? key fields = some value := by
  cases d with
  | record fields => cases h : Table.find? key fields <;> simp [Document.part, h]
  | _ => simp [Document.part]

theorem text_read_eq_valid {d : Document} {s : String} :
    Format.text.read d = .valid s ↔ d = .text s := by
  cases d <;> simp [Format.text, Validation.text, Checked.problem]

/-! ## Column pairs -/

/-- A document spells column pairs if each of its elements has the two texts of a pair as its
elements. -/
def SpellsPairs (d : Document) (pairs : List (String × String)) : Prop :=
  ∃ items, d.elements = .ok items ∧
    List.Forall₂ (fun item p => item.elements = .ok [.text p.1, .text p.2]) items pairs

theorem columnPairs_read_eq_valid {d : Document} {pairs : List (String × String)} :
    columnPairs.read d = .valid pairs ↔ d = columnPairs.write pairs := by
  constructor
  · intro h
    obtain ⟨items, rfl, hitems⟩ := Format.listOr_read_eq_valid.mp h
    have hsame : List.Forall₂ Eq items (pairs.map Format.pair.write) := by
      rw [List.forall₂_map_right_iff]
      exact hitems.imp fun _ _ => Format.pair_read_eq_valid.mp
    rw [List.forall₂_eq_eq_eq] at hsame
    rw [hsame]
    rfl
  · rintro rfl
    exact Format.lawful_columnPairs pairs

theorem spellsPairs_iff {d : Document} {pairs : List (String × String)} :
    SpellsPairs d pairs ↔ ∃ lists, rows d = .ok lists ∧ columnPairs.read lists = .valid pairs := by
  have hpair : ∀ {item : Document} {p : String × String},
      item.elements = .ok [.text p.1, .text p.2] ↔
        ∃ l, item.elements = .ok l ∧ .list l = Format.pair.write p := by
    intro item p
    simp [Format.pair]
  simp only [SpellsPairs, rows, Except.bind_eq_ok, Except.pure_eq_ok, Except.mapM_eq_ok,
    asked_eq_ok, columnPairs_read_eq_valid]
  constructor
  · rintro ⟨items, hitems, hpairs⟩
    refine ⟨_, ⟨items, hitems, pairs.map Format.pair.write, ?_, rfl⟩, rfl⟩
    rw [List.forall₂_map_right_iff]
    exact hpairs.imp fun _ _ => hpair.mp
  · rintro ⟨_, ⟨items, hitems, lists, hlists, rfl⟩, hwrite⟩
    obtain rfl : lists = pairs.map Format.pair.write := Document.list.inj hwrite
    rw [List.forall₂_map_right_iff] at hlists
    exact ⟨items, hitems, hlists.imp fun _ _ => hpair.mpr⟩

theorem rows_write (pairs : List (String × String)) :
    rows (columnPairs.write pairs) = .ok (columnPairs.write pairs) := by
  have hspells : SpellsPairs (columnPairs.write pairs) pairs := by
    refine ⟨_, rfl, ?_⟩
    rw [List.forall₂_map_left_iff, List.forall₂_same]
    exact fun p _ => rfl
  obtain ⟨lists, hlists, hread⟩ := spellsPairs_iff.mp hspells
  rw [hlists, columnPairs_read_eq_valid.mp hread]

/-! ## Associations -/

/-- The kind, the target and the options of an association fit together: it is of the polymorphic
kind if and only if its target is, and in any case if an option says so. -/
structure Settled (a : Association) : Prop where
  kind_iff : a.kind = .polymorphic ↔ a.target = .polymorphic
  named : a.target ≠ .direct ""
  option : a.options.find? "polymorphic" = some "true" → a.kind = .polymorphic
  nodup : a.options.names.Nodup

theorem target_eq_ok {owner : String} {declared : AssociationKind} {opts : Table String}
    {fields : List (String × Document)} {k : AssociationKind} {t : Target} :
    target owner declared opts fields = .ok (k, t) ↔
      if declared = .polymorphic ∨ opts.find? "polymorphic" = some "true" then
        k = .polymorphic ∧ t = .polymorphic
      else ∃ name, fieldOrNull "target_entity" fields = .text name ∧ name ≠ "" ∧
        k = declared ∧ t = .direct name := by
  unfold target
  by_cases hpolymorphic : declared = .polymorphic ∨ opts.find? "polymorphic" = some "true"
  · simp only [if_pos hpolymorphic, Except.ok.injEq, Prod.mk.injEq]
    exact and_congr eq_comm eq_comm
  · simp only [if_neg hpolymorphic]
    by_cases htruthy : (fieldOrNull "target_entity" fields).isTruthy = true
    · rw [if_pos htruthy]
      simp only [Except.bind_eq_ok, Except.pure_eq_ok, validated_eq_ok, Checked.under_eq_valid,
        text_read_eq_valid, Prod.mk.injEq]
      constructor
      · rintro ⟨name, hname, rfl, rfl⟩
        refine ⟨name, hname, ?_, rfl, rfl⟩
        rintro rfl
        simp [hname, Document.isTruthy] at htruthy
      · rintro ⟨name, hname, -, rfl, rfl⟩
        exact ⟨name, hname, rfl, rfl⟩
    · rw [if_neg htruthy]
      simp only [reduceCtorEq, false_iff, not_exists, not_and]
      rintro name hname hne
      simp [hname, Document.isTruthy, hne] at htruthy

theorem nodup_options {d : Document} {opts : Table String} (h : options d = .ok opts) :
    opts.names.Nodup := by
  unfold options at h
  split at h
  · simp only [Except.bind_eq_ok, Except.pure_eq_ok] at h
    obtain ⟨fields, _, rfl⟩ := h
    exact Table.nodup_names_ofEntries _
  · cases h
    exact List.nodup_nil

/-- The parts of an association and what each is read from. -/
theorem association_eq_ok {owner : String} {d : Document} {a : Association}
    (h : association owner d = .ok a) :
    ∃ fields declared, d = .record fields ∧
      options (fieldOrNull "options" fields) = .ok a.options ∧
      target owner declared a.options fields = .ok (a.kind, a.target) ∧
      SpellsPairs (fieldD "join_columns" (.list []) fields) a.joinColumns := by
  unfold association at h
  simp only [Except.bind_eq_ok, asked_eq_ok, fieldsVia_eq_ok, validated_eq_ok,
    Checked.seq_eq_valid, Checked.map_eq_valid, Checked.under_eq_valid] at h
  obtain ⟨fields, rfl, declared, _, opts, hopts, ⟨k, t⟩, htarget, name, _, lists, hlists, through,
    _, _, pairs, ⟨_, _, rfl⟩, hpairs, rfl⟩ := h
  exact ⟨fields, declared, rfl, hopts, htarget, spellsPairs_iff.mpr ⟨lists, hlists, hpairs⟩⟩

theorem settled_association {owner : String} {d : Document} {a : Association}
    (h : association owner d = .ok a) : Settled a := by
  obtain ⟨fields, declared, _, hopts, htarget, _⟩ := association_eq_ok h
  have hnodup := nodup_options hopts
  rw [target_eq_ok] at htarget
  split at htarget
  · obtain ⟨hkind, htarget⟩ := htarget
    exact ⟨by simp [hkind, htarget], by simp [htarget], fun _ => hkind, hnodup⟩
  · rename_i hdirect
    obtain ⟨hdeclared, hoption⟩ := not_or.mp hdirect
    obtain ⟨name, _, hne, hkind, htarget⟩ := htarget
    exact ⟨by simp [hkind, htarget, hdeclared], by simp [htarget, hne], fun h => absurd h hoption,
      hnodup⟩

/-! ## Conventions -/

theorem conventional?_eq_some {owner target : Entity} {a : Association}
    {pairs : List (String × String)} (h : conventional? owner target a = some pairs) :
    ∃ p, pairs = [p] := by
  unfold conventional? at h
  split at h
  · obtain ⟨key, _, rfl⟩ := Option.map_eq_some_iff.mp h
    exact ⟨_, rfl⟩
  · obtain ⟨key, _, rfl⟩ := Option.map_eq_some_iff.mp h
    exact ⟨_, rfl⟩
  · obtain ⟨key, _, rfl⟩ := Option.map_eq_some_iff.mp h
    exact ⟨_, rfl⟩
  · cases h

/-- Conventions leave an association as it stands, or supply it with one pair of join
columns. -/
theorem withConventions_cases (entities : Table Entity) (owner : Entity) (a : Association) :
    withConventions entities owner a = a ∨ ∃ target p,
      entities.find? (a.targetEntity?.getD "") = some target ∧ a.joinColumns = [] ∧
      a.through = none ∧ conventional? owner target a = some [p] ∧
      withConventions entities owner a = { a with joinColumns := [p] } := by
  unfold withConventions
  cases htarget : entities.find? (a.targetEntity?.getD "") with
  | none => exact Or.inl rfl
  | some target =>
    by_cases hgiven : (!a.joinColumns.isEmpty || a.through.isSome) = true
    · exact Or.inl (if_pos hgiven)
    · simp only [if_neg hgiven]
      cases hpairs : conventional? owner target a with
      | none => exact Or.inl rfl
      | some pairs =>
        obtain ⟨p, rfl⟩ := conventional?_eq_some hpairs
        obtain ⟨hcolumns, hthrough⟩ : a.joinColumns = [] ∧ a.through = none := by
          simpa using hgiven
        exact Or.inr ⟨target, p, rfl, hcolumns, hthrough, hpairs, rfl⟩

theorem withConventions_withConventions (entities : Table Entity) (owner : Entity)
    (a : Association) :
    withConventions entities owner (withConventions entities owner a) =
      withConventions entities owner a := by
  rcases withConventions_cases entities owner a with hsame | ⟨target, p, htarget, _, _, _, hfilled⟩
  · rw [hsame, hsame]
  · have hfind : entities.find? ((withConventions entities owner a).targetEntity?.getD "") =
        some target := by
      rw [hfilled]
      exact htarget
    rw [withConventions, hfind, hfilled]
    rfl

theorem complete_complete (entities : Table Entity) (owned : String × List Association) :
    complete entities (complete entities owned) = complete entities owned := by
  obtain ⟨name, as⟩ := owned
  cases howner : entities.find? name with
  | none =>
    have hsame : complete entities (name, as) = (name, as) := by simp [complete, howner]
    rw [hsame, hsame]
  | some owner =>
    have hcomplete : ∀ as, complete entities (name, as) =
        (name, as.map (withConventions entities owner)) := fun as => by simp [complete, howner]
    rw [hcomplete, hcomplete, List.map_map]
    refine congrArg (Prod.mk name) (List.map_congr_left fun a _ => ?_)
    exact withConventions_withConventions entities owner a

theorem settled_withConventions {entities : Table Entity} {owner : Entity} {a : Association}
    (h : Settled a) : Settled (withConventions entities owner a) := by
  rcases withConventions_cases entities owner a with hsame | ⟨_, p, _, _, _, _, hfilled⟩
  · rw [hsame]
    exact h
  · rw [hfilled]
    exact ⟨h.kind_iff, h.named, h.option, h.nodup⟩

theorem complete_fst (entities : Table Entity) (owned : String × List Association) :
    (complete entities owned).1 = owned.1 := by
  unfold complete
  cases entities.find? owned.1 <;> rfl

theorem settled_complete {entities : Table Entity} {owned : String × List Association}
    (h : ∀ a ∈ owned.2, Settled a) : ∀ a ∈ (complete entities owned).2, Settled a := by
  unfold complete
  cases entities.find? owned.1 with
  | none => exact h
  | some owner =>
    intro a ha
    obtain ⟨b, hb, rfl⟩ := List.mem_map.mp ha
    exact settled_withConventions (h b hb)

/-! ## Snapshots -/

theorem entity_eq_ok {d : Document} {e : Entity} (h : entity d = .ok e) :
    ∃ fields, d = .record fields ∧ Table.find? "name" fields = some (.text e.name) := by
  unfold entity at h
  simp only [Except.bind_eq_ok, asked_eq_ok, fieldsVia_eq_ok, part_eq_ok, validated_eq_ok,
    Checked.seq_eq_valid, Checked.map_eq_valid, Checked.under_eq_valid, text_read_eq_valid] at h
  obtain ⟨_, ⟨fields, rfl, hname⟩, _, _, _, _, _, _, ⟨_, _, ⟨_, _, ⟨_, _, ⟨_, rfl, rfl⟩, _, rfl⟩, _,
    rfl⟩, _, rfl⟩, _, rfl⟩ := h
  exact ⟨fields, rfl, hname⟩

theorem entry_eq_ok {d : Document} {e : Entity} {owned : List Association} :
    entry d = .ok (e, owned) ↔ entity d = .ok e ∧ ∃ fields items, d = .record fields ∧
      (fieldD "associations" (.list []) fields).elements = .ok items ∧
      List.Forall₂ (fun item a => association e.name item = .ok a) items owned := by
  unfold entry
  simp only [Except.bind_eq_ok, Except.pure_eq_ok, asked_eq_ok, fieldsVia_eq_ok,
    Except.mapM_eq_ok, Prod.mk.injEq]
  constructor
  · rintro ⟨_, he, fields, rfl, items, hitems, _, howned, rfl, rfl⟩
    exact ⟨he, fields, items, rfl, hitems, howned⟩
  · rintro ⟨he, fields, items, rfl, hitems, howned⟩
    exact ⟨e, he, fields, rfl, items, hitems, owned, howned, rfl, rfl⟩

/-- The entities by name, of two with one name the later. -/
def described (entities : List Entity) : Table Entity :=
  Table.ofEntries (entities.map fun e => (e.name, e))

/-- The associations as declared by their owners, of two owners with one name by the later. -/
def declared (entries : List (Entity × List Association)) : Table (List Association) :=
  Table.ofEntries (entries.map fun e => (e.1.name, e.2))

/-- The entities that a document declares, in order, each with the associations that it lists. -/
def Declares (d : Document) (entries : List (Entity × List Association)) : Prop :=
  ∃ fields items, d = .record fields ∧
    (fieldD "entities" (.list []) fields).elements = .ok items ∧
    List.Forall₂ (fun item e => entry item = .ok e) items entries

theorem read_eq_ok {d : Document} {s : Snapshot} :
    read d = .ok s ↔ ∃ fields items entries, d = .record fields ∧
      (fieldD "entities" (.list []) fields).elements = .ok items ∧
      List.Forall₂ (fun item e => entry item = .ok e) items entries ∧
      s.entities = entries.map (·.1) ∧
      s.associations = (declared entries).map (complete (described (entries.map (·.1)))) ∧
      (Format.optional Format.text).read (fieldOrNull "schema_version" fields) =
        .valid s.schemaVersion := by
  unfold read
  simp only [Except.bind_eq_ok, asked_eq_ok, fieldsVia_eq_ok, Except.mapM_eq_ok, validated_eq_ok,
    Checked.map_eq_valid, Checked.under_eq_valid]
  constructor
  · rintro ⟨fields, rfl, items, hitems, entries, hentries, version, hversion, rfl⟩
    exact ⟨fields, items, entries, rfl, hitems, hentries, rfl, rfl, hversion⟩
  · rintro ⟨fields, items, entries, rfl, hitems, hentries, hentities, howned, hversion⟩
    refine ⟨fields, rfl, items, hitems, entries, hentries, s.schemaVersion, hversion, ?_⟩
    obtain ⟨_, _, _⟩ := s
    cases hentities
    cases howned
    rfl

/-- The entities are those that the document lists. -/
theorem declares_of_read {d : Document} {s : Snapshot} (h : read d = .ok s) :
    ∃ entries, Declares d entries ∧ s.entities = entries.map (·.1) := by
  obtain ⟨fields, items, entries, hd, hitems, hentries, hentities, _⟩ := read_eq_ok.mp h
  exact ⟨entries, ⟨fields, items, hd, hitems, hentries⟩, hentities⟩

/-- The owners of associations are the entities, each once. -/
theorem names_associations {d : Document} {s : Snapshot} (h : read d = .ok s) :
    s.associations.names = (s.entities.map (·.name)).eraseDups := by
  obtain ⟨_, _, entries, _, _, _, hentities, hassociations, _⟩ := read_eq_ok.mp h
  have hnames : ((declared entries).map (complete (described (entries.map (·.1))))).map
      Prod.fst = (declared entries).map Prod.fst := by
    rw [List.map_map]
    exact List.map_congr_left fun owned _ => complete_fst _ owned
  have hdeclared := Table.names_ofEntries (entries.map fun e => (e.1.name, e.2))
  rw [List.map_map] at hdeclared
  rw [Table.names, hassociations, hentities, hnames, List.map_map]
  exact hdeclared

theorem settled_of_entry {d : Document} {e : Entity} {owned : List Association}
    (h : entry d = .ok (e, owned)) {a : Association} (ha : a ∈ owned) : Settled a := by
  obtain ⟨_, _, items, _, _, hitems⟩ := entry_eq_ok.mp h
  obtain ⟨item, _, hitem⟩ := exists_related hitems ha
  exact settled_association hitem

/-- All associations of a snapshot that was read are settled. -/
theorem settled_of_read {d : Document} {s : Snapshot} (h : read d = .ok s)
    {owned : String × List Association} (howned : owned ∈ s.associations) {a : Association}
    (ha : a ∈ owned.2) : Settled a := by
  obtain ⟨_, items, entries, _, _, hentries, _, hassociations, _⟩ := read_eq_ok.mp h
  rw [hassociations] at howned
  obtain ⟨own, hown, rfl⟩ := List.mem_map.mp howned
  refine settled_complete (fun b hb => ?_) a ha
  obtain ⟨⟨e, owned⟩, he, rfl⟩ := List.mem_map.mp (Table.mem_of_mem_ofEntries hown)
  obtain ⟨item, _, hitem⟩ := exists_related hentries he
  exact settled_of_entry hitem hb

/-- A snapshot that was read has nothing left to complete. -/
theorem complete_of_read {d : Document} {s : Snapshot} (h : read d = .ok s) :
    s.associations.map (complete (described s.entities)) = s.associations := by
  obtain ⟨_, _, entries, _, _, _, hentities, hassociations, _⟩ := read_eq_ok.mp h
  rw [hassociations, hentities, List.map_map]
  exact List.map_congr_left fun owned _ => complete_complete _ owned

end Declaration

end EntityAtlas
