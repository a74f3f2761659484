import EntityAtlas.Proofs.Entity.Declared

/-!
# Declarations in full

Written as a declaration in full and read again, a snapshot is the same. Every part is read back as
it was written, provided that it is one that reading yields: options without repeated names, a kind
that fits the target. Conventions find nothing left to supply.
-/

namespace EntityAtlas.Declaration

/-! ## Associations -/

theorem options_write {opts : Table String} (hnd : opts.names.Nodup) :
    options ((Format.table Format.text).write opts) = .ok opts := by
  have hfields : (opts.map fun e => (e.1, Document.text e.2)).map
      (fun e => (e.1, e.2.optionText)) = opts := by
    rw [List.map_map]
    exact List.map_id opts
  show options (.record (opts.map fun e => (e.1, Document.text e.2))) = .ok opts
  by_cases hempty : opts = []
  · rw [hempty]
    rfl
  · have htruthy : (Document.record (opts.map fun e => (e.1, .text e.2))).isTruthy = true := by
      simpa [Document.isTruthy] using hempty
    rw [options, if_pos htruthy]
    show Except.ok (Table.ofEntries _) = _
    rw [hfields, Table.ofEntries_of_nodup hnd]

theorem through_write (t : Option ThroughTable) :
    through ((Format.optional ThroughTable.format).write t) = .ok t := by
  cases t with
  | none => rfl
  | some t =>
    obtain ⟨name, sources, targets⟩ := t
    have hsources := Format.lawful_columnPairs sources
    have htargets := Format.lawful_columnPairs targets
    simp [through, Format.optional, ThroughTable.format, Document.isTruthy, Document.part,
      Table.find?, asked, validated, rows_write, hsources, htargets, Except.mapError,
      Checked.toExcept, bind, Except.bind, pure, Except.pure]

theorem target_write {owner : String} {a : Association} (h : Settled a)
    {fields : List (String × Document)}
    (hfield : fieldOrNull "target_entity" fields = .ofText? a.targetEntity?) :
    target owner a.kind a.options fields = .ok (a.kind, a.target) := by
  rw [target_eq_ok]
  cases htarget : a.target with
  | polymorphic =>
    have hkind := h.kind_iff.mpr htarget
    rw [if_pos (Or.inl hkind)]
    exact ⟨hkind, rfl⟩
  | direct name =>
    have hkind : a.kind ≠ .polymorphic := fun hkind => by
      rw [h.kind_iff.mp hkind] at htarget
      cases htarget
    have hname : name ≠ "" := by
      rintro rfl
      exact h.named htarget
    rw [if_neg (not_or.mpr ⟨hkind, fun hoption => hkind (h.option hoption)⟩)]
    refine ⟨name, ?_, hname, rfl, rfl⟩
    rw [hfield, Association.targetEntity?, htarget]
    rfl

theorem association_declare {owner : String} {a : Association} (h : Settled a) :
    association owner (declareAssociation a) = .ok a := by
  have hkind : kind (.text a.kind.word) = .ok a.kind := by
    simp [kind, AssociationKind.ofWord?_word]
  have hpairs := Format.lawful_columnPairs a.joinColumns
  unfold association
  simp only [Except.bind_eq_ok, asked_eq_ok, fieldsVia_eq_ok, part_eq_ok, validated_eq_ok,
    Checked.seq_eq_valid, Checked.map_eq_valid, Checked.under_eq_valid, text_read_eq_valid]
  refine ⟨_, rfl, a.kind, ?_, a.options, ?_, (a.kind, a.target), ?_, .text a.name, ?_,
    columnPairs.write a.joinColumns, ?_, a.through, ?_, _, a.joinColumns, ⟨a.name, rfl, rfl⟩,
    hpairs, rfl⟩
  · simpa [fieldD, Table.findD, Table.find?] using hkind
  · simpa [fieldOrNull, fieldD, Table.findD, Table.find?] using options_write h.nodup
  · exact target_write h (by simp [fieldOrNull, fieldD, Table.findD, Table.find?])
  · exact ⟨_, rfl, by simp [Table.find?]⟩
  · simpa [fieldD, Table.findD, Table.find?] using rows_write a.joinColumns
  · simpa [fieldOrNull, fieldD, Table.findD, Table.find?] using through_write a.through

/-! ## Entities -/

theorem entity_declare (s : Snapshot) (e : Entity) : entity (declareEntity s e) = .ok e := by
  have hattributes : (Document.ofTexts e.attributeNames).elements =
      .ok (e.attributeNames.map .text) := rfl
  unfold entity
  simp only [Except.bind_eq_ok, asked_eq_ok, fieldsVia_eq_ok, part_eq_ok, validated_eq_ok,
    Checked.seq_eq_valid, Checked.map_eq_valid, Checked.under_eq_valid, text_read_eq_valid]
  refine ⟨.text e.name, ⟨_, rfl, rfl⟩, _, rfl, e.attributeNames.map .text, ?_, _, e.present,
    ⟨_, e.attributeNames, ⟨_, e.primaryKey, ⟨_, e.tableName, ⟨e.name, rfl, rfl⟩, ?_, rfl⟩, ?_, rfl⟩,
    ?_, rfl⟩, ?_, rfl⟩
  · simpa [fieldD, Table.findD, Table.find?] using hattributes
  · simp [fieldD, Table.findD, Table.find?]
  · simp [fieldD, Table.findD, Table.find?]
  · exact Format.texts_read e.attributeNames
  · simp [fieldD, Table.findD, Table.find?]

theorem entry_declare {s : Snapshot} {e : Entity} (h : ∀ a ∈ s.associationsOf e.name, Settled a) :
    entry (declareEntity s e) = .ok (e, s.associationsOf e.name) := by
  have hitems : List.Forall₂ (fun item a => association e.name item = .ok a)
      ((s.associationsOf e.name).map declareAssociation) (s.associationsOf e.name) := by
    rw [List.forall₂_map_left_iff, List.forall₂_same]
    exact fun a ha => association_declare (h a ha)
  refine entry_eq_ok.mpr ⟨entity_declare s e, _, _, rfl, ?_, hitems⟩
  simp [fieldD, Table.findD, Table.find?, Document.elements]

/-! ## Snapshots -/

theorem associations_eq_map {d : Document} {s : Snapshot} (h : read d = .ok s)
    (hnd : (s.entities.map (·.name)).Nodup) :
    s.associations = s.entities.map fun e => (e.name, s.associationsOf e.name) := by
  have hnames : s.associations.names = s.entities.map (·.name) := by
    rw [names_associations h, eraseDups_of_nodup hnd]
  have hall := Table.eq_map_findD (t := s.associations) (by rw [hnames]; exact hnd) []
  rw [hnames, List.map_map] at hall
  exact hall

/-- A snapshot with pairwise distinct names is what its declaration in full is read as. -/
theorem read_declare {d : Document} {s : Snapshot} (h : read d = .ok s)
    (hnd : (s.entities.map (·.name)).Nodup) : read s.declare = .ok s := by
  have hassociations := associations_eq_map h hnd
  have hsettled : ∀ e ∈ s.entities, ∀ a ∈ s.associationsOf e.name, Settled a := by
    intro e he a ha
    have howned : (e.name, s.associationsOf e.name) ∈ s.associations := by
      rw [hassociations]
      exact List.mem_map_of_mem he
    exact settled_of_read h howned ha
  have hentities : (s.entities.map fun e => (e, s.associationsOf e.name)).map (·.1) =
      s.entities := by
    rw [List.map_map]
    exact List.map_id s.entities
  have hdeclared : declared (s.entities.map fun e => (e, s.associationsOf e.name)) =
      s.associations := by
    have hnames : (s.associations.names).Nodup := by
      rw [names_associations h]
      exact nodup_eraseDups _
    rw [declared, List.map_map]
    exact (congrArg Table.ofEntries hassociations.symm).trans (Table.ofEntries_of_nodup hnames)
  refine read_eq_ok.mpr ⟨_, s.entities.map (declareEntity s),
    s.entities.map fun e => (e, s.associationsOf e.name), rfl, ?_, ?_, hentities.symm, ?_, ?_⟩
  · simp [fieldD, Table.findD, Table.find?, Document.elements]
  · rw [List.forall₂_map_left_iff, List.forall₂_map_right_iff, List.forall₂_same]
    exact fun e he => entry_declare (hsettled e he)
  · rw [hentities, hdeclared, complete_of_read h]
  · simp [fieldOrNull, fieldD, Table.findD, Table.find?]

/-- A declaration that leaves most things to convention. -/
def library : Document :=
  .record [("entities", .list
    [.record
      [("name", .text "Author"), ("table_exists", .bool false),
       ("associations", .list
        [.record [("name", .text "books"), ("macro", .text "has_many"),
          ("target_entity", .text "Book"), ("options", .record [("lazy", .bool true)])]])],
     .record
      [("name", .text "Book"), ("table_name", .text "books"),
       ("associations", .list
        [.record [("name", .text "author"), ("target_entity", .text "Author")],
         .record [("name", .text "subject"), ("kind", .text "belongs_to"),
          ("options", .record [("polymorphic", .bool true)])]])]])]

/-- What the declaration comes to. -/
def librarySnapshot : Snapshot where
  entities := [⟨"Author", "Author", some "id", [], false⟩, ⟨"Book", "books", some "id", [], true⟩]
  associations :=
    [("Author", [⟨"books", .hasMany, .direct "Book", [("lazy", "true")], [("id", "author_id")],
      none⟩]),
     ("Book", [⟨"author", .belongsTo, .direct "Author", [], [("author_id", "id")], none⟩,
      ⟨"subject", .polymorphic, .polymorphic, [("polymorphic", "true")], [], none⟩])]
  schemaVersion := none

theorem read_declare_library :
    read library = .ok librarySnapshot ∧ read librarySnapshot.declare = .ok librarySnapshot := by
  have h : read library = .ok librarySnapshot := by rfl
  exact ⟨h, read_declare h (by decide)⟩

end EntityAtlas.Declaration
