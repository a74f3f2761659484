import EntityAtlas.Proofs.Entity.Declared
import EntityAtlas.Proofs.Graph.Edges
import Mathlib.Data.List.Induction

/-!
# What a declared snapshot guarantees

A document is read as a snapshot or refused with an error that blames the declaration. Of a snapshot
that was read, every entity owns what the last declaration of its name lists; declared join columns
are kept, and convention supplies others wherever it has a key to refer to. So an edge of the entity
graph can be joined on, unless its target has no key.
-/

namespace EntityAtlas

/-- An entity whose rows no column identifies. -/
def Entity.Keyless (e : Entity) : Prop := e.primaryKey = none ∨ e.primaryKey = some ""

namespace Declaration

variable {α β : Type}

/-! ## Refusals -/

/-- The categories of what can be wrong with a declaration. -/
def categories : List String :=
  ["AttributeError", "KeyError", "TypeError", "ValueError", "ValidationError"]

/-- An error that blames the declaration: it is of a known category, or an association has no
target. -/
def Blames (e : LoadError) : Prop :=
  (∃ category ∈ categories, ∃ text, e.message = LoadError.invalidSnapshot category text) ∨
    ∃ owner name, e = .noTarget owner name

/-- Work that fails only because of the declaration. -/
def Declines (work : Outcome α) : Prop := ∀ e, work = .error e → Blames e

theorem declines_pure (a : α) : Declines (pure a) := fun _ h => nomatch h

theorem declines_asked (answer : Except Fault α) : Declines (asked answer) := by
  intro e h
  cases answer with
  | ok a => cases h
  | error fault =>
    cases h
    refine Or.inl ⟨fault.category, ?_, fault.message, rfl⟩
    cases fault <;> simp [Fault.category, categories]

theorem declines_validated (title : String) (c : Checked α) : Declines (validated title c) := by
  intro e h
  cases c with
  | valid a => cases h
  | invalid issues =>
    cases h
    exact Or.inl ⟨"ValidationError", by simp [categories], _, rfl⟩

theorem Declines.bind {work : Outcome α} {next : α → Outcome β} (h : Declines work)
    (hnext : ∀ a, Declines (next a)) : Declines (work >>= next) := by
  intro e he
  cases hwork : work with
  | error fault =>
    rw [hwork] at he
    obtain rfl : fault = e := Except.error.inj he
    exact h fault hwork
  | ok a =>
    rw [hwork] at he
    exact hnext a e he

theorem declines_mapM {f : α → Outcome β} (h : ∀ a, Declines (f a)) (l : List α) :
    Declines (l.mapM f) := by
  induction l with
  | nil => exact declines_pure []
  | cons a l ih =>
    rw [List.mapM_cons]
    exact (h a).bind fun b => ih.bind fun u => declines_pure (b :: u)

theorem declines_kind (d : Document) : Declines (kind d) := by
  have hunknown : ∀ given, Declines (.error (.unknownKind given) : Outcome AssociationKind) := by
    rintro given e ⟨⟩
    exact Or.inl ⟨"ValueError", by simp [categories], _, rfl⟩
  cases d with
  | text w =>
    unfold kind
    cases hw : AssociationKind.ofWord? w with
    | some k =>
      simp only [hw]
      exact declines_pure k
    | none =>
      simp only [hw]
      exact hunknown _
  | _ => exact hunknown _

theorem declines_options (d : Document) : Declines (options d) := by
  unfold options
  split
  · exact (declines_asked _).bind fun _ => declines_pure _
  · exact declines_pure []

theorem declines_rows (d : Document) : Declines (rows d) := by
  have hitem (item : Document) : Declines (do return Document.list (← asked item.elements)) :=
    (declines_asked _).bind fun _ => declines_pure _
  exact (declines_asked _).bind fun items =>
    (declines_mapM hitem items).bind fun _ => declines_pure _

theorem declines_through (d : Document) : Declines (through d) := by
  unfold through
  split
  · refine (declines_asked _).bind fun name => (declines_asked _).bind fun sources =>
      (declines_rows sources).bind fun _ => (declines_asked _).bind fun targets =>
      (declines_rows targets).bind fun _ => (declines_validated _ _).bind fun _ => declines_pure _
  · exact declines_pure none

theorem declines_target (owner : String) (declared : AssociationKind) (opts : Table String)
    (fields : List (String × Document)) : Declines (target owner declared opts fields) := by
  unfold target
  by_cases hpolymorphic : declared = .polymorphic ∨ opts.find? "polymorphic" = some "true"
  · rw [if_pos hpolymorphic]
    exact declines_pure _
  · simp only [if_neg hpolymorphic]
    by_cases htruthy : (fieldOrNull "target_entity" fields).isTruthy = true
    · rw [if_pos htruthy]
      exact (declines_validated _ _).bind fun _ => declines_pure _
    · rw [if_neg htruthy]
      rintro e ⟨⟩
      exact Or.inr ⟨owner, _, rfl⟩

theorem declines_association (owner : String) (d : Document) : Declines (association owner d) := by
  unfold association
  refine (declines_asked _).bind fun fields => (declines_kind _).bind fun declared =>
    (declines_options _).bind fun opts => (declines_target _ _ _ _).bind fun found =>
    (declines_asked _).bind fun name => (declines_rows _).bind fun pairs =>
    (declines_through _).bind fun between => declines_validated _ _

theorem declines_entity (d : Document) : Declines (entity d) := by
  unfold entity
  exact (declines_asked _).bind fun name => (declines_asked _).bind fun fields =>
    (declines_asked _).bind fun attributes => declines_validated _ _

theorem declines_entry (d : Document) : Declines (entry d) := by
  unfold entry
  exact (declines_entity d).bind fun e => (declines_asked _).bind fun fields =>
    (declines_asked _).bind fun items =>
    (declines_mapM (declines_association e.name) items).bind fun _ => declines_pure _

theorem declines_read (d : Document) : Declines (read d) := by
  unfold read
  exact (declines_asked _).bind fun fields => (declines_asked _).bind fun items =>
    (declines_mapM declines_entry items).bind fun entries => declines_validated _ _

/-! ## The last of a name -/

theorem find?_described (entities : List Entity) (name : String) :
    (described entities).find? name = entities.reverse.find? (·.name = name) := by
  rw [described, Table.find?_ofEntries, ← List.map_reverse, List.find?_map, Option.map_map]
  exact Option.map_id_apply

theorem exists_last {l : List α} {p : α → Bool} (h : ∃ a ∈ l, p a = true) :
    ∃ before a after, l = before ++ a :: after ∧ p a = true ∧ ∀ b ∈ after, p b = false := by
  induction l with
  | nil => simp at h
  | cons a l ih =>
    by_cases hlater : ∃ b ∈ l, p b = true
    · obtain ⟨before, b, after, rfl, hb, hafter⟩ := ih hlater
      exact ⟨a :: before, b, after, rfl, hb, hafter⟩
    · obtain ⟨b, hb, hp⟩ := h
      rcases List.mem_cons.mp hb with rfl | hb
      · exact ⟨[], b, l, rfl, hp, fun c hc => by
          by_contra hne
          exact hlater ⟨c, hc, by simpa using hne⟩⟩
      · exact absurd ⟨b, hb, hp⟩ hlater

/-- The last entity of a name that is declared, and the documents of its associations. -/
def LastDeclares (d : Document) (owner : String) (items : List Document) : Prop :=
  ∃ fields before raw after, d = .record fields ∧
    (fieldD "entities" (.list []) fields).elements = .ok (before ++ raw :: after) ∧
    raw.field? "name" = some (.text owner) ∧
    (∀ later ∈ after, later.field? "name" ≠ some (.text owner)) ∧
    ∃ parts, raw = .record parts ∧ (fieldD "associations" (.list []) parts).elements = .ok items

theorem name_of_entry {d : Document} {e : Entity} {owned : List Association}
    (h : entry d = .ok (e, owned)) : d.field? "name" = some (.text e.name) := by
  obtain ⟨fields, rfl, hname⟩ := entity_eq_ok (entry_eq_ok.mp h).1
  exact hname

theorem exists_append_of_forall₂ {R : α → β → Prop} {l : List α} {u v : List β} {b : β}
    (h : List.Forall₂ R l (u ++ b :: v)) :
    ∃ before a after, l = before ++ a :: after ∧ R a b ∧ List.Forall₂ R after v := by
  have hrest := List.forall₂_drop_append l u (b :: v) h
  obtain ⟨a, after, hab, hafter, hdrop⟩ := List.forall₂_cons_right_iff.mp hrest
  exact ⟨l.take u.length, a, after, by rw [← hdrop, List.take_append_drop], hab, hafter⟩

/-- The associations of an owner are those that the last declaration of its name lists, completed
by convention. -/
theorem lastDeclares_of_read {d : Document} {s : Snapshot} (h : read d = .ok s) {owner : String}
    (howner : owner ∈ s.entities.map (·.name)) :
    ∃ items owned e, LastDeclares d owner items ∧
      List.Forall₂ (fun item a => association owner item = .ok a) items owned ∧
      s.associationsOf owner = owned.map (withConventions (described s.entities) e) := by
  have hnames : s.associations.names.Nodup := by
    rw [names_associations h]
    exact nodup_eraseDups _
  obtain ⟨fields, raws, entries, rfl, hraws, hentries, hentities, hassociations, _⟩ :=
    read_eq_ok.mp h
  obtain ⟨before, ⟨e, owned⟩, after, rfl, hname, hafter⟩ :=
    exists_last (l := entries) (p := fun entry => decide (entry.1.name = owner)) (by
      simpa [hentities] using howner)
  obtain rfl : e.name = owner := of_decide_eq_true hname
  have hlater : ∀ entry ∈ after, entry.1.name ≠ e.name := fun entry hentry =>
    of_decide_eq_false (hafter entry hentry)
  obtain ⟨above, raw, below, rfl, hraw, hbelow⟩ := exists_append_of_forall₂ hentries
  obtain ⟨_, parts, items, hparts, hitems, howned⟩ := entry_eq_ok.mp hraw
  refine ⟨items, owned, e, ⟨fields, above, raw, below, rfl, hraws, name_of_entry hraw, ?_, parts,
    hparts, hitems⟩, howned, ?_⟩
  · intro later hmem hsame
    obtain ⟨⟨e', owned'⟩, hentry, hread⟩ := exists_related hbelow.flip hmem
    have hname' := (name_of_entry hread).symm.trans hsame
    exact hlater _ hentry (Document.text.inj (Option.some.inj hname'))
  · have hdescribed : (described s.entities).find? e.name = some e := by
      rw [hentities, described, List.map_map, List.map_append, List.map_cons]
      exact Table.find?_ofEntries_append (by simpa using hlater)
    have hdeclared : (declared (before ++ (e, owned) :: after)).find? e.name = some owned := by
      rw [declared, List.map_append, List.map_cons]
      exact Table.find?_ofEntries_append (by simpa using hlater)
    have hcomplete : complete (described s.entities) (e.name, owned) =
        (e.name, owned.map (withConventions (described s.entities) e)) := by
      simp [complete, hdescribed]
    have hmem : (e.name, owned.map (withConventions (described s.entities) e)) ∈
        s.associations := by
      rw [← hcomplete, hassociations, ← hentities]
      exact List.mem_map_of_mem (Table.mem_of_find?_eq_some hdeclared)
    rw [Snapshot.associationsOf, Table.findD, Table.find?_of_mem hnames hmem]
    rfl

/-! ## Join columns -/

/-- The join columns of an association are the declared ones, if any are declared, and in any case
if there is a table in between or the target is no entity of the snapshot. -/
def KeepsColumns (s : Snapshot) (item : Document) (a : Association) : Prop :=
  ∃ fields pairs, item = .record fields ∧
    SpellsPairs (fieldD "join_columns" (.list []) fields) pairs ∧
    (pairs ≠ [] → a.joinColumns = pairs) ∧
    (a.through.isSome = true ∨ (∀ name, a.target = .direct name → s.entity? name = none) →
      a.joinColumns = pairs)

theorem conventional?_of_polymorphic {owner target : Entity} {a : Association}
    (h : a.kind = .polymorphic) : conventional? owner target a = none := by
  rw [conventional?, h]

theorem entity?_of_described {s : Snapshot} {name : String} {e : Entity}
    (h : (described s.entities).find? name = some e) : (s.entity? name).isSome = true := by
  rw [find?_described] at h
  obtain ⟨hname, _⟩ := List.find?_eq_some_iff_append.mp h
  rw [Snapshot.entity?, List.find?_isSome]
  exact ⟨e, List.mem_reverse.mp (List.mem_of_find?_eq_some h), hname⟩

theorem keepsColumns_withConventions {s : Snapshot} {owner : String} {e : Entity} {item : Document}
    {a : Association} (h : association owner item = .ok a) :
    KeepsColumns s item (withConventions (described s.entities) e a) := by
  obtain ⟨fields, _, rfl, _, _, hspells⟩ := association_eq_ok h
  have hsettled := settled_association h
  refine ⟨fields, a.joinColumns, rfl, hspells, ?_⟩
  rcases withConventions_cases (described s.entities) e a with hsame |
    ⟨target, p, htarget, hnone, hthrough, hpairs, hfilled⟩
  · rw [hsame]
    exact ⟨fun _ => rfl, fun _ => rfl⟩
  · rw [hfilled]
    refine ⟨fun hne => absurd hnone hne, fun hkept => ?_⟩
    exfalso
    rcases hkept with hbetween | houtside
    · simp [hthrough] at hbetween
    · cases hdirect : a.target with
      | polymorphic =>
        rw [conventional?_of_polymorphic (hsettled.kind_iff.mpr hdirect)] at hpairs
        cases hpairs
      | direct name =>
        have hname : (described s.entities).find? name = some target := by
          simpa [Association.targetEntity?, hdirect] using htarget
        have hfound := entity?_of_described hname
        rw [houtside name hdirect] at hfound
        cases hfound

/-! ## Joinability -/

theorem keyless_iff {e : Entity} : e.Keyless ↔ usableKey? e = none := by
  unfold Entity.Keyless usableKey?
  cases e.primaryKey <;> simp

/-- Conventions leave no association of a snapshot to be filled in. -/
theorem withConventions_of_read {d : Document} {s : Snapshot} (h : read d = .ok s)
    {owned : String × List Association} (howned : owned ∈ s.associations) :
    ∃ owner, (described s.entities).find? owned.1 = some owner ∧
      ∀ a ∈ owned.2, withConventions (described s.entities) owner a = a := by
  have hname : owned.1 ∈ s.entities.map (·.name) := by
    have hmem : owned.1 ∈ s.associations.names := List.mem_map_of_mem howned
    rw [names_associations h] at hmem
    exact List.mem_eraseDups.mp hmem
  have hhas : (described s.entities).has owned.1 = true := by
    rw [described, Table.has_ofEntries, List.map_map]
    exact hname
  obtain ⟨owner, howner⟩ := Option.isSome_iff_exists.mp hhas
  have hsame : complete (described s.entities) owned = owned := by
    have hall := (complete_of_read h).trans (List.map_id _).symm
    exact List.map_inj_left.mp hall owned howned
  refine ⟨owner, howner, fun a ha => ?_⟩
  simp only [complete, howner] at hsame
  have hmap := (congrArg Prod.snd hsame).trans (List.map_id _).symm
  exact List.map_inj_left.mp hmap a ha

/-- Where conventions change nothing, join columns are missing only if convention has none. -/
theorem joinColumns_of_withConventions {entities : Table Entity} {owner target : Entity}
    {a : Association} (h : withConventions entities owner a = a)
    (htarget : entities.find? (a.targetEntity?.getD "") = some target) (hthrough : a.through = none)
    (hcolumns : a.joinColumns = []) : conventional? owner target a = none := by
  cases hpairs : conventional? owner target a with
  | none => rfl
  | some pairs =>
    obtain ⟨p, rfl⟩ := conventional?_eq_some hpairs
    have hfilled : withConventions entities owner a = { a with joinColumns := [p] } := by
      simp [withConventions, htarget, hcolumns, hthrough, hpairs]
    rw [h] at hfilled
    rw [hfilled] at hcolumns
    cases hcolumns

theorem edge_joinable {d : Document} {s : Snapshot} (h : read d = .ok s) {e : Edge}
    (he : e ∈ (EntityGraph.ofSnapshot s).edges) :
    e.association.through.isSome = true ∨ e.association.joinColumns ≠ [] ∨
      ∃ target, (EntityGraph.ofSnapshot s).entity? e.target = some target ∧ target.Keyless := by
  obtain ⟨_, hhas, hedge, hdirect, owned, howned, ha⟩ := EntityGraph.mem_edges_build he
  obtain ⟨owner, _, hsame⟩ := withConventions_of_read h howned
  obtain ⟨target, htarget⟩ := Option.isSome_iff_exists.mp hhas
  have hkind : e.association.kind = .belongsTo := by
    simp only [Association.isEdge, Bool.and_eq_true, decide_eq_true_eq] at hedge
    exact hedge.1
  by_cases hthrough : e.association.through = none
  · by_cases hcolumns : e.association.joinColumns = []
    · have hnone : conventional? owner target e.association = none := by
        refine joinColumns_of_withConventions (hsame _ ha) ?_ hthrough hcolumns
        rw [hdirect]
        exact htarget
      rw [conventional?, hkind] at hnone
      exact Or.inr (Or.inr ⟨target, htarget, keyless_iff.mpr (Option.map_eq_none_iff.mp hnone)⟩)
    · exact Or.inr (Or.inl hcolumns)
  · exact Or.inl (Option.isSome_iff_ne_none.mpr hthrough)

theorem reversed_joinable {d : Document} {s : Snapshot} (h : read d = .ok s)
    {owned : String × List Association} (howned : owned ∈ s.associations) {a : Association}
    (ha : a ∈ owned.2) (hkind : a.kind = .hasOne ∨ a.kind = .hasMany) (hthrough : a.through = none)
    {name : String} (hdirect : a.target = .direct name) (hname : (s.entity? name).isSome = true) :
    a.joinColumns ≠ [] ∨
      ∃ owner, s.entities.reverse.find? (·.name = owned.1) = some owner ∧ owner.Keyless := by
  obtain ⟨owner, howner, hsame⟩ := withConventions_of_read h howned
  obtain ⟨target, htarget⟩ : ∃ target, (described s.entities).find? name = some target := by
    rw [Snapshot.entity?, List.find?_isSome] at hname
    rw [← Option.isSome_iff_exists, find?_described, List.find?_isSome]
    simpa using hname
  by_cases hcolumns : a.joinColumns = []
  · have hnone : conventional? owner target a = none := by
      refine joinColumns_of_withConventions (hsame a ha) ?_ hthrough hcolumns
      rw [Association.targetEntity?, hdirect]
      exact htarget
    rw [find?_described] at howner
    refine Or.inr ⟨owner, howner, keyless_iff.mpr ?_⟩
    rcases hkind with hkind | hkind
    · rw [conventional?, hkind] at hnone
      exact Option.map_eq_none_iff.mp hnone
    · rw [conventional?, hkind] at hnone
      exact Option.map_eq_none_iff.mp hnone
  · exact Or.inl hcolumns

/-- What a snapshot guarantees that was read from a document. -/
structure Guaranteed (d : Document) (s : Snapshot) : Prop where
  /-- The entities are those that the document lists, in order. -/
  entities : ∃ entries, Declares d entries ∧ s.entities = entries.map (·.1)
  owners : s.associations.names = (s.entities.map (·.name)).eraseDups
  kind_iff : ∀ owned ∈ s.associations, ∀ a ∈ owned.2,
    a.kind = .polymorphic ↔ a.target = .polymorphic
  named : ∀ owned ∈ s.associations, ∀ a ∈ owned.2, a.target ≠ .direct ""
  /-- The associations of an owner are those that the last declaration of its name lists, with the
  join columns declared for them. -/
  columns : ∀ owner ∈ s.entities.map (·.name), ∃ items, LastDeclares d owner items ∧
    List.Forall₂ (KeepsColumns s) items (s.associationsOf owner)
  /-- Every edge can be joined on, unless the target as the graph holds it has no key. -/
  edges : ∀ e ∈ (EntityGraph.ofSnapshot s).edges,
    e.association.through.isSome = true ∨ e.association.joinColumns ≠ [] ∨
      ∃ target, (EntityGraph.ofSnapshot s).entity? e.target = some target ∧ target.Keyless
  /-- An association that its target refers back to can be joined on, unless the last owner of its
  name has no key. -/
  reversed : ∀ owned ∈ s.associations, ∀ a ∈ owned.2, a.kind = .hasOne ∨ a.kind = .hasMany →
    a.through = none → (∃ target, a.target = .direct target ∧ (s.entity? target).isSome = true) →
    a.joinColumns ≠ [] ∨
      ∃ owner, s.entities.reverse.find? (·.name = owned.1) = some owner ∧ owner.Keyless

theorem guaranteed_of_read {d : Document} {s : Snapshot} (h : read d = .ok s) :
    Guaranteed d s where
  entities := declares_of_read h
  owners := names_associations h
  kind_iff _ howned _ ha := (settled_of_read h howned ha).kind_iff
  named _ howned _ ha := (settled_of_read h howned ha).named
  columns owner howner := by
    obtain ⟨items, owned, e, hlast, hitems, hassociations⟩ := lastDeclares_of_read h howner
    refine ⟨items, hlast, ?_⟩
    rw [hassociations, List.forall₂_map_right_iff]
    exact hitems.imp fun _ _ => keepsColumns_withConventions
  edges _ he := edge_joinable h he
  reversed _ howned _ ha hkind hthrough := by
    rintro ⟨name, hdirect, hname⟩
    exact reversed_joinable h howned ha hkind hthrough hdirect hname

/-- Whatever the document, it is read as a snapshot with all guarantees or refused with an error
that blames it. -/
theorem read_guarantees (d : Document) :
    (∃ s, read d = .ok s ∧ Guaranteed d s) ∨ ∃ e, read d = .error e ∧ Blames e := by
  cases h : read d with
  | ok s => exact Or.inl ⟨s, rfl, guaranteed_of_read h⟩
  | error e => exact Or.inr ⟨e, rfl, declines_read d e h⟩

/-- Of the associations of an order, that to the customer gets conventional columns, that to the
region keeps what is declared for it, and the payment has no target. -/
example :
    read (.record [("entities", .list
      [.record
        [("name", .text "Order"), ("table_name", .text "orders"),
         ("associations", .list
          [.record [("name", .text "customer"), ("target_entity", .text "Customer")],
           .record
            [("name", .text "region"), ("target_entity", .text "Region"),
             ("join_columns", .list [.list [.text "region_code", .text "code"]])],
           .record [("name", .text "payment"), ("kind", .text "polymorphic")]])],
       .record [("name", .text "Customer"), ("primary_key", .text "number")]])]) =
    .ok
      { entities :=
          [⟨"Order", "orders", some "id", [], true⟩,
           ⟨"Customer", "Customer", some "number", [], true⟩]
        associations :=
          [("Order",
            [⟨"customer", .belongsTo, .direct "Customer", [], [("customer_id", "number")], none⟩,
             ⟨"region", .belongsTo, .direct "Region", [], [("region_code", "code")], none⟩,
             ⟨"payment", .polymorphic, .polymorphic, [], [], none⟩]),
           ("Customer", [])]
        schemaVersion := none } := by
  decide +kernel

end Declaration

end EntityAtlas
