import EntityAtlas.Entity.Formats
import EntityAtlas.Metric.Instruction
import EntityAtlas.Metric.Query
import EntityAtlas.Metric.Result
import EntityAtlas.Proofs.Validation.Reading

/-!
# What is written is read back

A format restores a value if it reads back what it writes for it. Texts, numbers and lists of them
are restored whatever they are, a table if it has no name twice, and an optional value unless it is
written as null. Readers yield nothing else, so whatever is read is restored, however freely the
document spelled it.
-/

namespace EntityAtlas

namespace Format

variable {α : Type} {f : Format α} {P : α → Prop}

/-- The value is read back from what is written for it. -/
def Restores (f : Format α) (a : α) : Prop := f.read (f.write a) = .valid a

/-- Whatever is read has the property. -/
def Yields (f : Format α) (P : α → Prop) : Prop := ∀ d a, f.read d = .valid a → P a

/-- The values that are read are those of the property, and each is read back from what is written
for it. -/
structure Faithful (f : Format α) (P : α → Prop) : Prop where
  /-- A value that was read is read back as the same. -/
  reload : ∀ d a, f.read d = .valid a → f.read (f.write a) = .valid a
  /-- The values that some document is read as. -/
  readable : ∀ a, (∃ d, f.read d = .valid a) ↔ P a

theorem Faithful.of_yields (hyields : f.Yields P) (hrestores : ∀ a, P a → f.Restores a) :
    f.Faithful P where
  reload d a h := hrestores a (hyields d a h)
  readable a := ⟨fun ⟨d, h⟩ => hyields d a h, fun h => ⟨f.write a, hrestores a h⟩⟩

theorem Lawful.faithful (h : f.Lawful) : f.Faithful fun _ => True :=
  .of_yields (fun _ _ _ => trivial) fun a _ => h a

/-! ## Scalars -/

@[simp] theorem any_read (d : Document) : any.read d = .valid d := rfl

@[simp] theorem bool_read (b : Bool) : bool.read (.bool b) = .valid b := rfl

@[simp] theorem text_read (s : String) : text.read (.text s) = .valid s := rfl

theorem lawful_text : text.Lawful := text_read

theorem lawful_pair : pair.Lawful := fun _ => rfl

/-! ## Lists, optional values and tables -/

theorem restores_listOr {problem : Problem} {as : List α} (h : ∀ a ∈ as, f.Restores a) :
    (listOr problem f).Restores as := by
  refine listOr_read_eq_valid.mpr ⟨as.map f.write, rfl, ?_⟩
  rw [List.forall₂_map_left_iff, List.forall₂_same]
  exact h

theorem Lawful.listOr (h : f.Lawful) (problem : Problem) : (listOr problem f).Lawful :=
  fun _ => restores_listOr fun a _ => h a

theorem Yields.listOr (h : f.Yields P) (problem : Problem) :
    (listOr problem f).Yields fun as => ∀ a ∈ as, P a := by
  intro d as hread a ha
  obtain ⟨items, _, hitems⟩ := listOr_read_eq_valid.mp hread
  obtain ⟨item, _, hitem⟩ := exists_related hitems ha
  exact h item a hitem

theorem restores_optional {o : Option α} (h : ∀ a, o = some a → f.Restores a ∧ f.write a ≠ .null) :
    (optional f).Restores o := by
  cases o with
  | none => rfl
  | some a =>
    obtain ⟨ha, hnull⟩ := h a rfl
    exact optional_read_eq_some.mpr ⟨hnull, ha⟩

theorem Lawful.optional (h : f.Lawful) (hnull : ∀ a, f.write a ≠ .null) : (optional f).Lawful :=
  fun _ => restores_optional fun a _ => ⟨h a, hnull a⟩

theorem restores_table {t : Table α} (hnd : t.names.Nodup) (h : ∀ e ∈ t, f.Restores e.2) :
    (table f).Restores t := by
  refine table_read_eq_valid.mpr ⟨_, t, rfl, ?_, Table.ofEntries_of_nodup hnd⟩
  rw [List.forall₂_map_left_iff, List.forall₂_same]
  exact fun e he => ⟨rfl, h e he⟩

theorem Yields.table (h : f.Yields P) :
    (table f).Yields fun t => t.names.Nodup ∧ ∀ e ∈ t, P e.2 := by
  intro d t hread
  obtain ⟨fields, entries, _, hentries, rfl⟩ := table_read_eq_valid.mp hread
  refine ⟨Table.nodup_names_ofEntries entries, fun e he => ?_⟩
  obtain ⟨field, _, _, hfield⟩ := exists_related hentries (Table.mem_of_mem_ofEntries he)
  exact h field.2 e.2 hfield

/-! ## Fields -/

theorem Yields.fieldD (h : f.Yields P) {name : String} {fallback a : α}
    {fields : List (String × Document)} (hfallback : P fallback)
    (hread : fieldD f name fallback fields = .valid a) : P a := by
  rcases fieldD_eq_valid.mp hread with ⟨d, _, hd⟩ | ⟨_, rfl⟩
  · exact h d a hd
  · exact hfallback

theorem lawful_texts : (sequence text).Lawful := lawful_text.listOr _

theorem lawful_columnPairs : columnPairs.Lawful := lawful_pair.listOr _

@[simp] theorem texts_read (texts : List String) :
    (sequence text).read (.ofTexts texts) = .valid texts := lawful_texts texts

@[simp] theorem optionalText_read (o : Option String) :
    (optional text).read (.ofText? o) = .valid o := by
  cases o <;> rfl

end Format

end EntityAtlas
