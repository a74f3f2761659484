import EntityAtlas.Proofs.Except
import EntityAtlas.Proofs.Table
import EntityAtlas.Validation.Format

/-!
# What a reader accepts

A check of several parts is passed when each part passes its own, and what is then read is put
together from what the parts are read as. So a value that was read from a document comes with the
parts of the document that its own parts were read from.
-/

namespace EntityAtlas

namespace Checked

variable {α β : Type}

theorem map_eq_valid {f : α → β} {c : Checked α} {b : β} :
    f <$> c = .valid b ↔ ∃ a, c = .valid a ∧ f a = b := by
  show c.map f = .valid b ↔ _
  cases c <;> simp [map]

theorem seq_eq_valid {f : Checked (α → β)} {c : Checked α} {b : β} :
    f <*> c = .valid b ↔ ∃ g a, f = .valid g ∧ c = .valid a ∧ g a = b := by
  show apply f c = .valid b ↔ _
  cases f <;> cases c <;> simp [apply]

theorem under_eq_valid {step : Step} {c : Checked α} {a : α} :
    c.under step = .valid a ↔ c = .valid a := by
  cases c <;> simp [under]

theorem problem_ne_valid {p : Problem} {a : α} : problem p ≠ .valid a := by
  rintro ⟨⟩

/-- Two checks side by side, the first at its place. -/
theorem map_seq_eq_valid {γ : Type} {g : α → β → γ} {step : Step} {first : Checked α}
    {second : Checked β} {c : γ} : g <$> first.under step <*> second = .valid c ↔
      ∃ a b, first = .valid a ∧ second = .valid b ∧ g a b = c := by
  simp only [seq_eq_valid, map_eq_valid, under_eq_valid]
  constructor
  · rintro ⟨_, b, ⟨a, ha, rfl⟩, hb, rfl⟩
    exact ⟨a, b, ha, hb, rfl⟩
  · rintro ⟨a, b, ha, hb, rfl⟩
    exact ⟨_, b, ⟨a, ha, rfl⟩, hb, rfl⟩

theorem each_eq_valid {read : Document → Checked α} {parts : List (Step × Document)}
    {as : List α} : each read parts = .valid as ↔
      List.Forall₂ (fun part a => read part.2 = .valid a) parts as := by
  induction parts generalizing as with
  | nil => cases as <;> simp [each]
  | cons part rest ih =>
    rw [each, map_seq_eq_valid, List.forall₂_cons_left_iff]
    simp only [ih, exists_and_left, eq_comm]

theorem forall₂_indexed {R : Document → α → Prop} {items : List Document} {as : List α} :
    List.Forall₂ (fun part a => R part.2 a) (indexed items) as ↔ List.Forall₂ R items as := by
  unfold indexed
  generalize 0 = start
  induction items generalizing as start with
  | nil => simp
  | cons d items ih =>
    simp only [List.zipIdx_cons, List.map_cons, List.forall₂_cons_left_iff]
    simp only [ih]

end Checked

namespace Format

variable {α : Type} {f : Format α}

theorem listOr_read_eq_valid {problem : Problem} {d : Document} {as : List α} :
    (listOr problem f).read d = .valid as ↔
      ∃ items, d = .list items ∧ List.Forall₂ (fun item a => f.read item = .valid a) items as := by
  have hread : ∀ items, Checked.each f.read (Checked.indexed items) = .valid as ↔
      List.Forall₂ (fun item a => f.read item = .valid a) items as := fun items =>
    Checked.each_eq_valid.trans
      (Checked.forall₂_indexed (R := fun item a => f.read item = .valid a))
  cases d with
  | list items => simp [listOr, hread]
  | _ => simp [listOr, Checked.problem_ne_valid]

theorem optional_read_eq_some {d : Document} {a : α} :
    (optional f).read d = .valid (some a) ↔ d ≠ .null ∧ f.read d = .valid a := by
  cases d <;> simp [optional, Checked.map_eq_valid]

theorem pair_read_eq_valid {d : Document} {p : String × String} :
    pair.read d = .valid p ↔ d = .list [.text p.1, .text p.2] := by
  constructor
  · intro h
    cases d with
    | list items =>
      match items with
      | [] => cases h
      | [a] =>
        obtain ⟨_, _, _, hmissing, _⟩ := Checked.seq_eq_valid.mp h
        cases hmissing
      | [a, b] =>
        simp only [pair, Checked.seq_eq_valid, Checked.map_eq_valid,
          Checked.under_eq_valid] at h
        obtain ⟨_, _, ⟨_, ha, rfl⟩, hb, rfl⟩ := h
        cases a <;> cases ha
        cases b <;> cases hb
        rfl
      | _ :: _ :: _ :: _ => cases h
    | _ => cases h
  · rintro rfl
    rfl

theorem readEntries_eq_valid {fields : List (String × Document)} {entries : List (String × α)} :
    readEntries f fields = .valid entries ↔
      List.Forall₂ (fun field e => field.1 = e.1 ∧ f.read field.2 = .valid e.2) fields entries := by
  induction fields generalizing entries with
  | nil => cases entries <;> simp [readEntries]
  | cons field rest ih =>
    obtain ⟨name, d⟩ := field
    rw [readEntries, Checked.map_seq_eq_valid, List.forall₂_cons_left_iff]
    constructor
    · rintro ⟨a, more, ha, hmore, rfl⟩
      exact ⟨(name, a), more, ⟨rfl, ha⟩, ih.mp hmore, rfl⟩
    · rintro ⟨⟨_, a⟩, more, ⟨rfl, ha⟩, hmore, rfl⟩
      exact ⟨a, more, ha, ih.mpr hmore, rfl⟩

theorem table_read_eq_valid {d : Document} {t : Table α} :
    (table f).read d = .valid t ↔ ∃ fields entries, d = .record fields ∧
      List.Forall₂ (fun field e => field.1 = e.1 ∧ f.read field.2 = .valid e.2) fields entries ∧
      Table.ofEntries entries = t := by
  cases d <;> simp [table, Checked.map_eq_valid, Checked.problem_ne_valid, readEntries_eq_valid]

/-- Rows that are records are always read, each as the table of its fields. -/
theorem read_rows (rows : List (Table Document)) :
    (list (table any)).read (.list (rows.map .record)) = .valid (rows.map Table.ofEntries) := by
  refine listOr_read_eq_valid.mpr ⟨_, rfl, ?_⟩
  rw [List.forall₂_map_left_iff, List.forall₂_map_right_iff, List.forall₂_same]
  intro row _
  refine table_read_eq_valid.mpr ⟨row, row, rfl, ?_, rfl⟩
  rw [List.forall₂_same]
  exact fun field _ => ⟨rfl, rfl⟩

theorem model_eq_valid {title : String} {fields : List (String × Document) → Checked α}
    {d : Document} {a : α} : model title fields d = .valid a ↔
      ∃ entries, d = .record entries ∧ fields entries = .valid a := by
  cases d <;> simp [model, Checked.problem_ne_valid]

theorem fieldD_eq_valid {name : String} {fallback : α} {fields : List (String × Document)} {a : α} :
    fieldD f name fallback fields = .valid a ↔
      (∃ d, Table.find? name fields = some d ∧ f.read d = .valid a) ∨
        Table.find? name fields = none ∧ fallback = a := by
  unfold fieldD
  cases Table.find? name fields <;> simp [Checked.under_eq_valid]

end Format

end EntityAtlas
