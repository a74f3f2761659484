import EntityAtlas.Proofs.Validation.Reload

/-!
# The models of the library are read back

Every model is written as a record with all its fields, and each field lies in what its own format
reads. Most models are restored whatever they hold. The others hold tables or an optional document;
what is read of them never has a name twice and never is a null that counts as present, and such
values are restored.
-/

namespace EntityAtlas

open Format

/-! ## The entity model -/

theorem AssociationKind.lawful : AssociationKind.format.Lawful := by
  intro k
  simp only [format, ofWord?_word]

namespace Target

theorem lawful : format.Lawful
  | .direct _ => rfl
  | .polymorphic => rfl

theorem lawful_direct : directFormat.Lawful := fun _ => rfl

theorem lawful_polymorphic : polymorphicFormat.Lawful := fun _ => rfl

end Target

theorem ThroughTable.lawful : ThroughTable.format.Lawful := by
  intro t
  have hsource : columnPairs.read (columnPairs.write t.sourceColumns) = .valid t.sourceColumns :=
    lawful_columnPairs t.sourceColumns
  have htarget : columnPairs.read (columnPairs.write t.targetColumns) = .valid t.targetColumns :=
    lawful_columnPairs t.targetColumns
  simp [ThroughTable.format, model, required, Table.find?, hsource, htarget]

theorem ThroughTable.optional_lawful : (optional ThroughTable.format).Lawful :=
  lawful.optional fun _ => by rintro ⟨⟩

namespace Association

/-- No option is declared twice. -/
def WellFormed (a : Association) : Prop := a.options.names.Nodup

theorem restores {a : Association} (h : a.WellFormed) : format.Restores a := by
  have hkind : AssociationKind.format.read (AssociationKind.format.write a.kind) = .valid a.kind :=
    AssociationKind.lawful a.kind
  have htarget : Target.format.read (Target.format.write a.target) = .valid a.target :=
    Target.lawful a.target
  have hoptions : (table text).read ((table text).write a.options) = .valid a.options :=
    restores_table h fun e _ => lawful_text e.2
  have hpairs : columnPairs.read (columnPairs.write a.joinColumns) = .valid a.joinColumns :=
    lawful_columnPairs a.joinColumns
  have hthrough : (optional ThroughTable.format).read
      ((optional ThroughTable.format).write a.through) = .valid a.through :=
    ThroughTable.optional_lawful a.through
  simp [Restores, format, model, required, fieldD, Table.find?, hkind, htarget, hoptions, hpairs,
    hthrough]

theorem yields_wellFormed : format.Yields WellFormed := by
  intro d a h
  obtain ⟨fields, _, h⟩ := model_eq_valid.mp h
  simp only [Checked.seq_eq_valid, Checked.map_eq_valid] at h
  obtain ⟨_, through, ⟨_, pairs, ⟨_, options, ⟨_, target, ⟨_, kind, ⟨name, _, rfl⟩, _, rfl⟩, _,
    rfl⟩, hoptions, rfl⟩, _, rfl⟩, _, rfl⟩ := h
  have htexts : text.Yields fun _ => True := fun _ _ _ => trivial
  exact (htexts.table.fieldD ⟨by simp [Table.names], by simp⟩ hoptions).1

end Association

theorem Entity.lawful : Entity.format.Lawful := by
  intro e
  simp [Entity.format, model, required, fieldD, Table.find?]

namespace Snapshot

/-- No owner is listed twice, and all associations are well-formed. -/
def WellFormed (s : Snapshot) : Prop :=
  s.associations.names.Nodup ∧ ∀ e ∈ s.associations, ∀ a ∈ e.2, a.WellFormed

theorem restores {s : Snapshot} (h : s.WellFormed) : format.Restores s := by
  have hentities : (sequence Entity.format).read ((sequence Entity.format).write s.entities) =
      .valid s.entities := Entity.lawful.listOr _ s.entities
  have hassociations : (table (sequence Association.format)).read
      ((table (sequence Association.format)).write s.associations) = .valid s.associations :=
    restores_table h.1 fun e he => restores_listOr fun a ha => Association.restores (h.2 e he a ha)
  simp [Restores, format, model, required, fieldD, Table.find?, hentities, hassociations]

theorem yields_wellFormed : format.Yields WellFormed := by
  intro d s h
  obtain ⟨fields, _, h⟩ := model_eq_valid.mp h
  simp only [Checked.seq_eq_valid, Checked.map_eq_valid] at h
  obtain ⟨_, version, ⟨_, associations, ⟨entities, _, rfl⟩, hassociations, rfl⟩, _, rfl⟩ := h
  have hlists := (Association.yields_wellFormed.listOr .notSequence).table
  exact hlists.fieldD ⟨by simp [Table.names], by simp⟩ hassociations

end Snapshot

/-! ## Instructions and queries -/

theorem MetricInstruction.lawful : MetricInstruction.format.Lawful := by
  intro i
  have hpath : (optional (sequence text)).read ((optional (sequence text)).write i.joinPath) =
      .valid i.joinPath := lawful_texts.optional (fun _ => by rintro ⟨⟩) i.joinPath
  simp [format, model, required, fieldD, Table.find?, hpath]

theorem ColumnPair.lawful : ColumnPair.format.Lawful := fun _ => rfl

theorem JoinStep.lawful : JoinStep.format.Lawful := by
  intro s
  have hpairs : (sequence ColumnPair.format).read ((sequence ColumnPair.format).write s.pairs) =
      .valid s.pairs := ColumnPair.lawful.listOr _ s.pairs
  simp [JoinStep.format, model, required, Table.find?, hpairs]

theorem JoinStep.list_lawful : (sequence JoinStep.format).Lawful := lawful.listOr _

theorem CountQuery.lawful : CountQuery.format.Lawful := fun _ => rfl

theorem GroupedQuery.lawful : GroupedQuery.format.Lawful := by
  intro q
  have hjoins : (sequence JoinStep.format).read ((sequence JoinStep.format).write q.joins) =
      .valid q.joins := JoinStep.list_lawful q.joins
  simp [GroupedQuery.format, model, fixedWord, required, Table.find?, Document.isText, hjoins]

theorem ZeroFilledQuery.lawful : ZeroFilledQuery.format.Lawful := by
  intro q
  have hjoins : (sequence JoinStep.format).read ((sequence JoinStep.format).write q.joins) =
      .valid q.joins := JoinStep.list_lawful q.joins
  simp [ZeroFilledQuery.format, model, fixedWord, required, Table.find?, Document.isText, hjoins]

namespace Query

theorem read_count (q : CountQuery) : format.read (CountQuery.format.write q) = .valid (.count q) :=
  rfl

theorem read_grouped (q : GroupedQuery) :
    format.read (GroupedQuery.format.write q) = .valid (.grouped q) := by
  show (Query.grouped <$> GroupedQuery.format.read (GroupedQuery.format.write q)).under _ = _
  rw [GroupedQuery.lawful q]
  rfl

theorem read_zeroFilled (q : ZeroFilledQuery) :
    format.read (ZeroFilledQuery.format.write q) = .valid (.zeroFilled q) := by
  show (Query.zeroFilled <$> ZeroFilledQuery.format.read (ZeroFilledQuery.format.write q)).under _ =
    _
  rw [ZeroFilledQuery.lawful q]
  rfl

theorem lawful : format.Lawful
  | .count q => read_count q
  | .grouped q => read_grouped q
  | .zeroFilled q => read_zeroFilled q

end Query

/-! ## Results -/

namespace MetricResult

/-- No row has a label twice. -/
def WellFormed (r : MetricResult) : Prop := ∀ row ∈ r.rows, row.names.Nodup

theorem restores {r : MetricResult} (h : r.WellFormed) : format.Restores r := by
  have hrows : (list (table any)).read ((list (table any)).write r.rows) = .valid r.rows :=
    restores_listOr fun row hrow => restores_table (h row hrow) fun e _ => any_read e.2
  simp [Restores, format, model, required, fieldD, Table.find?, hrows]

theorem yields_wellFormed : format.Yields WellFormed := by
  intro d r h
  obtain ⟨fields, _, h⟩ := model_eq_valid.mp h
  simp only [Checked.seq_eq_valid, Checked.map_eq_valid] at h
  obtain ⟨_, message, ⟨_, error, ⟨_, rows, ⟨id, _, rfl⟩, hrows, rfl⟩, _, rfl⟩, _, rfl⟩ := h
  have hany : any.Yields fun _ => True := fun _ _ _ => trivial
  intro row hrow
  exact ((hany.table.listOr .notList).fieldD (by simp) hrows row hrow).1

end MetricResult

theorem EntityTotal.lawful : EntityTotal.format.Lawful := fun _ => rfl

theorem EntityTotal.optional_lawful : (optional (list EntityTotal.format)).Lawful :=
  (lawful.listOr _).optional fun _ => by rintro ⟨⟩

namespace MetricsResponse

/-- All results are well-formed. -/
def WellFormed (r : MetricsResponse) : Prop := ∀ result ∈ r.results, result.WellFormed

theorem restores {r : MetricsResponse} (h : r.WellFormed) : format.Restores r := by
  have hresults : (list MetricResult.format).read ((list MetricResult.format).write r.results) =
      .valid r.results := restores_listOr fun result hresult =>
    MetricResult.restores (h result hresult)
  have htotals : (optional (list EntityTotal.format)).read
      ((optional (list EntityTotal.format)).write r.entityTotals) = .valid r.entityTotals :=
    EntityTotal.optional_lawful r.entityTotals
  simp [Restores, format, model, fieldD, Table.find?, hresults, htotals]

theorem yields_wellFormed : format.Yields WellFormed := by
  intro d r h
  obtain ⟨fields, _, h⟩ := model_eq_valid.mp h
  simp only [Checked.seq_eq_valid, Checked.map_eq_valid] at h
  obtain ⟨_, totals, ⟨results, hresults, rfl⟩, _, rfl⟩ := h
  exact (MetricResult.yields_wellFormed.listOr .notList).fieldD (by simp) hresults

end MetricsResponse

namespace Outcome

/-- A value that is there is not null. -/
def WellFormed (o : Outcome Document) : Prop := o.value ≠ some .null

theorem restores {o : Outcome Document} (h : o.WellFormed) : format.Restores o := by
  have hvalue : (optional any).read (o.value.getD .null) = .valid o.value := by
    cases hv : o.value with
    | none => rfl
    | some d =>
      have hd : d ≠ .null := fun hnull => h (by rw [hv, hnull])
      exact optional_read_eq_some.mpr ⟨hd, rfl⟩
  have hwarnings : (list text).read (.ofTexts o.warnings) = .valid o.warnings :=
    lawful_text.listOr _ o.warnings
  simp [Restores, format, model, required, fieldD, Table.find?, hvalue, hwarnings]

theorem yields_wellFormed : format.Yields WellFormed := by
  intro d o h
  obtain ⟨fields, _, h⟩ := model_eq_valid.mp h
  simp only [Checked.seq_eq_valid, Checked.map_eq_valid] at h
  obtain ⟨_, warnings, ⟨_, error, ⟨_, value, ⟨success, _, rfl⟩, hvalue, rfl⟩, _, rfl⟩, _, rfl⟩ := h
  have hpresent : (optional any).Yields (· ≠ some .null) := by
    rintro d _ hread rfl
    obtain ⟨hd, hnull⟩ := optional_read_eq_some.mp hread
    exact hd (by simpa using hnull)
  exact hpresent.fieldD (by simp) hvalue

end Outcome

/-! ## All models -/

/-- Of every model the values that are read are the well-formed ones, most models having no others,
and each is read back from what is written for it. A query that is written as one of the three kinds
is read back as that kind. -/
theorem models_reload :
    (Target.directFormat.Faithful (fun _ => True) ∧
      Target.polymorphicFormat.Faithful (fun _ => True) ∧
      Target.format.Faithful (fun _ => True) ∧
      ThroughTable.format.Faithful (fun _ => True) ∧
      Association.format.Faithful Association.WellFormed ∧
      Entity.format.Faithful (fun _ => True) ∧
      Snapshot.format.Faithful Snapshot.WellFormed) ∧
    (MetricInstruction.format.Faithful (fun _ => True) ∧
      ColumnPair.format.Faithful (fun _ => True) ∧
      JoinStep.format.Faithful (fun _ => True) ∧
      CountQuery.format.Faithful (fun _ => True) ∧
      GroupedQuery.format.Faithful (fun _ => True) ∧
      ZeroFilledQuery.format.Faithful (fun _ => True) ∧
      Query.format.Faithful (fun _ => True)) ∧
    (MetricResult.format.Faithful MetricResult.WellFormed ∧
      EntityTotal.format.Faithful (fun _ => True) ∧
      MetricsResponse.format.Faithful MetricsResponse.WellFormed ∧
      Outcome.format.Faithful Outcome.WellFormed) ∧
    (∀ q, Query.format.read (CountQuery.format.write q) = .valid (.count q)) ∧
    (∀ q, Query.format.read (GroupedQuery.format.write q) = .valid (.grouped q)) ∧
    (∀ q, Query.format.read (ZeroFilledQuery.format.write q) = .valid (.zeroFilled q)) := by
  refine ⟨⟨?_, ?_, ?_, ?_, ?_, ?_, ?_⟩, ⟨?_, ?_, ?_, ?_, ?_, ?_, ?_⟩, ⟨?_, ?_, ?_, ?_⟩,
    Query.read_count, Query.read_grouped, Query.read_zeroFilled⟩
  · exact Target.lawful_direct.faithful
  · exact Target.lawful_polymorphic.faithful
  · exact Target.lawful.faithful
  · exact ThroughTable.lawful.faithful
  · exact .of_yields Association.yields_wellFormed fun _ => Association.restores
  · exact Entity.lawful.faithful
  · exact .of_yields Snapshot.yields_wellFormed fun _ => Snapshot.restores
  · exact MetricInstruction.lawful.faithful
  · exact ColumnPair.lawful.faithful
  · exact JoinStep.lawful.faithful
  · exact CountQuery.lawful.faithful
  · exact GroupedQuery.lawful.faithful
  · exact ZeroFilledQuery.lawful.faithful
  · exact Query.lawful.faithful
  · exact .of_yields MetricResult.yields_wellFormed fun _ => MetricResult.restores
  · exact EntityTotal.lawful.faithful
  · exact .of_yields MetricsResponse.yields_wellFormed fun _ => MetricsResponse.restores
  · exact .of_yields Outcome.yields_wellFormed fun _ => Outcome.restores

end EntityAtlas
