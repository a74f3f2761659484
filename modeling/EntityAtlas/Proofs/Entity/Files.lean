import EntityAtlas.Entity.Declaration
import EntityAtlas.Proofs.Markup.Reading

/-!
# Declarations in files

A file that is absent, that breaks the notation, that holds no record or whose record declares no
snapshot is a load error. Only a scalar that the reader of data files cannot convert escapes, and a
version that deceives is such a scalar. What the reader does with a text is left open, but for what
it does with versions that deceive.
-/

namespace EntityAtlas.Declaration

open Markup (Deceptive versionText)

variable {reader : String → Except MarkupFault Document}

/-- A reader of data files refuses a snapshot that declares a version that deceives. -/
def RefusesDeceptive (reader : String → Except MarkupFault Document) : Prop :=
  ∀ word reason, Deceptive word reason → reader (versionText word) = .error (.scalar reason)

/-- The ways out of a file that are meant: a snapshot or a load error. -/
def Foreseen (outcome : Except FileError Snapshot) : Prop :=
  (∃ s, outcome = .ok s) ∨ ∃ cause, outcome = .error (.load cause)

theorem foreseen_mapError (d : Document) : Foreseen ((read d).mapError .load) := by
  cases read d with
  | ok s => exact .inl ⟨s, rfl⟩
  | error cause => exact .inr ⟨cause, rfl⟩

theorem not_foreseen_scalar (reason : String) : ¬Foreseen (.error (.scalar reason)) := by
  rintro (⟨s, hs⟩ | ⟨cause, hcause⟩)
  · cases hs
  · cases hcause

theorem loadWith_scalar {text reason : String} (path : String)
    (h : reader text = .error (.scalar reason)) :
    loadWith reader path (some text) = .error (.scalar reason) := by
  unfold loadWith
  dsimp only
  rw [h]

/-- Nothing but a scalar that the reader cannot convert escapes. -/
theorem foreseen_loadWith (path : String) {content : Option String}
    (h : ∀ text reason, content = some text → reader text ≠ .error (.scalar reason)) :
    Foreseen (loadWith reader path content) := by
  cases content with
  | none => exact .inr ⟨_, rfl⟩
  | some text =>
    unfold loadWith
    dsimp only
    match hread : reader text with
    | .error .malformed => exact .inr ⟨_, rfl⟩
    | .error (.scalar reason) => exact absurd hread (h text reason rfl)
    | .ok (.record fields) => exact foreseen_mapError (.record fields)
    | .ok .null | .ok (.bool _) | .ok (.int _) | .ok (.real _) | .ok (.date _) | .ok (.moment _)
    | .ok (.text _) | .ok (.list _) => exact .inr ⟨_, rfl⟩

/-- Whatever a reader makes of texts, a file yields a snapshot or a load error exactly if the reader
does not meet a scalar there that it cannot convert; if it does, the reason of the scalar escapes.
So does the reason of every version that deceives. -/
theorem load_unless_deceived (hreader : RefusesDeceptive reader) (path : String) :
    (∀ content, Foreseen (loadWith reader path content) ↔
      ∀ text reason, content = some text → reader text ≠ .error (.scalar reason)) ∧
    (∀ text reason, reader text = .error (.scalar reason) →
      loadWith reader path (some text) = .error (.scalar reason)) ∧
    ∀ word reason, Deceptive word reason →
      loadWith reader path (some (versionText word)) = .error (.scalar reason) := by
  refine ⟨fun content => ⟨?_, foreseen_loadWith path⟩, fun text reason => loadWith_scalar path,
    fun word reason h => loadWith_scalar path (hreader word reason h)⟩
  rintro hforeseen text reason rfl hread
  rw [loadWith_scalar path hread] at hforeseen
  exact not_foreseen_scalar reason hforeseen

/-- A moment in a thirteenth month. -/
theorem thirteenthMonth_deceptive :
    Deceptive "2024-13-01T10:00:00Z".toList "month must be in 1..12" := by
  have hyear : Markup.IsDigits 4 4 ['2', '0', '2', '4'] :=
    ⟨by decide, by decide, List.all_eq_true.mp rfl⟩
  have hmonth : Markup.IsDigits 1 2 ['1', '3'] := ⟨by decide, by decide, List.all_eq_true.mp rfl⟩
  have hday : Markup.IsDigits 1 2 ['0', '1'] := ⟨by decide, by decide, List.all_eq_true.mp rfl⟩
  have hhour : Markup.IsDigits 1 2 ['1', '0'] := ⟨by decide, by decide, List.all_eq_true.mp rfl⟩
  have hzeros : Markup.IsDigits 2 2 ['0', '0'] := ⟨by decide, by decide, List.all_eq_true.mp rfl⟩
  have hcheck : Moment.check 2024 13 1 10 0 0 0 (some 0) = .error (.date .month) := rfl
  exact .moment (.unknown hyear hmonth hday (.letter (.inl rfl)) hhour hzeros hzeros .whole
    (.universal 0) hcheck)

theorem load_unless_deceived_moment :
    RefusesDeceptive Markup.read ∧
      load "snapshot.yaml" (some (versionText "2024-13-01T10:00:00Z".toList)) =
        .error (.scalar "month must be in 1..12") := by
  have hread : RefusesDeceptive Markup.read := fun _ _ => Markup.read_versionText
  exact ⟨hread, (load_unless_deceived hread "snapshot.yaml").2.2 _ _ thirteenthMonth_deceptive⟩

/-- A file whose schema version has the look of a date in a thirteenth month. -/
def thirteenthMonth : String := "schema_version: 2024-13-01\n"

/-- It is neither read nor a load error. -/
theorem thirteenthMonth_escapes :
    load "snapshot.yaml" (some thirteenthMonth) = .error (.scalar "month must be in 1..12") ∧
      ¬Foreseen (load "snapshot.yaml" (some thirteenthMonth)) := by
  have h : load "snapshot.yaml" (some thirteenthMonth) =
      .error (.scalar "month must be in 1..12") := by
    rfl
  refine ⟨h, ?_⟩
  rw [h]
  exact not_foreseen_scalar _

end EntityAtlas.Declaration
