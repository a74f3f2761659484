import EntityAtlas.Document.Literal
import EntityAtlas.Markup.Reader

/-!
# From structure to documents

The plain scalars of a composed text are converted level by level: all that stand at one depth from
left to right, before any that stand deeper. So of several scalars that cannot be converted, the one
nearest to the top is reported.
-/

namespace EntityAtlas.Markup

/-- A fault of conversion with the depth at which it stands. -/
structure Misfit where
  /-- The number of lists and maps around it. -/
  depth : Nat
  /-- What is wrong. -/
  fault : MarkupFault

namespace Misfit

/-- Two conversions side by side; of two faults the one that stands higher is reported, the left one
if they stand level. -/
def both {α β γ : Type} (f : α → β → γ) : Except Misfit α → Except Misfit β → Except Misfit γ
  | .ok a, .ok b => .ok (f a b)
  | .ok _, .error e => .error e
  | .error e, .ok _ => .error e
  | .error e, .error e' => .error (if e'.depth < e.depth then e' else e)

end Misfit

/-- A plain scalar as a key: an equals sign is one, though it is reserved otherwise. -/
def plainKey (word : List Char) : Except MarkupFault String :=
  if word = ['='] then .ok "=" else (scalar word).map Document.display

/-- The name that a key gives: the text of a scalar. A list or a map is no key. -/
def Node.name : Node → Except MarkupFault String
  | .plain word => plainKey word
  | .quoted word => .ok (String.ofList word)
  | .list _ | .record _ => .error .malformed

mutual

/-- The document of a structure at a depth. Of two fields of one name the later value is kept. -/
def convert (depth : Nat) : Node → Except Misfit Document
  | .plain word => (scalar word).mapError (⟨depth, ·⟩)
  | .quoted word => .ok (.text (String.ofList word))
  | .list items => (convertItems (depth + 1) items).map .list
  | .record fields =>
    (convertFields (depth + 1) fields).map fun fields => .record (Table.ofEntries fields)

/-- The documents of items at a depth. -/
def convertItems (depth : Nat) : List Node → Except Misfit (List Document)
  | [] => .ok []
  | item :: rest => Misfit.both List.cons (convert depth item) (convertItems depth rest)

/-- The names and documents of fields at a depth. -/
def convertFields (depth : Nat) : List (Node × Node) → Except Misfit (List (String × Document))
  | [] => .ok []
  | (key, value) :: rest =>
    Misfit.both List.cons
      (Misfit.both Prod.mk (key.name.mapError (⟨depth, ·⟩)) (convert depth value))
      (convertFields depth rest)

end

/-- Reads the one document of a text; an empty text holds a null. Anchors, tags and block scalars are
outside the plain part of the notation and count as malformed. -/
def read (s : String) : Except MarkupFault Document := do
  let node ← compose s
  (convert 0 node).mapError Misfit.fault

end EntityAtlas.Markup
