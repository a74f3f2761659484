import EntityAtlas.Validation.Scalar

/-!
# Formats

A format is a reader and a writer for one type of value: the reader takes documents leniently and
reports every issue, the writer gives the document in full. Formats of composite values are built
from those of their parts. A format is lawful when what it writes it reads back as the same value.
-/

namespace EntityAtlas

/-- A way to read a type of value from a document and to write it as one. -/
structure Format (α : Type) where
  /-- Reads a document, reporting everything that is wrong with it. -/
  read : Document → Checked α
  /-- Writes a value out in full. -/
  write : α → Document

namespace Format

variable {α : Type}

/-- What is written is read back as the same value. -/
def Lawful (f : Format α) : Prop := ∀ a, f.read (f.write a) = .valid a

/-- Any document, as it is. -/
def any : Format Document := ⟨.valid, id⟩

/-- A text. -/
def text : Format String := ⟨Validation.text, .text⟩

/-- A truth value. -/
def bool : Format Bool := ⟨Validation.bool, .bool⟩

/-- A whole number. -/
def int : Format Int := ⟨Validation.int, .int⟩

/-- Null for none, or else a value of the inner format. -/
def optional (f : Format α) : Format (Option α) where
  read
    | .null => .valid none
    | d => some <$> f.read d
  write
    | none => .null
    | some a => f.write a

/-- A list whose absence is reported as `problem`. -/
def listOr (problem : Problem) (f : Format α) : Format (List α) where
  read
    | .list items => Checked.each f.read (Checked.indexed items)
    | _ => .problem problem
  write as := .list (as.map f.write)

/-- A list. -/
def list (f : Format α) : Format (List α) := listOr .notList f

/-- A list of fixed content. -/
def sequence (f : Format α) : Format (List α) := listOr .notSequence f

/-- A pair of texts, written as a list of two. -/
def pair : Format (String × String) where
  read
    | .list [] => .invalid [⟨[.index 0], .missing⟩, ⟨[.index 1], .missing⟩]
    | .list [a] =>
      (·, ·) <$> (Validation.text a).under (.index 0) <*> .invalid [⟨[.index 1], .missing⟩]
    | .list [a, b] =>
      (·, ·) <$> (Validation.text a).under (.index 0) <*> (Validation.text b).under (.index 1)
    | .list items => .problem (.pairTooLong items.length)
    | _ => .problem .notSequence
  write p := .list [.text p.1, .text p.2]

/-- The entries of a record, each value read at the place of its name. -/
def readEntries (f : Format α) : List (String × Document) → Checked (List (String × α))
  | [] => .valid []
  | (name, d) :: rest =>
    (fun a as => (name, a) :: as) <$> (f.read d).under (.name name) <*> readEntries f rest

/-- A record with any names; of two values under one name the later counts. -/
def table (f : Format α) : Format (Table α) where
  read
    | .record fields => Table.ofEntries <$> readEntries f fields
    | _ => .problem .notRecord
  write t := .record (t.map fun e => (e.1, f.write e.2))

/-- The field `name` of a record, which must be there. -/
def required (f : Format α) (name : String) (fields : List (String × Document)) : Checked α :=
  match Table.find? name fields with
  | some d => (f.read d).under (.name name)
  | none => .invalid [⟨[.name name], .missing⟩]

/-- The field `name` of a record, or `fallback` where it is absent. -/
def fieldD (f : Format α) (name : String) (fallback : α) (fields : List (String × Document)) :
    Checked α :=
  match Table.find? name fields with
  | some d => (f.read d).under (.name name)
  | none => .valid fallback

/-- A word that may be left out and may not be another. -/
def fixedWord (name word : String) (fields : List (String × Document)) : Checked Unit :=
  match Table.find? name fields with
  | some d => if d.isText word then .valid () else .invalid [⟨[.name name], .notLiteral word⟩]
  | none => .valid ()

/-- Reads a record as the model `title`. -/
def model (title : String) (fields : List (String × Document) → Checked α) : Document → Checked α
  | .record entries => fields entries
  | _ => .problem (.notModel title)

/-- Reads a record as the alternative that its field `tag` names. -/
def tagged (tag : String) (alternatives : List (String × (Document → Checked α))) :
    Document → Checked α
  | .record fields =>
    match Table.find? tag fields with
    | none => .problem (.noTag tag)
    | some d =>
      let unknown : Checked α := .problem (.unknownTag d.display tag (alternatives.map (·.1)))
      match d with
      | .text word =>
        match Table.find? word alternatives with
        | some read => (read (.record fields)).under (.name word)
        | none => unknown
      | _ => unknown
  | _ => .problem .notTagged

/-- Reads a document as a value of the format, under the title of its model. -/
def parse (f : Format α) (title : String) (d : Document) : Except ValidationReport α :=
  (f.read d).toExcept title

end Format

end EntityAtlas
