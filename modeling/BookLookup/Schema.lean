/-!
# The fields of a book

Seven fields describe a book. A field holds one text or a list of texts, and
all but the identity of a book may be used to filter. Names are compared
exactly, letter case included.
-/

namespace BookLookup

/-- How many texts a field holds. -/
inductive Multiplicity where
  /-- One text, filtered by equality. -/
  | one
  /-- A list of texts, filtered by containment. -/
  | many
  deriving DecidableEq, Repr

/-- One field of a resource. -/
structure Field where
  /-- The name under which the field is stored and asked for. -/
  name : String
  /-- How many texts the field holds. -/
  multiplicity : Multiplicity
  /-- Whether the field may be used to filter. -/
  filterable : Bool
  deriving DecidableEq, Repr

/-- The fields of a resource. -/
structure Schema where
  /-- The name of the resource. -/
  resource : String
  /-- The fields in order. -/
  fields : List Field

namespace Schema

/-- The field of a name. -/
def field? (schema : Schema) (name : String) : Option Field :=
  schema.fields.find? (·.name == name)

/-- How many texts the field of a name holds. -/
def multiplicity? (schema : Schema) (name : String) : Option Multiplicity :=
  (schema.field? name).map Field.multiplicity

/-- How many texts the field of a name holds, if it may be used to filter. -/
def filterable? (schema : Schema) (name : String) : Option Multiplicity :=
  ((schema.field? name).filter Field.filterable).map Field.multiplicity

/-- Whether a name is that of a field. -/
def knows (schema : Schema) (name : String) : Bool :=
  (schema.field? name).isSome

/-- A field that may be used to filter is known. -/
theorem knows_of_filterable?
    {schema : Schema}
    {name : String}
    {multiplicity : Multiplicity}
    (filterable : schema.filterable? name = some multiplicity) :
    schema.knows name := by
  unfold filterable? at filterable
  unfold knows
  cases found : schema.field? name with
  | none => simp [found] at filterable
  | some field => rfl

end Schema

/-- The fields of a book. -/
def bookSchema : Schema where
  resource := "Book"
  fields := [
    ⟨"id", .one, false⟩,
    ⟨"isbn", .one, true⟩,
    ⟨"title", .one, true⟩,
    ⟨"publisher", .one, true⟩,
    ⟨"authors", .many, true⟩,
    ⟨"genres", .many, true⟩,
    ⟨"imageKey", .one, true⟩]

/-- No two fields of a book share a name. -/
theorem bookSchema_names_nodup :
    (bookSchema.fields.map Field.name).Nodup := by
  decide

end BookLookup
