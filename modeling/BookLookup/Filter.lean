import BookLookup.Schema
import BookLookup.TextMap
import BookLookup.Text.Decimal
import BookLookup.Text.Split

/-!
# Filters over books

A list of parameters, each a field with a value, gives a filter: an
expression in which every parameter is one group of predicates, and a map that
gives the values their places. A scalar field gives one equality. A field with
many values gives one containment for each piece of the value between commas,
any of which may hold. All groups must hold, in the order of the parameters.

Values never enter the expression. A predicate names a placeholder, which is
the name of its field, followed by the index of the piece when there are
several; the values are bound to the placeholders with a colon before them.
-/

namespace BookLookup

/-- A field to filter by and its value, which may be missing. -/
abbrev Parameter := String × Option String

/-- One condition on a field, with the placeholder of its value. -/
inductive Predicate where
  | equals (field placeholder : String)
  | contains (field placeholder : String)
  deriving DecidableEq, Repr

namespace Predicate

/-- The placeholder of the value. -/
def placeholder : Predicate -> String
  | equals _ placeholder => placeholder
  | contains _ placeholder => placeholder

/-- The text of a condition. -/
def render : Predicate -> List Char
  | equals field placeholder =>
      field.toList ++ " = :".toList ++ placeholder.toList
  | contains field placeholder =>
      "contains(".toList ++ field.toList ++ ",:".toList ++
        placeholder.toList ++ [')']

end Predicate

/-- Conditions of which one must hold. -/
abbrev Group := List Predicate

/-- The text of a group, in parentheses. -/
def Group.render (group : Group) : List Char :=
  '(' :: List.intercalate " or ".toList (group.map Predicate.render) ++ [')']

/-- Groups that must all hold. -/
abbrev Expression := List Group

/-- The text of an expression. -/
def Expression.render (expression : Expression) : List Char :=
  List.intercalate " and ".toList (expression.map Group.render)

/-- An expression with the values of its placeholders. -/
structure Filter where
  /-- The conditions. -/
  expression : Expression
  /-- The values by placeholder, each with a colon before it. -/
  bindings : TextMap String

/-- The text of the expression of a filter. -/
def Filter.text (filter : Filter) : String :=
  String.ofList filter.expression.render

/-- Why parameters give no filter. -/
inductive FilterFault where
  | empty
  /-- The field may not be used to filter. -/
  | unknownField (field : String)
  /-- The field occurs in an earlier parameter. -/
  | duplicateField (field : String)
  | missingValue (field : String)
  deriving DecidableEq, Repr

namespace FilterFault

/-- The text of a fault. -/
def message : FilterFault -> String
  | empty => "no filter parameters were provided"
  | unknownField field =>
      "The field, " ++ field ++ ", was not found on resource type: " ++
        bookSchema.resource
  | duplicateField field =>
      "The field, " ++ field ++ ", was provided more than once"
  | missingValue _ => "Unexpected null value found in parameter map."

/-- The name of a fault. -/
def reason : FilterFault -> String
  | empty => "empty"
  | unknownField _ => "unknown_field"
  | duplicateField _ => "duplicate_field"
  | missingValue _ => "missing_value"

end FilterFault

namespace Filter

/-- What separates the values of a field with many values. -/
def valueSeparator : Char := ','

/-- The pieces of the value of a field with many values. Nothing is trimmed and
empty pieces are kept. -/
def pieces (value : String) : List String :=
  (Split.pieces valueSeparator value.toList).map String.ofList

/-- The placeholder of one of several values of a field. -/
def indexedName (field : String) (index : Nat) : String :=
  field ++ Decimal.text index

/-- The placeholders of a field with a number of values. A single value has the
name of the field itself. -/
def placeholders (field : String) (count : Nat) : List String :=
  if count = 1 then [field]
  else (List.range count).map (indexedName field)

@[simp] theorem length_placeholders
    (field : String)
    (count : Nat) :
    (placeholders field count).length = count := by
  unfold placeholders
  split
  · rename_i single
    simp [single]
  · simp

/-- The key under which the value of a placeholder is bound. -/
def bindingKey (placeholder : String) : String :=
  ":" ++ placeholder

/-- The conditions of a parameter, each with its value. -/
def conditions
    (field : String)
    (multiplicity : Multiplicity)
    (value : String) : List (Predicate × String) :=
  match multiplicity with
  | .one => [(.equals field field, value)]
  | .many =>
      let values := pieces value
      ((placeholders field values.length).map (.contains field)).zip values

@[simp] theorem conditions_one (field value : String) :
    conditions field .one value = [(.equals field field, value)] := rfl

@[simp] theorem length_conditions_many (field value : String) :
    (conditions field .many value).length = (pieces value).length := by
  simp [conditions]

/-- The parameters read so far: their fields and the filter they give. -/
structure Draft where
  /-- The fields of the parameters. -/
  fields : List String
  /-- The filter of the parameters. -/
  filter : Filter

/-- No parameters read yet. -/
def Draft.empty : Draft :=
  ⟨[], ⟨[], .empty⟩⟩

/-- The bindings after the values of some conditions have been bound. -/
def bindValues
    (bindings : TextMap String)
    (bound : List (Predicate × String)) : TextMap String :=
  bound.foldl
    (fun map pair => map.insert (bindingKey pair.1.placeholder) pair.2) bindings

/-- The draft after one parameter more. Of the faults of a parameter, a field
that may not be used comes before a field met already, and both before a missing
value. -/
def Draft.add
    (draft : Draft)
    (parameter : Parameter) : Except FilterFault Draft :=
  let (field, value?) := parameter
  match bookSchema.filterable? field with
  | none => .error (.unknownField field)
  | some multiplicity =>
      if field ∈ draft.fields then .error (.duplicateField field)
      else
        match value? with
        | none => .error (.missingValue field)
        | some value =>
            let bound := conditions field multiplicity value
            .ok {
              fields := draft.fields ++ [field]
              filter := {
                expression :=
                  draft.filter.expression ++ [bound.map Prod.fst]
                bindings := bindValues draft.filter.bindings bound } }

/-- The filter of parameters, with one group for each in their order. An empty
list has no filter. -/
def ofParameters (parameters : List Parameter) : Except FilterFault Filter :=
  match parameters.foldlM Draft.add Draft.empty with
  | .error fault => .error fault
  | .ok draft =>
      if draft.filter.expression.isEmpty then .error .empty
      else .ok draft.filter

@[simp] theorem ofParameters_nil : ofParameters [] = .error .empty := rfl

end Filter
end BookLookup
