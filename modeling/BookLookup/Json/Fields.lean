import BookLookup.Json.Basic

/-!
# Values as records of fields

A format that declares fields in order is read from an object or from an array.
In an object a field is given under one of its names, at most once; members
with other names are skipped. In an array the fields stand in their order, and
those at the end may be left out.

Readers of nested formats count depth: every array and object that a format
asks for takes one from a budget. Values that are skipped take none.
-/

namespace BookLookup
namespace Json

/-- How deep the values that a format asks for may nest. -/
def depthLimit : Nat := 127

/-- The values of the members that have one of some names. -/
def valuesNamed
    (names : List String)
    (members : List (String × Json)) : List Json :=
  (members.filter fun member => names.contains member.1).map Prod.snd

/-- The value of a field given at most once. -/
def soleValue? : List Json -> Option (Option Json)
  | [] => some none
  | [value] => some (some value)
  | _ :: _ :: _ => none

/-- The values of declared fields, absent ones included, if a value is a record
of them. A field is declared by the names that it may have. -/
def fields? (declared : List (List String)) : Json -> Option (List (Option Json))
  | object members =>
      declared.mapM fun names => soleValue? (valuesNamed names members)
  | array elements =>
      if elements.length ≤ declared.length then
        some (elements.map some ++
          List.replicate (declared.length - elements.length) none)
      else none
  | _ => none

/-- The texts of an array of texts. -/
def asStrings? : Json -> Option (List String)
  | array elements => elements.mapM asString?
  | _ => none

/-- A value that may be `null`, read if it is not. -/
def nullable? {α : Type} (read : Json -> Option α) : Json -> Option (Option α)
  | null => some none
  | value => (read value).map some

/-- A field that has to be present. -/
def required?
    {α : Type}
    (read : Json -> Option α) : Option Json -> Option α
  | none => none
  | some value => read value

/-- A field that has a value of its own when it is absent. -/
def withDefault?
    {α : Type}
    (read : Json -> Option α)
    (absent : α) : Option Json -> Option α
  | none => some absent
  | some value => read value

end Json
end BookLookup
