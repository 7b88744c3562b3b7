import BookLookup.Json.Fields
import BookLookup.Record
import BookLookup.TextMap

/-!
# Attribute values of the record store

The store keeps an item as attributes by name. An attribute value carries its
type: it is written as an object with one member, whose name is the type. A
book is read from the attributes of an item; the first attribute, in the order
of the fields, that has the wrong type is reported.
-/

namespace BookLookup

/-- An attribute value. -/
inductive Attribute where
  | string (text : String)
  /-- A number, as it is written. -/
  | number (literal : String)
  /-- Octets in base 64. -/
  | binary (encoded : String)
  | bool (value : Bool)
  | null (flag : Bool)
  | strings (texts : List String)
  | numbers (literals : List String)
  | binaries (encoded : List String)
  | list (elements : List Attribute)
  /-- Named values in the order of their names. -/
  | map (entries : List (String × Attribute))
  deriving Inhabited

/-- The attributes of an item by name. -/
abbrev Item := TextMap Attribute

namespace Attribute

mutual

/-- An attribute value as a JSON object. -/
def toJson : Attribute -> Json
  | string text => .object [("S", .string text)]
  | number literal => .object [("N", .string literal)]
  | binary encoded => .object [("B", .string encoded)]
  | bool value => .object [("BOOL", .bool value)]
  | null flag => .object [("NULL", .bool flag)]
  | strings texts => .object [("SS", Json.ofStrings texts)]
  | numbers literals => .object [("NS", Json.ofStrings literals)]
  | binaries encoded => .object [("BS", Json.ofStrings encoded)]
  | list elements => .object [("L", .array (elementsToJson elements))]
  | map entries => .object [("M", .object (entriesToJson entries))]

/-- Attribute values as JSON values. -/
def elementsToJson : List Attribute -> List Json
  | [] => []
  | first :: others => first.toJson :: elementsToJson others

/-- Named attribute values as members. -/
def entriesToJson : List (String × Attribute) -> List (String × Json)
  | [] => []
  | (name, value) :: others => (name, value.toJson) :: entriesToJson others

end

/-- An array of texts inside a value that has taken all but some depth. -/
def textsWithin? (depth : Nat) (value : Json) : Option (List String) :=
  if depth = 0 then none else value.asStrings?

/-- The entries of members in the order of their names, in which the last
value of a name counts. -/
def ofMembers?
    (read : Json -> Option Attribute)
    (members : List (String × Json)) : Option (List (String × Attribute)) :=
  (members.mapM fun member =>
      (read member.2).map fun value => (member.1, value)).map fun pairs =>
    (TextMap.ofPairs pairs).entries

/-- The attribute value that a JSON value writes, within a depth. -/
def ofJson? : Nat -> Json -> Option Attribute
  | 0, _ => none
  | depth + 1, .object [(type, value)] =>
      if type = "S" then value.asString?.map string
      else if type = "N" then value.asString?.map number
      else if type = "B" then value.asString?.map binary
      else if type = "BOOL" then value.asBool?.map bool
      else if type = "NULL" then value.asBool?.map null
      else if type = "SS" then (textsWithin? depth value).map strings
      else if type = "NS" then (textsWithin? depth value).map numbers
      else if type = "BS" then (textsWithin? depth value).map binaries
      else if type = "L" then
        match depth, value with
        | inner + 1, .array elements => (elements.mapM (ofJson? inner)).map list
        | _, _ => none
      else if type = "M" then
        match depth, value with
        | inner + 1, .object members => (ofMembers? (ofJson? inner) members).map map
        | _, _ => none
      else none
  | _ + 1, _ => none

end Attribute

namespace Item

/-- An item as a JSON object. -/
def toJson (item : Item) : Json :=
  .object (Attribute.entriesToJson item.entries)

/-- The item that a JSON value writes, within a depth. -/
def ofJson? : Nat -> Json -> Option Item
  | depth + 1, .object members =>
      (members.mapM fun member =>
        (Attribute.ofJson? depth member.2).map fun value =>
          (member.1, value)).map TextMap.ofPairs
  | _, _ => none

/-- Why an item is no book. -/
inductive Fault where
  /-- The identity is missing or is neither a text nor a number. -/
  | missingId
  /-- An attribute has to be a text. -/
  | notString (name : String)
  /-- An attribute has to be a list of texts. -/
  | notStringList (name : String)
  /-- A list of texts has another element. -/
  | nonStringElement (name : String)
  deriving DecidableEq, Repr

/-- The text of a fault. -/
def Fault.message : Fault -> String
  | missingId => "item is missing the `id` attribute"
  | notString name => "attribute `" ++ name ++ "` is not a string"
  | notStringList name => "attribute `" ++ name ++ "` is not a string list"
  | nonStringElement name =>
      "attribute `" ++ name ++ "` contains a non-string element"

/-- The identity of an item. -/
def id (item : Item) : Except Fault String :=
  match item.get? "id" with
  | some (.string text) => .ok text
  | some (.number literal) => .ok literal
  | _ => .error .missingId

/-- The text of an attribute, if it is present and not null. -/
def text (item : Item) (name : String) : Except Fault (Option String) :=
  match item.get? name with
  | none => .ok none
  | some (.null _) => .ok none
  | some (.string text) => .ok (some text)
  | some _ => .error (.notString name)

/-- The text of an element of a list. -/
def elementText (name : String) : Attribute -> Except Fault String
  | .string text => .ok text
  | _ => .error (.nonStringElement name)

/-- The texts of an attribute, none if it is absent or null. -/
def texts (item : Item) (name : String) : Except Fault (List String) :=
  match item.get? name with
  | none => .ok []
  | some (.null _) => .ok []
  | some (.strings texts) => .ok texts
  | some (.list elements) => elements.mapM (elementText name)
  | some _ => .error (.notStringList name)

/-- The book that an item stores. -/
def record (item : Item) : Except Fault StoredRecord := do
  let id <- item.id
  let isbn <- item.text "isbn"
  let title <- item.text "title"
  let publisher <- item.text "publisher"
  let authors <- item.texts "authors"
  let genres <- item.texts "genres"
  let imageKey <- item.text "imageKey"
  return {
    id
    isbn := isbn.getD ""
    title := title.getD ""
    publisher := publisher.getD ""
    authors
    genres
    imageKey }

end Item
end BookLookup
