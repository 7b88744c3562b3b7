import BookLookup.Json.Fields

/-!
# Books as they are stored and as they are listed

A stored book may name an image by its key. A listed book carries a link to the
image in place of the key; the link is empty if there is no image.
-/

namespace BookLookup

/-- A book as it is stored. -/
structure StoredRecord where
  /-- The identity of the book. -/
  id : String
  /-- The number of the edition. -/
  isbn : String
  /-- The title. -/
  title : String
  /-- The publisher. -/
  publisher : String
  /-- The authors in order. -/
  authors : List String
  /-- The genres in order. -/
  genres : List String
  /-- The key of the image, which may be missing or empty. -/
  imageKey : Option String
  deriving DecidableEq, Repr

/-- A book as it is listed. -/
structure ListedRecord where
  /-- The identity of the book. -/
  id : String
  /-- The number of the edition. -/
  isbn : String
  /-- The title. -/
  title : String
  /-- The publisher. -/
  publisher : String
  /-- The authors in order. -/
  authors : List String
  /-- The genres in order. -/
  genres : List String
  /-- A link to the image, empty if there is none. -/
  imageUrl : String
  deriving DecidableEq, Repr

namespace StoredRecord

/-- The key of the image of a book that has one. An empty key names no
image. -/
def image? (record : StoredRecord) : Option String :=
  record.imageKey.filter (· ≠ "")

/-- The names of the fields of a stored book, in order. -/
def fieldNames : List (List String) :=
  [["id"], ["isbn"], ["title"], ["publisher"], ["authors"], ["genres"],
    ["imageKey"]]

/-- A stored book as a JSON object. A missing image key is left out. -/
def toJson (record : StoredRecord) : Json :=
  .object ([
    ("id", .string record.id),
    ("isbn", .string record.isbn),
    ("title", .string record.title),
    ("publisher", .string record.publisher),
    ("authors", Json.ofStrings record.authors),
    ("genres", Json.ofStrings record.genres)] ++
    (record.imageKey.map fun key => ("imageKey", Json.string key)).toList)

/-- The stored book that a JSON value writes. All fields but the identity may
be left out. -/
def ofJson? (value : Json) : Option StoredRecord :=
  match Json.fields? fieldNames value with
  | some [id, isbn, title, publisher, authors, genres, imageKey] => do
      let id <- Json.required? Json.asString? id
      let isbn <- Json.withDefault? Json.asString? "" isbn
      let title <- Json.withDefault? Json.asString? "" title
      let publisher <- Json.withDefault? Json.asString? "" publisher
      let authors <- Json.withDefault? Json.asStrings? [] authors
      let genres <- Json.withDefault? Json.asStrings? [] genres
      let imageKey <-
        Json.withDefault? (Json.nullable? Json.asString?) none imageKey
      return { id, isbn, title, publisher, authors, genres, imageKey }
  | _ => none

end StoredRecord

namespace ListedRecord

/-- The names of the fields of a listed book, in order. -/
def fieldNames : List (List String) :=
  [["id"], ["isbn"], ["title"], ["publisher"], ["authors"], ["genres"],
    ["imageUrl"]]

/-- A listed book as a JSON object. -/
def toJson (record : ListedRecord) : Json :=
  .object [
    ("id", .string record.id),
    ("isbn", .string record.isbn),
    ("title", .string record.title),
    ("publisher", .string record.publisher),
    ("authors", Json.ofStrings record.authors),
    ("genres", Json.ofStrings record.genres),
    ("imageUrl", .string record.imageUrl)]

/-- The listed book that a JSON value writes. No field may be left out. -/
def ofJson? (value : Json) : Option ListedRecord :=
  match Json.fields? fieldNames value with
  | some [id, isbn, title, publisher, authors, genres, imageUrl] => do
      let id <- Json.required? Json.asString? id
      let isbn <- Json.required? Json.asString? isbn
      let title <- Json.required? Json.asString? title
      let publisher <- Json.required? Json.asString? publisher
      let authors <- Json.required? Json.asStrings? authors
      let genres <- Json.required? Json.asStrings? genres
      let imageUrl <- Json.required? Json.asString? imageUrl
      return { id, isbn, title, publisher, authors, genres, imageUrl }
  | _ => none

end ListedRecord
end BookLookup
