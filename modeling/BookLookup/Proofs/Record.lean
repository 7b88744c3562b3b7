import BookLookup.Record
import BookLookup.Proofs.Elementwise
import BookLookup.Proofs.Json.Format

/-!
# Books are read back

A stored book and a listed book are read from the objects that are written for
them, a stored book from the array of its fields, too, and a list of listed
books from the text that is printed for the array of their objects. So the text
of a book determines the book, and printing a stored book that was read in
either form gives a text that stays as it is.
-/

namespace BookLookup

/-- Texts are read back from an array of them. -/
theorem Json.asStrings?_ofStrings (texts : List String) :
    Json.asStrings? (Json.ofStrings texts) = some texts := by
  have each : texts.mapM (fun text => Json.asString? (.string text)) =
      some (texts.map id) :=
    Elementwise.mapM_eq_some_map fun _ _ => rfl
  rw [List.map_id] at each
  rw [Json.ofStrings, Json.asStrings?, List.mapM_map]
  exact each

/-! ## Stored books -/

namespace StoredRecord

/-- How stored books are written and read. -/
def format : Json.Format StoredRecord :=
  ⟨toJson, ofJson?⟩

/-- The fields of a stored book in order, `null` for a missing image key. -/
def toElements (record : StoredRecord) : List Json :=
  [.string record.id, .string record.isbn, .string record.title,
    .string record.publisher, Json.ofStrings record.authors,
    Json.ofStrings record.genres,
    (record.imageKey.map Json.string).getD .null]

/-- The fields of a stored book are read as the book, where a missing image key
is left out or `null`. -/
theorem ofJson?_of_fields
    {record : StoredRecord}
    {value : Json}
    (imageKey : Option Json)
    (cut : Json.fields? fieldNames value =
      some [some (.string record.id), some (.string record.isbn),
        some (.string record.title), some (.string record.publisher),
        some (Json.ofStrings record.authors),
        some (Json.ofStrings record.genres), imageKey])
    (key : Json.withDefault? (Json.nullable? Json.asString?) none imageKey =
      some record.imageKey) :
    ofJson? value = some record := by
  rw [ofJson?, cut]
  simp only [Json.required?, Json.withDefault?, Json.asString?,
    Json.asStrings?_ofStrings, Option.bind_eq_bind, Option.bind_some]
  change (Json.withDefault? (Json.nullable? Json.asString?) none imageKey).bind
    _ = _
  rw [key]
  rfl

theorem ofJson?_toJson (record : StoredRecord) :
    ofJson? record.toJson = some record := by
  obtain ⟨id, isbn, title, publisher, authors, genres, imageKey⟩ := record
  cases imageKey with
  | none => exact ofJson?_of_fields none rfl rfl
  | some key => exact ofJson?_of_fields (some (.string key)) rfl rfl

theorem ofJson?_toElements (record : StoredRecord) :
    ofJson? (.array record.toElements) = some record := by
  obtain ⟨id, isbn, title, publisher, authors, genres, imageKey⟩ := record
  cases imageKey with
  | none => exact ofJson?_of_fields (some .null) rfl rfl
  | some key => exact ofJson?_of_fields (some (.string key)) rfl rfl

/-- The object of a stored book is printable. -/
theorem printable_toJson (record : StoredRecord) :
    record.toJson.Printable := by
  apply Json.Printable.object
  intro member inObject
  rcases List.mem_append.mp inObject with inFront | ofKey
  · simp only [List.mem_cons, List.not_mem_nil, or_false] at inFront
    rcases inFront with rfl | rfl | rfl | rfl | rfl | rfl
    · exact .string record.id
    · exact .string record.isbn
    · exact .string record.title
    · exact .string record.publisher
    · exact .ofStrings record.authors
    · exact .ofStrings record.genres
  · rw [Option.mem_toList, Option.map_eq_some_iff] at ofKey
    obtain ⟨key, -, rfl⟩ := ofKey
    exact .string key

/-- The array of the fields of a stored book is printable. -/
theorem printable_toElements (record : StoredRecord) :
    (Json.array record.toElements).Printable := by
  apply Json.Printable.array
  intro element inArray
  simp only [toElements, List.mem_cons, List.not_mem_nil, or_false] at inArray
  rcases inArray with rfl | rfl | rfl | rfl | rfl | rfl | rfl
  · exact .string record.id
  · exact .string record.isbn
  · exact .string record.title
  · exact .string record.publisher
  · exact .ofStrings record.authors
  · exact .ofStrings record.genres
  · cases record.imageKey with
    | none => exact .null
    | some key => exact .string key

theorem keeps_format (record : StoredRecord) : format.Keeps record :=
  ⟨record.printable_toJson, record.ofJson?_toJson⟩

theorem ofText?_render_toElements (record : StoredRecord) :
    format.ofText? (Json.array record.toElements).render = some record := by
  rw [Json.Format.ofText?, record.printable_toElements.read?_render,
    Option.bind_some]
  exact record.ofJson?_toElements

end StoredRecord

/-! ## Listed books -/

namespace ListedRecord

/-- How listed books are written and read. -/
def format : Json.Format ListedRecord :=
  ⟨toJson, ofJson?⟩

/-- A listed book is read back from its object. -/
theorem ofJson?_toJson (record : ListedRecord) :
    ofJson? record.toJson = some record := by
  have cut : Json.fields? fieldNames record.toJson =
      some [some (.string record.id), some (.string record.isbn),
        some (.string record.title), some (.string record.publisher),
        some (Json.ofStrings record.authors),
        some (Json.ofStrings record.genres),
        some (.string record.imageUrl)] := rfl
  rw [ofJson?, cut]
  simp only [Json.required?, Json.asString?, Json.asStrings?_ofStrings,
    Option.bind_eq_bind, Option.bind_some]
  rfl

/-- The object of a listed book is printable. -/
theorem printable_toJson (record : ListedRecord) :
    record.toJson.Printable := by
  apply Json.Printable.object
  intro member inObject
  simp only [List.mem_cons, List.not_mem_nil, or_false] at inObject
  rcases inObject with rfl | rfl | rfl | rfl | rfl | rfl | rfl
  · exact .string record.id
  · exact .string record.isbn
  · exact .string record.title
  · exact .string record.publisher
  · exact .ofStrings record.authors
  · exact .ofStrings record.genres
  · exact .string record.imageUrl

theorem keeps_format (record : ListedRecord) : format.Keeps record :=
  ⟨record.printable_toJson, record.ofJson?_toJson⟩

/-- The listed books that the text of an array writes, if it writes some. -/
def listOfText? (text : String) : Option (List ListedRecord) :=
  match Json.read? text with
  | some (.array elements) => elements.mapM ofJson?
  | _ => none

/-- Listed books are read back from the text that is printed for them. -/
theorem listOfText?_render (records : List ListedRecord) :
    listOfText? (Json.array (records.map toJson)).render = some records := by
  have printable : Json.Printable (.array (records.map toJson)) := by
    apply Json.Printable.array
    intro element member
    obtain ⟨record, -, rfl⟩ := List.mem_map.mp member
    exact record.printable_toJson
  have each : records.mapM (fun record => ofJson? record.toJson) =
      some (records.map fun record => record) :=
    Elementwise.mapM_eq_some_map fun record _ => record.ofJson?_toJson
  rw [List.map_id'] at each
  rw [listOfText?, printable.read?_render]
  simp only [List.mapM_map]
  exact each

end ListedRecord

/-! ## Texts of books -/

/-- Books are read back from their texts, and a stored book from the text of the
array of its fields, too. What a text writes as a stored book, in whichever
form, is read again from the text that is printed for it, which stays as it is.
Stored books have the same text exactly if they agree, so that a missing, an
empty and any other image key are told apart. -/
theorem books_are_read_back_from_texts :
    (∀ record, StoredRecord.format.ofText?
      (StoredRecord.format.text record) = some record) ∧
    (∀ record, ListedRecord.format.ofText?
      (ListedRecord.format.text record) = some record) ∧
    (∀ record, StoredRecord.format.ofText?
      (Json.array (StoredRecord.toElements record)).render = some record) ∧
    (∀ source record, StoredRecord.format.ofText? source = some record ->
      StoredRecord.format.ofText? (StoredRecord.format.text record) =
        some record) ∧
    (∀ source, (StoredRecord.format.rewrite? source).bind
      StoredRecord.format.rewrite? = StoredRecord.format.rewrite? source) ∧
    ∀ first second, StoredRecord.format.text first =
      StoredRecord.format.text second ↔ first = second := by
  have stable : StoredRecord.format.Stable :=
    fun _ record _ => record.keeps_format
  refine ⟨?_, ?_, StoredRecord.ofText?_render_toElements, ?_, ?_, ?_⟩
  · intro record
    exact record.keeps_format.ofText?_text
  · intro record
    exact record.keeps_format.ofText?_text
  · intro source record read
    exact stable.ofText?_text read
  · intro source
    exact stable.rewrite?_rewrite? source
  · intro first second
    exact first.keeps_format.text_inj second.keeps_format

/-- A book of which only the identity and the title are known. -/
def StoredRecord.dune : StoredRecord :=
  ⟨"1", "", "Dune", "", [], [], none⟩

/-- A book whose last fields are left out of an array is read again from its
object. -/
theorem books_read_back_of_short_array :
    StoredRecord.format.ofText?
        (Json.array [.string "1", .string "", .string "Dune"]).render =
        some StoredRecord.dune ∧
      StoredRecord.format.ofText?
        (StoredRecord.format.text StoredRecord.dune) =
        some StoredRecord.dune := by
  have printable : Json.Printable
      (.array [.string "1", .string "", .string "Dune"]) := by
    apply Json.Printable.array
    intro element member
    simp only [List.mem_cons, List.not_mem_nil, or_false] at member
    rcases member with rfl | rfl | rfl
    · exact .string "1"
    · exact .string ""
    · exact .string "Dune"
  have read : StoredRecord.format.ofText?
      (Json.array [.string "1", .string "", .string "Dune"]).render =
      some StoredRecord.dune := by
    rw [Json.Format.ofText?, printable.read?_render]
    rfl
  exact ⟨read, books_are_read_back_from_texts.2.2.2.1 _ _ read⟩

end BookLookup
