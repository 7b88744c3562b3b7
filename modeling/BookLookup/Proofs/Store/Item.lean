import BookLookup.Proofs.Elementwise
import BookLookup.Store.Page

/-!
# Which items are books, and which books they are

A book has seven fields, and each is read from the attribute of its name. An
item is a book exactly if each field takes what is found at its name; the book
has the texts that are found there as they stand. Otherwise the failure names
the first field that does not. Attributes of other names have no part in it.
-/

namespace BookLookup

/-! ## What fields take -/

/-- An identity is a text or a number, as it stands. -/
inductive HoldsIdentity : Option Attribute -> String -> Prop
  | string (text : String) : HoldsIdentity (some (.string text)) text
  | number (literal : String) : HoldsIdentity (some (.number literal)) literal

/-- A text may be absent or null. -/
inductive HoldsText : Option Attribute -> Option String -> Prop
  | absent : HoldsText none none
  | null (flag : Bool) : HoldsText (some (.null flag)) none
  | string (text : String) : HoldsText (some (.string text)) (some text)

/-- Texts are a set of texts or a list of texts, in their order. There are none
if the attribute is absent or null. -/
inductive HoldsTexts : Option Attribute -> List String -> Prop
  | absent : HoldsTexts none []
  | null (flag : Bool) : HoldsTexts (some (.null flag)) []
  | set (texts : List String) : HoldsTexts (some (.strings texts)) texts
  /-- The attribute is a list of which every element is a text. -/
  | list (texts : List String) :
      HoldsTexts (some (.list (texts.map .string))) texts

/-- A field of a book, by what it takes. -/
inductive BookField where
  | identity
  | text (name : String)
  | texts (name : String)

namespace BookField

/-- The name of the attribute that a field is read from. -/
def name : BookField -> String
  | identity => "id"
  | text name => name
  | texts name => name

/-- The fields of a book in the order in which they are read. -/
def inOrder : List BookField :=
  [.identity, .text "isbn", .text "title", .text "publisher",
    .texts "authors", .texts "genres", .text "imageKey"]

/-- A field takes what is found at its name. -/
def Takes : BookField -> Option Attribute -> Prop
  | identity, found => ∃ id, HoldsIdentity found id
  | text _, found => ∃ content, HoldsText found content
  | texts _, found => ∃ contents, HoldsTexts found contents

/-- What is said of an attribute that a field does not take. -/
def refusal (field : BookField) (found : Option Attribute) : String :=
  match field, found with
  | identity, _ => "item is missing the `id` attribute"
  | text name, _ => "attribute `" ++ name ++ "` is not a string"
  | texts name, some (.list _) =>
      "attribute `" ++ name ++ "` contains a non-string element"
  | texts name, _ => "attribute `" ++ name ++ "` is not a string list"

end BookField

namespace Item

/-- An item writes a book: each field of the book is what is found at its name,
and an absent or null text stands for the empty one. -/
structure Writes (item : Item) (record : StoredRecord) : Prop where
  /-- The identity is found. -/
  id : HoldsIdentity (item.get? "id") record.id
  /-- The number of the edition is found. -/
  isbn : ∃ content, HoldsText (item.get? "isbn") content ∧
    record.isbn = content.getD ""
  /-- The title is found. -/
  title : ∃ content, HoldsText (item.get? "title") content ∧
    record.title = content.getD ""
  /-- The publisher is found. -/
  publisher : ∃ content, HoldsText (item.get? "publisher") content ∧
    record.publisher = content.getD ""
  /-- The authors are found. -/
  authors : HoldsTexts (item.get? "authors") record.authors
  /-- The genres are found. -/
  genres : HoldsTexts (item.get? "genres") record.genres
  /-- The key of the image is found, and is missing if it is absent or null. -/
  imageKey : HoldsText (item.get? "imageKey") record.imageKey

/-! ## Reading one field -/

/-- What is read as an identity. -/
theorem id_eq_ok_iff {item : Item} {id : String} :
    item.id = .ok id ↔ HoldsIdentity (item.get? "id") id := by
  unfold Item.id
  constructor
  · intro read
    split at read
    · rename_i text found
      obtain rfl := Except.ok.inj read
      exact found ▸ .string text
    · rename_i literal found
      obtain rfl := Except.ok.inj read
      exact found ▸ .number literal
    · cases read
  · intro holds
    generalize item.get? "id" = found at holds
    cases holds with
    | string text => rfl
    | number literal => rfl

/-- What is read as a text. -/
theorem text_eq_ok_iff
    {item : Item}
    {name : String}
    {content : Option String} :
    item.text name = .ok content ↔ HoldsText (item.get? name) content := by
  unfold Item.text
  constructor
  · intro read
    split at read
    · rename_i found
      obtain rfl := Except.ok.inj read
      exact found ▸ .absent
    · rename_i flag found
      obtain rfl := Except.ok.inj read
      exact found ▸ .null flag
    · rename_i text found
      obtain rfl := Except.ok.inj read
      exact found ▸ .string text
    · cases read
  · intro holds
    generalize item.get? name = found at holds
    cases holds with
    | absent => rfl
    | null flag => rfl
    | string text => rfl

/-- The elements of a list are read as texts exactly if they are texts. -/
theorem mapM_elementText_eq_ok_iff
    {name : String}
    {elements : List Attribute}
    {contents : List String} :
    elements.mapM (elementText name) = .ok contents ↔
      elements = contents.map .string := by
  have element (value : Attribute) (text : String) :
      elementText name value = .ok text ↔ value = .string text := by
    cases value <;> simp [elementText]
  rw [Elementwise.mapM_eq_ok_iff, ← List.forall₂_eq_eq_eq,
    List.forall₂_map_right_iff]
  simp only [element]

/-- What is read as texts. -/
theorem texts_eq_ok_iff
    {item : Item}
    {name : String}
    {contents : List String} :
    item.texts name = .ok contents ↔
      HoldsTexts (item.get? name) contents := by
  unfold Item.texts
  constructor
  · intro read
    split at read
    · rename_i found
      obtain rfl := Except.ok.inj read
      exact found ▸ .absent
    · rename_i flag found
      obtain rfl := Except.ok.inj read
      exact found ▸ .null flag
    · rename_i texts found
      obtain rfl := Except.ok.inj read
      exact found ▸ .set texts
    · rename_i elements found
      obtain rfl := mapM_elementText_eq_ok_iff.mp read
      exact found ▸ .list contents
    · cases read
  · intro holds
    generalize item.get? name = found at holds
    cases holds with
    | absent => rfl
    | null flag => rfl
    | set texts => rfl
    | list texts => exact mapM_elementText_eq_ok_iff.mpr rfl

/-- What is read of a field, apart from its content. -/
def check (item : Item) : BookField -> Except Fault Unit
  | .identity => item.id.map fun _ => ()
  | .text name => (item.text name).map fun _ => ()
  | .texts name => (item.texts name).map fun _ => ()

/-- A field is read exactly if it takes what is found. -/
theorem check_eq_ok_iff {item : Item} {field : BookField} :
    item.check field = .ok () ↔ field.Takes (item.get? field.name) := by
  cases field with
  | identity =>
      simp only [check, map_eq_ok_iff, and_true]
      exact exists_congr fun _ => id_eq_ok_iff
  | text name =>
      simp only [check, map_eq_ok_iff, and_true]
      exact exists_congr fun _ => text_eq_ok_iff
  | texts name =>
      simp only [check, map_eq_ok_iff, and_true]
      exact exists_congr fun _ => texts_eq_ok_iff

/-- The fault of a field is said of what is found. -/
theorem message_of_check_eq_error
    {item : Item}
    {field : BookField}
    {fault : Fault}
    (refused : item.check field = .error fault) :
    fault.message = field.refusal (item.get? field.name) := by
  cases field with
  | identity =>
      have failed := map_eq_error_iff.mp refused
      unfold Item.id at failed
      split at failed
      · cases failed
      · cases failed
      · obtain rfl := Except.error.inj failed
        rfl
  | text name =>
      have failed := map_eq_error_iff.mp refused
      unfold Item.text at failed
      split at failed
      · cases failed
      · cases failed
      · cases failed
      · obtain rfl := Except.error.inj failed
        rfl
  | texts name =>
      have failed := map_eq_error_iff.mp refused
      unfold Item.texts at failed
      change fault.message = BookField.refusal _ (item.get? name)
      split at failed
      · cases failed
      · cases failed
      · cases failed
      · rename_i elements found
        obtain ⟨_, element, _, -, -, notText⟩ :=
          Elementwise.mapM_eq_error_iff.mp failed
        have isFault : fault = .nonStringElement name := by
          cases element <;> cases notText <;> rfl
        rw [isFault, found]
        rfl
      · rename_i value notNull notSet notList found
        obtain rfl := Except.error.inj failed
        rw [found]
        cases value with
        | list elements => exact absurd rfl (notList elements)
        | _ => rfl

/-! ## Reading all fields -/

/-- An item is read as the book that it writes. -/
theorem record_eq_ok_iff {item : Item} {record : StoredRecord} :
    item.record = .ok record ↔ item.Writes record := by
  constructor
  · intro read
    obtain ⟨id, idRead, afterId⟩ := exists_of_bind_eq_ok read
    obtain ⟨isbn, isbnRead, afterIsbn⟩ := exists_of_bind_eq_ok afterId
    obtain ⟨title, titleRead, afterTitle⟩ := exists_of_bind_eq_ok afterIsbn
    obtain ⟨publisher, publisherRead, afterPublisher⟩ :=
      exists_of_bind_eq_ok afterTitle
    obtain ⟨authors, authorsRead, afterAuthors⟩ :=
      exists_of_bind_eq_ok afterPublisher
    obtain ⟨genres, genresRead, afterGenres⟩ :=
      exists_of_bind_eq_ok afterAuthors
    obtain ⟨imageKey, keyRead, same⟩ := exists_of_bind_eq_ok afterGenres
    obtain rfl := Except.ok.inj same
    exact {
      id := id_eq_ok_iff.mp idRead
      isbn := ⟨isbn, text_eq_ok_iff.mp isbnRead, rfl⟩
      title := ⟨title, text_eq_ok_iff.mp titleRead, rfl⟩
      publisher := ⟨publisher, text_eq_ok_iff.mp publisherRead, rfl⟩
      authors := texts_eq_ok_iff.mp authorsRead
      genres := texts_eq_ok_iff.mp genresRead
      imageKey := text_eq_ok_iff.mp keyRead }
  · intro writes
    obtain ⟨isbn, isbnHeld, isbnEq⟩ := writes.isbn
    obtain ⟨title, titleHeld, titleEq⟩ := writes.title
    obtain ⟨publisher, publisherHeld, publisherEq⟩ := writes.publisher
    rw [Item.record, id_eq_ok_iff.mpr writes.id,
      text_eq_ok_iff.mpr isbnHeld, text_eq_ok_iff.mpr titleHeld,
      text_eq_ok_iff.mpr publisherHeld, texts_eq_ok_iff.mpr writes.authors,
      texts_eq_ok_iff.mpr writes.genres, text_eq_ok_iff.mpr writes.imageKey]
    change Except.ok _ = Except.ok record
    rw [← isbnEq, ← titleEq, ← publisherEq]

/-- An item is refused for the first field that cannot be read. -/
theorem record_eq_error_iff {item : Item} {fault : Fault} :
    item.record = .error fault ↔
      BookField.inOrder.mapM item.check = .error fault := by
  unfold Item.record BookField.inOrder
  -- Each step of the reading is the check of the next field.
  refine Elementwise.bind_eq_error_iff_of_check rfl fun _ => ?_
  refine Elementwise.bind_eq_error_iff_of_check rfl fun _ => ?_
  refine Elementwise.bind_eq_error_iff_of_check rfl fun _ => ?_
  refine Elementwise.bind_eq_error_iff_of_check rfl fun _ => ?_
  refine Elementwise.bind_eq_error_iff_of_check rfl fun _ => ?_
  refine Elementwise.bind_eq_error_iff_of_check rfl fun _ => ?_
  refine Elementwise.bind_eq_error_iff_of_check rfl fun _ => ?_
  exact ⟨nofun, nofun⟩

theorem exists_record_iff {item : Item} :
    (∃ record, item.record = .ok record) ↔
      ∀ field ∈ BookField.inOrder, field.Takes (item.get? field.name) := by
  rw [Elementwise.exists_eq_ok_iff_of_checks fun _ => record_eq_error_iff]
  exact forall₂_congr fun _ _ => check_eq_ok_iff

/-- Items that agree at the names of the fields are the same book, or none for
the same fault. -/
theorem record_congr
    {item other : Item}
    (agree : ∀ field ∈ BookField.inOrder,
      other.get? field.name = item.get? field.name) :
    other.record = item.record := by
  simp only [BookField.inOrder, List.forall_mem_cons, BookField.name] at agree
  obtain ⟨id, isbn, title, publisher, authors, genres, imageKey, -⟩ := agree
  simp only [Item.record, Item.id, Item.text, Item.texts, id, isbn, title,
    publisher, authors, genres, imageKey]

/-! ## The book of an item -/

/-- The book that an item is, or the failure of a page that lists it. -/
def book (item : Item) : Except StoreFailure StoredRecord :=
  item.record.mapError fun fault => .invalidResponse fault.message

/-- The items of a page are read one by one. -/
theorem recordsOf_eq_mapM_book (items : List Item) :
    recordsOf items = items.mapM book := by
  induction items with
  | nil => rfl
  | cons item others inductionHypothesis =>
      rw [List.mapM_cons, ← inductionHypothesis, recordsOf, recordsOf,
        List.mapM_cons, book]
      cases item.record with
      | error fault => rfl
      | ok record =>
          cases others.mapM Item.record with
          | error fault => rfl
          | ok records => rfl

/-- The failure of an item tells of the first field that does not take what is
found at its name. -/
theorem book_fails_iff {item : Item} {failure : StoreFailure} :
    item.book = .error failure ↔
      ∃ front field rest, BookField.inOrder = front ++ field :: rest ∧
        (∀ earlier ∈ front, earlier.Takes (item.get? earlier.name)) ∧
        ¬ field.Takes (item.get? field.name) ∧
        failure =
          .invalidResponse (field.refusal (item.get? field.name)) := by
  rw [book, mapError_eq_error_iff]
  constructor
  · rintro ⟨fault, refused, rfl⟩
    obtain ⟨front, field, rest, shape, frontRead, notRead⟩ :=
      Elementwise.mapM_eq_error_iff.mp (record_eq_error_iff.mp refused)
    refine ⟨front, field, rest, shape, ?_, ?_, ?_⟩
    · intro earlier member
      obtain ⟨_, read⟩ := frontRead earlier member
      exact check_eq_ok_iff.mp read
    · intro takes
      cases notRead.symm.trans (check_eq_ok_iff.mpr takes)
    · rw [message_of_check_eq_error notRead]
  · rintro ⟨front, field, rest, shape, frontTakes, notTaken, rfl⟩
    cases notRead : item.check field with
    | ok _ => exact absurd (check_eq_ok_iff.mp notRead) notTaken
    | error fault =>
        have frontRead : ∀ earlier ∈ front, ∃ result,
            item.check earlier = .ok result := by
          intro earlier member
          exact ⟨(), check_eq_ok_iff.mpr (frontTakes earlier member)⟩
        refine ⟨fault, record_eq_error_iff.mpr ?_, ?_⟩
        · exact Elementwise.mapM_eq_error_iff.mpr
            ⟨front, field, rest, shape, frontRead, notRead⟩
        · rw [message_of_check_eq_error notRead]

/-- Pages are read item by item. An item is a book exactly if every field takes
what is found at its name, and the book is the one that the item writes.
Otherwise the answer of the store is invalid, and the failure tells of the first
field that does not take what is found. Other attributes do not matter. -/
theorem items_are_books_field_by_field :
    (∀ items, recordsOf items = items.mapM book) ∧
    (∀ item : Item, (∃ record, item.book = .ok record) ↔
      ∀ field ∈ BookField.inOrder, field.Takes (item.get? field.name)) ∧
    (∀ (item : Item) record, item.book = .ok record ↔ item.Writes record) ∧
    (∀ (item : Item) failure, item.book = .error failure ↔
      ∃ front field rest, BookField.inOrder = front ++ field :: rest ∧
        (∀ earlier ∈ front, earlier.Takes (item.get? earlier.name)) ∧
        ¬ field.Takes (item.get? field.name) ∧
        failure =
          .invalidResponse (field.refusal (item.get? field.name))) ∧
    ∀ item other : Item,
      (∀ field ∈ BookField.inOrder,
        other.get? field.name = item.get? field.name) ->
      other.book = item.book := by
  refine ⟨recordsOf_eq_mapM_book, ?_, ?_, ?_, ?_⟩
  · intro item
    simp only [book, mapError_eq_ok_iff]
    exact exists_record_iff
  · intro item record
    rw [book, mapError_eq_ok_iff, record_eq_ok_iff]
  · intro item failure
    exact book_fails_iff
  · intro item other agree
    rw [book, book, record_congr agree]

/-- An item with a number for its identity, a title, an author named twice, no
genres and an attribute that is no field. -/
def dune : Item :=
  .ofPairs [("id", .number "7"), ("title", .string "Dune"),
    ("authors", .list [.string "Herbert", .string "Herbert"]),
    ("genres", .null true), ("shelf", .map [])]

/-- An item whose genres and number are of the wrong types. -/
def mistyped : Item :=
  .ofPairs [("id", .string "8"), ("genres", .string "Fantasy"),
    ("isbn", .number "9"), ("authors", .strings [])]

/-- The first is a book without the attribute that is no field, and the second
fails for its number. -/
theorem dune_is_book_and_mistyped_is_none :
    dune.book =
        .ok ⟨"7", "", "Dune", "", ["Herbert", "Herbert"], [], none⟩ ∧
      book (dune.insert "shelf" (.bool true)) = dune.book ∧
      mistyped.book =
        .error (.invalidResponse "attribute `isbn` is not a string") := by
  obtain ⟨-, -, writes, fails, others⟩ := items_are_books_field_by_field
  refine ⟨?_, ?_, ?_⟩
  · apply (writes _ _).mpr
    exact {
      id := .number "7"
      isbn := ⟨none, .absent, rfl⟩
      title := ⟨some "Dune", .string "Dune", rfl⟩
      publisher := ⟨none, .absent, rfl⟩
      authors := .list ["Herbert", "Herbert"]
      genres := .null true
      imageKey := .absent }
  · apply others
    intro field member
    rw [TextMap.get?_insert, if_neg]
    revert field
    decide
  · apply (fails _ _).mpr
    refine ⟨[.identity], .text "isbn", _, rfl, ?_, ?_, rfl⟩
    · intro earlier member
      obtain rfl := List.mem_singleton.mp member
      exact ⟨"8", .string "8"⟩
    · rintro ⟨content, holds⟩
      cases holds

end Item
end BookLookup
