import BookLookup.Startup
import BookLookup.Proofs.Listing.Calls
import BookLookup.Proofs.Store.Item
import BookLookup.Proofs.Store.Paging

/-!
# What is listed of stored items

An item is listed as the book that it stores, with a link to its image if it
names one. A maker of links fails for the empty key alone, which names no image,
so that all books are listed.
-/

namespace BookLookup

/-! ## Images -/

/-- An item names no image: the key is missing, null or empty. -/
inductive Item.NamesNoImage (item : Item) : Prop where
  | missing (absent : item.get? "imageKey" = none)
  | null (flag : Bool) (isNull : item.get? "imageKey" = some (.null flag))
  | empty (isEmpty : item.get? "imageKey" = some (.string ""))

/-- An item names an image by a key. -/
structure Item.NamesImage (item : Item) (key : String) : Prop where
  /-- The key is a text. -/
  isKey : item.get? "imageKey" = some (.string key)
  /-- It is not empty. -/
  nonempty : key ≠ ""

/-- A stored book has the image that its item names, and has none if the item
names none. -/
theorem Item.image_cases
    {item : Item}
    {record : StoredRecord}
    (stored : item.record = .ok record) :
    (record.image? = none ∧ item.NamesNoImage) ∨
      ∃ key, record.image? = some key ∧ item.NamesImage key := by
  have held := (Item.record_eq_ok_iff.mp stored).imageKey
  generalize found : item.get? "imageKey" = attribute? at held
  generalize content : record.imageKey = key? at held
  cases held with
  | absent =>
      have noImage := StoredRecord.image?_eq_none_iff.mpr (.inl content)
      exact .inl ⟨noImage, .missing found⟩
  | null flag =>
      have noImage := StoredRecord.image?_eq_none_iff.mpr (.inl content)
      exact .inl ⟨noImage, .null flag found⟩
  | string key =>
      by_cases isEmpty : key = ""
      · subst isEmpty
        have noImage := StoredRecord.image?_eq_none_iff.mpr (.inr content)
        exact .inl ⟨noImage, .empty found⟩
      · have image := StoredRecord.image?_eq_some_iff.mpr ⟨content, isEmpty⟩
        exact .inr ⟨key, image, found, isEmpty⟩

/-! ## Listing -/

/-- Some items are listed as some books, with links made at the times of a clock
and valid for ten minutes. -/
inductive LinkMaker.Lists
    (links : LinkMaker)
    (clock : Nat -> Instant) : Nat -> List Item -> List ListedRecord -> Prop where
  | nil (asked : Nat) : Lists links clock asked [] []
  /-- An item without an image has no link. -/
  | withoutImage
      {asked : Nat}
      {item : Item}
      {record : StoredRecord}
      {items : List Item}
      {books : List ListedRecord}
      (stored : item.record = .ok record)
      (noImage : item.NamesNoImage)
      (others : Lists links clock asked items books) :
      Lists links clock asked (item :: items) (record.listed "" :: books)
  /-- An item with an image has the link for its key. -/
  | withImage
      {asked : Nat}
      {item : Item}
      {record : StoredRecord}
      {key url : String}
      {items : List Item}
      {books : List ListedRecord}
      (stored : item.record = .ok record)
      (image : item.NamesImage key)
      (linked : links.link (clock asked) (.ofSeconds 600) key = .ok url)
      (others : Lists links clock (asked + 1) items books) :
      Lists links clock asked (item :: items) (record.listed url :: books)

/-- All books are listed by a maker of links. -/
theorem Listing.ofRecords_lists
    (application : Application)
    (clock : Nat -> Instant)
    (asked : List String)
    {items : List Item}
    {records : List StoredRecord}
    (stores : Stores items records) :
    ∃ books,
      (Listing.ofRecords (application.service clock).signer asked records).books =
        .ok books ∧
      application.links.Lists clock asked.length items books := by
  induction stores generalizing asked with
  | nil => exact ⟨[], rfl, .nil _⟩
  | cons stored others inductionHypothesis =>
      rename_i item record items records
      rcases Item.image_cases stored with
        ⟨noImage, namesNone⟩ | ⟨key, image, names⟩
      · obtain ⟨books, listed, lists⟩ := inductionHypothesis asked
        refine ⟨record.listed "" :: books, ?_,
          .withoutImage stored namesNone lists⟩
        rw [ofRecords_cons_of_none _ _ _ noImage, prepend, listed]
        rfl
      · obtain ⟨books, listed, lists⟩ := inductionHypothesis (asked ++ [key])
        rw [List.length_append] at lists
        obtain ⟨url, linked⟩ : ∃ url, application.links.link
            (clock asked.length) (.ofSeconds 600) key = .ok url := by
          rw [LinkMaker.link, if_neg names.nonempty]
          exact ⟨_, rfl⟩
        have signed : (application.service clock).signer asked key = .ok url :=
          linked
        refine ⟨record.listed url :: books, ?_,
          .withImage stored names linked lists⟩
        rw [ofRecords_cons_of_ok _ image signed, prepend, listed]
        rfl

end BookLookup
