import BookLookup.AssetLink
import BookLookup.Record

/-!
# Listing stored books

A stored book is listed with a link to its image in place of the key. A signer
makes the links. It is asked once for every book with an image, in order, and
no more after it has failed once; then no book is listed.

A signer may answer differently from one time to the next, so that its answer
depends on the keys for which it has been asked before.
-/

namespace BookLookup

/-- Makes the link for a key, given the keys asked for before. -/
abbrev Signer := List String -> String -> Except LinkFault String

/-- A key for which a signer was asked and its answer. -/
structure SigningCall where
  /-- The key of the image. -/
  key : String
  /-- The link, unless it was not made. -/
  answer : Except LinkFault String

/-- Whether a call gave a link. -/
def SigningCall.succeeded (call : SigningCall) : Bool :=
  match call.answer with
  | .ok _ => true
  | .error _ => false

/-- What became of some stored books. -/
structure Listing where
  /-- The calls of the signer in order. -/
  calls : List SigningCall
  /-- The listed books in order, unless a call failed. -/
  books : Except LinkFault (List ListedRecord)

/-- A stored book with a link in place of the key of its image. -/
def StoredRecord.listed
    (record : StoredRecord)
    (imageUrl : String) : ListedRecord where
  id := record.id
  isbn := record.isbn
  title := record.title
  publisher := record.publisher
  authors := record.authors
  genres := record.genres
  imageUrl := imageUrl

namespace Listing

/-- A book listed in front of others. -/
def prepend (book : ListedRecord) (listing : Listing) : Listing where
  calls := listing.calls
  books := listing.books.map (book :: ·)

/-- List stored books with a signer that has been asked for some keys. -/
def ofRecords
    (signer : Signer)
    (asked : List String) : List StoredRecord -> Listing
  | [] => ⟨[], .ok []⟩
  | record :: others =>
      match record.image? with
      | none => (ofRecords signer asked others).prepend (record.listed "")
      | some key =>
          match signer asked key with
          | .error fault => ⟨[⟨key, .error fault⟩], .error fault⟩
          | .ok link =>
              let rest := ofRecords signer (asked ++ [key]) others
              { rest.prepend (record.listed link) with
                calls := ⟨key, .ok link⟩ :: rest.calls }

@[simp] theorem ofRecords_nil
    (signer : Signer)
    (asked : List String) :
    ofRecords signer asked [] = ⟨[], .ok []⟩ := rfl

/-- A book without an image is listed without asking the signer. -/
theorem ofRecords_cons_of_none
    (signer : Signer)
    (asked : List String)
    {record : StoredRecord}
    (others : List StoredRecord)
    (noImage : record.image? = none) :
    ofRecords signer asked (record :: others) =
      (ofRecords signer asked others).prepend (record.listed "") := by
  simp [ofRecords, noImage]

/-- The keys for which the signer was asked, in order. -/
def keys (listing : Listing) : List String :=
  listing.calls.map SigningCall.key

end Listing

/-- Listed books as a JSON array. -/
def booksJson (books : List ListedRecord) : Json :=
  .array (books.map ListedRecord.toJson)

end BookLookup
