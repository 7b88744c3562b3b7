import BookLookup.Lookup
import BookLookup.Proofs.Secret.Written

/-!
# Books with other signatures

With another secret, the links to images differ in their signatures alone, and
so do the texts in which the links are listed. A link in a JSON text keeps its
marker and its digits, because none of these is escaped.
-/

namespace BookLookup

/-! ## JSON texts -/

namespace Json

/-- A text between quotation marks is kept if none of its characters is
escaped. -/
theorem escape_eq_self
    {text : List Char}
    (plain : ∀ symbol ∈ text, escapeChar symbol = [symbol]) :
    escape text = text := by
  induction text with
  | nil => rfl
  | cons symbol rest inductionHypothesis =>
      obtain ⟨here, onwards⟩ := List.forall_mem_cons.mp plain
      rw [escape_cons, here, inductionHypothesis onwards]
      rfl

theorem escape_append (front back : List Char) :
    escape (front ++ back) = escape front ++ escape back :=
  List.flatMap_append

/-- Digits are not escaped. -/
theorem escape_signature
    {digits : List Char}
    (signature : IsSignature digits) :
    escape digits = digits := by
  have plain : ∀ value < 16,
      escapeChar (Hex.lowerDigit value) = [Hex.lowerDigit value] := by
    decide
  apply escape_eq_self
  intro symbol member
  obtain ⟨value, below, rfl⟩ := signature.each symbol member
  exact plain value below

/-- Texts that are alike are alike when they are escaped. -/
theorem alike_escape
    {text other : List Char}
    (alike : Marker.inLink.Alike text other) :
    Marker.inLink.Alike (escape text) (escape other) := by
  have marker : escape Marker.inLink.chars = Marker.inLink.chars := by decide
  induction alike with
  | same text => exact .same _
  | signed front signature otherSignature alike inductionHypothesis =>
      simp only [escape_append, marker, escape_signature signature,
        escape_signature otherSignature]
      exact .signed _ signature otherSignature inductionHypothesis

/-- JSON values are written alike. -/
def WrittenAlike (value other : Json) : Prop :=
  Marker.inLink.Alike value.chars other.chars

theorem WrittenAlike.refl (value : Json) :
    WrittenAlike value value :=
  .same _

theorem WrittenAlike.string
    {text other : String}
    (alike : Marker.inLink.Alike text.toList other.toList) :
    WrittenAlike (.string text) (.string other) :=
  ((alike_escape alike).append (.same ['"'])).append_left ['"']

/-- Elements that are written alike are written alike behind others. -/
theorem alike_moreElements
    {elements others : List Json}
    (alike : List.Forall₂ WrittenAlike elements others) :
    Marker.inLink.Alike (moreElements elements) (moreElements others) := by
  induction alike with
  | nil => exact .same _
  | cons here later inductionHypothesis =>
      rw [moreElements, moreElements]
      exact (here.append inductionHypothesis).append_left [',']

/-- Arrays of elements that are written alike are written alike. -/
theorem WrittenAlike.array
    {elements others : List Json}
    (alike : List.Forall₂ WrittenAlike elements others) :
    WrittenAlike (.array elements) (.array others) := by
  unfold WrittenAlike
  cases alike with
  | nil => exact .same _
  | cons here later =>
      exact ((here.append (alike_moreElements later)).append
        (.same [']'])).append_left ['[']

/-- Members have the same name and are written alike. -/
def MembersAlike (member other : String × Json) : Prop :=
  member.1 = other.1 ∧ WrittenAlike member.2 other.2

/-- A member is written alike between its name and what follows. -/
theorem MembersAlike.between
    {member other : String × Json}
    (alike : MembersAlike member other)
    {rest otherRest : List Char}
    (behind : Marker.inLink.Alike rest otherRest) :
    Marker.inLink.Alike
      (quoted member.1 ++ ':' :: member.2.chars ++ rest)
      (quoted other.1 ++ ':' :: other.2.chars ++ otherRest) := by
  obtain ⟨sameName, written⟩ := alike
  have value : Marker.inLink.Alike (':' :: member.2.chars)
      (':' :: other.2.chars) := written.append_left [':']
  rw [sameName]
  exact (value.append_left (quoted other.1)).append behind

/-- Such members are written alike behind others. -/
theorem alike_moreMembers
    {members others : List (String × Json)}
    (alike : List.Forall₂ MembersAlike members others) :
    Marker.inLink.Alike (moreMembers members) (moreMembers others) := by
  induction alike with
  | nil => exact .same _
  | cons here later inductionHypothesis =>
      rw [moreMembers, moreMembers]
      exact (here.between inductionHypothesis).append_left [',']

/-- Objects with such members are written alike. -/
theorem WrittenAlike.object
    {members others : List (String × Json)}
    (alike : List.Forall₂ MembersAlike members others) :
    WrittenAlike (.object members) (.object others) := by
  unfold WrittenAlike
  cases alike with
  | nil => exact .same _
  | cons here later =>
      have inside := here.between
        ((alike_moreMembers later).append (.same ['\x7d']))
      simp only [← List.append_assoc] at inside
      exact inside.append_left ['\x7b']

end Json

/-! ## Listed books -/

/-- Books differ in the signatures of their links alone. -/
structure ListedRecord.Alike (book other : ListedRecord) : Prop where
  /-- They are the same but for the links. -/
  same : { book with imageUrl := "" } = { other with imageUrl := "" }
  /-- The links are alike. -/
  imageUrl : Marker.inLink.Alike book.imageUrl.toList other.imageUrl.toList

/-- A book is like itself. -/
theorem ListedRecord.Alike.refl (book : ListedRecord) :
    book.Alike book :=
  ⟨rfl, .same _⟩

/-- Such books are written alike. -/
theorem ListedRecord.Alike.writtenAlike
    {book other : ListedRecord}
    (alike : book.Alike other) :
    Json.WrittenAlike book.toJson other.toJson := by
  obtain ⟨id, isbn, title, publisher, authors, genres, imageUrl⟩ := book
  obtain ⟨same, link⟩ := alike
  obtain ⟨rfl, rfl, rfl, rfl, rfl, rfl, -⟩ := ListedRecord.mk.inj same
  apply Json.WrittenAlike.object
  refine .cons ⟨rfl, .refl _⟩ (.cons ⟨rfl, .refl _⟩ (.cons ⟨rfl, .refl _⟩
    (.cons ⟨rfl, .refl _⟩ (.cons ⟨rfl, .refl _⟩ (.cons ⟨rfl, .refl _⟩
      (.cons ⟨rfl, ?_⟩ .nil))))))
  exact .string link

theorem alike_booksJson
    {books others : List ListedRecord}
    (alike : List.Forall₂ ListedRecord.Alike books others) :
    Json.WrittenAlike (booksJson books) (booksJson others) := by
  apply Json.WrittenAlike.array
  rw [List.forall₂_map_left_iff, List.forall₂_map_right_iff]
  exact alike.imp fun _ _ here => here.writtenAlike

/-- What becomes of some books is alike: they are listed alike, or the failure is
the same. -/
inductive BooksAlike {ε : Type} :
    Except ε (List ListedRecord) -> Except ε (List ListedRecord) -> Prop where
  | listed
      {books others : List ListedRecord}
      (alike : List.Forall₂ ListedRecord.Alike books others) :
      BooksAlike (.ok books) (.ok others)
  | failed (failure : ε) : BooksAlike (.error failure) (.error failure)

/-- A failure may be told under another name. -/
theorem BooksAlike.mapError
    {ε φ : Type}
    {result other : Except ε (List ListedRecord)}
    (alike : BooksAlike result other)
    (name : ε -> φ) :
    BooksAlike (result.mapError name) (other.mapError name) := by
  cases alike with
  | listed alike => exact .listed alike
  | failed failure => exact .failed (name failure)

/-! ## Links -/

/-- A signer answers with links that are alike, or with the same fault. -/
inductive AnswersAlike :
    Except LinkFault String -> Except LinkFault String -> Prop where
  | linked
      {url other : String}
      (alike : Marker.inLink.Alike url.toList other.toList) :
      AnswersAlike (.ok url) (.ok other)
  | refused (fault : LinkFault) : AnswersAlike (.error fault) (.error fault)

/-- A maker of links with another secret. -/
def LinkMaker.withSecret (maker : LinkMaker) (secret : String) : LinkMaker :=
  { maker with credentials := maker.credentials.withSecret secret }

/-- With another secret, links differ in their signatures alone. -/
theorem LinkMaker.alike_link
    (maker : LinkMaker)
    (secret : String)
    (time : Instant)
    (validity : Duration)
    (key : String) :
    AnswersAlike (maker.link time validity key)
      ((maker.withSecret secret).link time validity key) := by
  unfold link
  split
  · exact .refused .emptyKey
  · have query := Signature.alike_linkQuery maker.credentials secret
      (maker.scope time) maker.host (maker.path key) validity
    apply AnswersAlike.linked
    simp only [String.toList_append]
    exact query.append_left _

/-! ## Listings -/

/-- Calls of a signer for the same key are answered alike. -/
structure SigningCall.Alike (call other : SigningCall) : Prop where
  /-- The key is the same. -/
  key : call.key = other.key
  /-- The answers are alike. -/
  answer : AnswersAlike call.answer other.answer

/-- They succeed or fail together. -/
theorem SigningCall.Alike.succeeded_eq
    {call other : SigningCall}
    (alike : call.Alike other) :
    call.succeeded = other.succeeded := by
  obtain ⟨key, answer⟩ := call
  obtain ⟨otherKey, otherAnswer⟩ := other
  obtain ⟨-, answers⟩ := alike
  cases answers with
  | linked alike => rfl
  | refused fault => rfl

/-- What is the same of such calls is the same of lists of them. -/
theorem SigningCall.map_eq_map
    {α : Type}
    {of : SigningCall -> α}
    (same : ∀ call other, Alike call other -> of call = of other)
    {calls others : List SigningCall}
    (alike : List.Forall₂ Alike calls others) :
    calls.map of = others.map of := by
  rw [← List.forall₂_eq_eq_eq, List.forall₂_map_left_iff,
    List.forall₂_map_right_iff]
  exact alike.imp same

namespace Listing

/-- The same is made of some books, but for the signatures of their links. -/
structure Alike (listing other : Listing) : Prop where
  /-- The signer is called for the same keys. -/
  calls : List.Forall₂ SigningCall.Alike listing.calls other.calls
  /-- The same becomes of the books. -/
  books : BooksAlike listing.books other.books

/-- Books that are alike may be listed in front. -/
theorem Alike.prepend
    {book otherBook : ListedRecord}
    {listing other : Listing}
    (here : book.Alike otherBook)
    (alike : listing.Alike other) :
    (listing.prepend book).Alike (other.prepend otherBook) := by
  obtain ⟨calls, result⟩ := listing
  obtain ⟨otherCalls, otherResult⟩ := other
  obtain ⟨sameCalls, books⟩ := alike
  refine ⟨sameCalls, ?_⟩
  cases books with
  | listed others => exact .listed (.cons here others)
  | failed failure => exact .failed failure

/-- Signers that answer alike make the same of some books, but for the
signatures of the links. -/
theorem alike_ofRecords
    {signer other : Signer}
    (answers : ∀ asked key, AnswersAlike (signer asked key) (other asked key))
    (asked : List String)
    (records : List StoredRecord) :
    (ofRecords signer asked records).Alike (ofRecords other asked records) := by
  induction records generalizing asked with
  | nil => exact ⟨.nil, .listed .nil⟩
  | cons record others inductionHypothesis =>
      cases image : record.image? with
      | none =>
          rw [ofRecords_cons_of_none _ _ _ image,
            ofRecords_cons_of_none _ _ _ image]
          exact (inductionHypothesis asked).prepend (.refl _)
      | some key =>
          have later := inductionHypothesis (asked ++ [key])
          have here := answers asked key
          simp only [ofRecords, image]
          generalize signer asked key = answer at here ⊢
          generalize other asked key = otherAnswer at here ⊢
          cases here with
          | refused fault =>
              -- The signer is not called for the books behind this one.
              exact ⟨.cons ⟨rfl, .refused fault⟩ .nil, .failed fault⟩
          | linked alike =>
              rename_i url otherUrl
              have linked : (record.listed url).Alike (record.listed otherUrl) :=
                ⟨rfl, alike⟩
              exact ⟨.cons ⟨rfl, .linked alike⟩ later.calls,
                (later.prepend linked).books⟩

end Listing

/-! ## Lookups -/

namespace Lookup

/-- The same becomes of two lookups, but for the signatures of the links. -/
structure Alike (lookup other : Lookup) : Prop where
  /-- The same scan is asked for. -/
  scan : lookup.scan = other.scan
  /-- The signer is called for the same keys. -/
  calls : List.Forall₂ SigningCall.Alike lookup.calls other.calls
  /-- The same becomes of the books. -/
  books : BooksAlike lookup.books other.books

/-- The same keys are signed. -/
theorem Alike.keys_eq
    {lookup other : Lookup}
    (alike : lookup.Alike other) :
    lookup.keys = other.keys :=
  SigningCall.map_eq_map (fun _ _ call => call.key) alike.calls

/-- The same events are counted. -/
theorem Alike.observations_eq
    {lookup other : Lookup}
    (alike : lookup.Alike other) :
    lookup.observations = other.observations := by
  obtain ⟨scan, calls, result⟩ := lookup
  obtain ⟨otherScan, otherCalls, otherResult⟩ := other
  obtain ⟨sameScan, sameCalls, books⟩ := alike
  have sameEvents : calls.map callObservation =
      otherCalls.map callObservation := by
    apply SigningCall.map_eq_map _ sameCalls
    intro call other here
    rw [callObservation, callObservation, here.succeeded_eq]
  dsimp only at sameScan
  rw [observations, observations, sameEvents, sameScan]
  cases books with
  | listed alike => rfl
  | failed failure => rfl

/-- Signers that answer alike make the same of a stream, but for the signatures
of the links. -/
theorem alike_ofStream
    {signer other : Signer}
    (answers : ∀ asked key, AnswersAlike (signer asked key) (other asked key))
    (asked : List String)
    (limit : Duration)
    (mode : ScanMode)
    (stream : BookStream) :
    (ofStream signer asked limit mode stream).Alike
      (ofStream other asked limit mode stream) := by
  unfold ofStream
  split
  · exact ⟨rfl, .nil, .failed _⟩
  · split
    · exact ⟨rfl, .nil, .failed _⟩
    · exact ⟨rfl, .nil, .failed _⟩
    · have listing := Listing.alike_ofRecords answers asked stream.records
      exact ⟨rfl, listing.calls, listing.books.mapError LookupFailure.signing⟩

end Lookup
end BookLookup
