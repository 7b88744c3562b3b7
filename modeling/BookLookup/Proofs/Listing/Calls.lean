import BookLookup.Lookup
import BookLookup.Proofs.Elementwise
import BookLookup.Proofs.Metrics.Registry

/-!
# The calls behind a listing

A signer is called once for every book that names an image, in order, up to the
first call that fails. Its answers may depend on all calls before. If none fails,
the books are listed in their order, each with the link of its own call;
otherwise the failure is the result. The calls are counted by their outcomes.
-/

namespace BookLookup

/-- The calls of a signer for some keys in order, after it has been asked for
some others. -/
def Signer.callsFor
    (signer : Signer) : List String -> List String -> List SigningCall
  | _, [] => []
  | asked, key :: later =>
      ⟨key, signer asked key⟩ :: callsFor signer (asked ++ [key]) later

namespace SigningCall

/-- Calls up to the first that fails. -/
def upToFailure (calls : List SigningCall) : List SigningCall :=
  calls.takeWhile (·.succeeded) ++ (calls.dropWhile (·.succeeded)).take 1

theorem upToFailure_cons_of_succeeded
    {call : SigningCall}
    (later : List SigningCall)
    (succeeded : call.succeeded) :
    upToFailure (call :: later) = call :: upToFailure later := by
  simp [upToFailure, succeeded]

theorem upToFailure_cons_of_failed
    {call : SigningCall}
    (later : List SigningCall)
    (failed : call.succeeded = false) :
    upToFailure (call :: later) = [call] := by
  simp [upToFailure, failed]

/-- Of calls up to the first that fails, one has failed if not all succeed. -/
theorem countP_failed_upToFailure (calls : List SigningCall) :
    (upToFailure calls).countP (!·.succeeded) =
      if ∀ call ∈ upToFailure calls, call.succeeded then 0 else 1 := by
  induction calls with
  | nil => rfl
  | cons call later inductionHypothesis =>
      cases outcome : call.succeeded with
      | false =>
          rw [upToFailure_cons_of_failed later outcome]
          simp [outcome]
      | true =>
          rw [upToFailure_cons_of_succeeded later outcome,
            List.countP_cons_of_neg (by simp [outcome]), inductionHypothesis]
          simp [outcome]

theorem succeeded_iff {call : SigningCall} :
    call.succeeded ↔ ∀ fault, call.answer ≠ .error fault := by
  unfold succeeded
  cases call.answer with
  | error fault => simp
  | ok link => simp

end SigningCall

/-- To ask for the keys of calls up to the first that fails is to make these
calls. -/
theorem Signer.callsFor_map_key_upToFailure
    (signer : Signer)
    (asked keys : List String) :
    signer.callsFor asked
        ((SigningCall.upToFailure (signer.callsFor asked keys)).map
          SigningCall.key) =
      SigningCall.upToFailure (signer.callsFor asked keys) := by
  induction keys generalizing asked with
  | nil => rfl
  | cons key later inductionHypothesis =>
      rw [callsFor]
      cases outcome : (SigningCall.mk key (signer asked key)).succeeded with
      | false =>
          rw [SigningCall.upToFailure_cons_of_failed _ outcome]
          rfl
      | true =>
          rw [SigningCall.upToFailure_cons_of_succeeded _ outcome,
            List.map_cons, callsFor, inductionHypothesis]

/-! ## Images -/

/-- The keys of the images of some books, in order. -/
def imageKeys (records : List StoredRecord) : List String :=
  records.filterMap StoredRecord.image?

theorem imageKeys_cons_of_none
    {record : StoredRecord}
    (others : List StoredRecord)
    (noImage : record.image? = none) :
    imageKeys (record :: others) = imageKeys others :=
  List.filterMap_cons_none noImage

theorem imageKeys_cons_of_some
    {record : StoredRecord}
    {key : String}
    (others : List StoredRecord)
    (image : record.image? = some key) :
    imageKeys (record :: others) = key :: imageKeys others :=
  List.filterMap_cons_some image

theorem StoredRecord.image?_eq_none_iff {record : StoredRecord} :
    record.image? = none ↔
      record.imageKey = none ∨ record.imageKey = some "" := by
  cases key : record.imageKey <;> simp [image?, key]

theorem StoredRecord.image?_eq_some_iff
    {record : StoredRecord}
    {key : String} :
    record.image? = some key ↔ record.imageKey = some key ∧ key ≠ "" := by
  simp [image?, Option.filter_eq_some_iff]

namespace Listing

/-- A failed call ends a listing. -/
theorem ofRecords_cons_of_error
    {signer : Signer}
    {asked : List String}
    {record : StoredRecord}
    {key : String}
    {fault : LinkFault}
    (others : List StoredRecord)
    (image : record.image? = some key)
    (refused : signer asked key = .error fault) :
    ofRecords signer asked (record :: others) =
      ⟨[⟨key, .error fault⟩], .error fault⟩ := by
  simp [ofRecords, image, refused]

/-- A book whose call gives a link is listed with it in front of the others. -/
theorem ofRecords_cons_of_ok
    {signer : Signer}
    {asked : List String}
    {record : StoredRecord}
    {key link : String}
    (others : List StoredRecord)
    (image : record.image? = some key)
    (linked : signer asked key = .ok link) :
    ofRecords signer asked (record :: others) =
      { (ofRecords signer (asked ++ [key]) others).prepend
          (record.listed link) with
        calls := ⟨key, .ok link⟩ ::
          (ofRecords signer (asked ++ [key]) others).calls } := by
  simp [ofRecords, image, linked]

end Listing

/-! ## What a listing makes of the calls -/

/-- A listed book shows a stored one, with the link that a call at a position
gave for its image. -/
structure ListedRecord.Shows
    (calls : List SigningCall)
    (position : Nat)
    (record : StoredRecord)
    (book : ListedRecord) : Prop where
  /-- It has the same identity. -/
  id : book.id = record.id
  /-- It has the same number of the edition. -/
  isbn : book.isbn = record.isbn
  /-- It has the same title. -/
  title : book.title = record.title
  /-- It has the same publisher. -/
  publisher : book.publisher = record.publisher
  /-- It has the same authors in the same order. -/
  authors : book.authors = record.authors
  /-- It has the same genres in the same order. -/
  genres : book.genres = record.genres
  /-- There is no link if there is no key or an empty one. -/
  unlinked : record.imageKey = none ∨ record.imageKey = some "" ->
    book.imageUrl = ""
  /-- Otherwise the link is what the call at the position gave for the key. -/
  linked : ∀ key, record.imageKey = some key -> key ≠ "" ->
    calls[position]? = some ⟨key, .ok book.imageUrl⟩

/-- A listing calls a signer for the images of some books in order, and makes of
the books what the calls allow. -/
structure Listing.FollowsCalls
    (signer : Signer)
    (asked : List String)
    (records : List StoredRecord)
    (listing : Listing) : Prop where
  /-- The calls are those for all images, up to the first that fails. -/
  calls : listing.calls =
    SigningCall.upToFailure (signer.callsFor asked (imageKeys records))
  /-- As many books are listed as stored. -/
  length : ∀ books, listing.books = .ok books ->
    books.length = records.length
  /-- Each shows the stored one in its place, with the link of its own call. This
  stands behind one call for each image before. -/
  shows : ∀ books, listing.books = .ok books ->
    ∀ (place : Nat) (record : StoredRecord) (book : ListedRecord),
      records[place]? = some record -> books[place]? = some book ->
      book.Shows listing.calls (imageKeys (records.take place)).length record
  /-- The failure of a call is that of the listing. -/
  fails : ∀ fault, listing.books = .error fault ↔
    ∃ call ∈ listing.calls, call.answer = .error fault

namespace Listing.FollowsCalls

variable {signer : Signer} {asked : List String}

/-- Without books there are no calls. -/
theorem nil : FollowsCalls signer asked [] ⟨[], .ok []⟩ := by
  constructor
  case calls => rfl
  case length =>
    intro books listed
    obtain rfl := Except.ok.inj listed
    rfl
  case shows => simp
  case fails => simp

/-- A book without an image is listed in front of others without a call. -/
theorem withoutImage
    {record : StoredRecord}
    {others : List StoredRecord}
    {listing : Listing}
    (noImage : record.image? = none)
    (follows : FollowsCalls signer asked others listing) :
    FollowsCalls signer asked (record :: others)
      (listing.prepend (record.listed "")) := by
  constructor
  case calls =>
    rw [imageKeys_cons_of_none others noImage]
    exact follows.calls
  case length =>
    intro books listed
    obtain ⟨rest, restListed, rfl⟩ := map_eq_ok_iff.mp listed
    rw [List.length_cons, List.length_cons, follows.length rest restListed]
  case shows =>
    intro books listed place stored book isStored isListed
    obtain ⟨rest, restListed, rfl⟩ := map_eq_ok_iff.mp listed
    cases place with
    | zero =>
        obtain rfl := Option.some.inj isStored
        obtain rfl := Option.some.inj isListed
        refine ⟨rfl, rfl, rfl, rfl, rfl, rfl, fun _ => rfl, ?_⟩
        intro key isKey nonempty
        cases noImage.symm.trans
          (StoredRecord.image?_eq_some_iff.mpr ⟨isKey, nonempty⟩)
    | succ place =>
        rw [List.take_succ_cons, imageKeys_cons_of_none _ noImage]
        exact follows.shows rest restListed place stored book isStored isListed
  case fails =>
    intro fault
    exact map_eq_error_iff.trans (follows.fails fault)

/-- Behind a failed call there is no other. -/
theorem refused
    {record : StoredRecord}
    {key : String}
    {fault : LinkFault}
    (others : List StoredRecord)
    (image : record.image? = some key)
    (answer : signer asked key = .error fault) :
    FollowsCalls signer asked (record :: others)
      ⟨[⟨key, .error fault⟩], .error fault⟩ := by
  constructor
  case calls =>
    rw [imageKeys_cons_of_some others image, Signer.callsFor, answer,
      SigningCall.upToFailure_cons_of_failed _ rfl]
  case length => exact fun _ listed => nomatch listed
  case shows => exact fun _ listed => nomatch listed
  case fails => simp

/-- A book is listed with the link of its call in front of others, whose calls
come later. -/
theorem linked
    {record : StoredRecord}
    {key link : String}
    {others : List StoredRecord}
    {listing : Listing}
    (image : record.image? = some key)
    (answer : signer asked key = .ok link)
    (follows : FollowsCalls signer (asked ++ [key]) others listing) :
    FollowsCalls signer asked (record :: others)
      { listing.prepend (record.listed link) with
        calls := ⟨key, .ok link⟩ :: listing.calls } := by
  constructor
  case calls =>
    rw [imageKeys_cons_of_some others image, Signer.callsFor, answer,
      SigningCall.upToFailure_cons_of_succeeded _ rfl, follows.calls]
  case length =>
    intro books listed
    obtain ⟨rest, restListed, rfl⟩ := map_eq_ok_iff.mp listed
    rw [List.length_cons, List.length_cons, follows.length rest restListed]
  case shows =>
    intro books listed place stored book isStored isListed
    obtain ⟨rest, restListed, rfl⟩ := map_eq_ok_iff.mp listed
    cases place with
    | zero =>
        obtain rfl := Option.some.inj isStored
        obtain rfl := Option.some.inj isListed
        refine ⟨rfl, rfl, rfl, rfl, rfl, rfl, ?_, ?_⟩
        · intro noKey
          cases image.symm.trans (StoredRecord.image?_eq_none_iff.mpr noKey)
        · intro own isOwn nonempty
          have same : some key = some own := image.symm.trans
            (StoredRecord.image?_eq_some_iff.mpr ⟨isOwn, nonempty⟩)
          obtain rfl := Option.some.inj same
          rfl
    | succ place =>
        have shown :=
          follows.shows rest restListed place stored book isStored isListed
        rw [List.take_succ_cons, imageKeys_cons_of_some _ image,
          List.length_cons]
        exact { shown with linked := shown.linked }
  case fails =>
    intro fault
    rw [List.exists_mem_cons_iff, or_iff_right nofun]
    exact map_eq_error_iff.trans (follows.fails fault)

/-- Books are listed exactly if no call fails. -/
theorem exists_books_iff
    {records : List StoredRecord}
    {listing : Listing}
    (follows : FollowsCalls signer asked records listing) :
    (∃ books, listing.books = .ok books) ↔
      ∀ call ∈ listing.calls, call.succeeded := by
  simp only [SigningCall.succeeded_iff]
  cases ending : listing.books with
  | error fault =>
      obtain ⟨call, member, failed⟩ := (follows.fails fault).mp ending
      refine iff_of_false (by simp) fun allSucceed => ?_
      exact allSucceed call member fault failed
  | ok books =>
      refine iff_of_true ⟨books, rfl⟩ fun call member fault failed => ?_
      cases ending.symm.trans ((follows.fails fault).mpr ⟨call, member, failed⟩)

end Listing.FollowsCalls

namespace Listing

/-- A listing follows the calls of its signer. -/
theorem followsCalls_ofRecords
    (signer : Signer)
    (asked : List String)
    (records : List StoredRecord) :
    FollowsCalls signer asked records (ofRecords signer asked records) := by
  -- The answers for later books depend on the keys asked for before.
  induction records generalizing asked with
  | nil => exact .nil
  | cons record others inductionHypothesis =>
      cases image : record.image? with
      | none =>
          rw [ofRecords_cons_of_none _ _ _ image]
          exact .withoutImage image (inductionHypothesis asked)
      | some key =>
          cases answer : signer asked key with
          | error fault =>
              rw [ofRecords_cons_of_error others image answer]
              exact .refused others image answer
          | ok link =>
              rw [ofRecords_cons_of_ok others image answer]
              exact .linked image answer (inductionHypothesis (asked ++ [key]))

/-- The calls of a listing are those of its keys. -/
theorem callsFor_keys_ofRecords
    (signer : Signer)
    (asked : List String)
    (records : List StoredRecord) :
    signer.callsFor asked (ofRecords signer asked records).keys =
      (ofRecords signer asked records).calls := by
  rw [keys, (followsCalls_ofRecords signer asked records).calls,
    Signer.callsFor_map_key_upToFailure]

/-- One call of a listing has failed if it lists nothing, and none otherwise. -/
theorem countP_failed_ofRecords
    (signer : Signer)
    (asked : List String)
    (records : List StoredRecord) :
    (ofRecords signer asked records).calls.countP (!·.succeeded) =
      if (ofRecords signer asked records).books.isOk then 0 else 1 := by
  have follows := followsCalls_ofRecords signer asked records
  have succeeds := follows.exists_books_iff
  rw [follows.calls] at succeeds
  rw [follows.calls, SigningCall.countP_failed_upToFailure]
  cases ending : (ofRecords signer asked records).books with
  | error fault =>
      rw [if_neg]
      · rfl
      · intro allSucceed
        obtain ⟨books, listed⟩ := succeeds.mpr allSucceed
        cases ending.symm.trans listed
  | ok books =>
      rw [if_pos (succeeds.mp ⟨books, ending⟩)]
      rfl

end Listing

/-! ## Counted calls -/

/-- The calls of a listing have been counted from one registry to another. -/
structure Listing.IsCounted
    (listing : Listing)
    (before after : Registry) : Prop where
  /-- Those that gave a link have. -/
  signed : after.value .signedUrls ["ok"] =
    before.value .signedUrls ["ok"] + listing.calls.countP (·.succeeded)
  /-- One that failed has, if nothing is listed. -/
  unsigned : after.value .signedUrls ["error"] =
    before.value .signedUrls ["error"] +
      if listing.books.isOk then 0 else 1

namespace Lookup

/-- A stream that ends in time is listed. -/
theorem ofStream_of_finished
    (signer : Signer)
    (asked : List String)
    {limit wait : Duration}
    (mode : ScanMode)
    (records : List StoredRecord)
    (inTime : wait.nanoseconds ≤ limit.nanoseconds) :
    ofStream signer asked limit mode ⟨records, .finished, wait⟩ =
      ⟨some mode, (Listing.ofRecords signer asked records).calls,
        (Listing.ofRecords signer asked records).books.mapError .signing⟩ := by
  rw [ofStream, if_neg (Nat.not_lt.mpr inTime)]

/-- The calls of a lookup are counted by their outcomes. -/
theorem value_observations_of_scan
    (mode : ScanMode)
    (calls : List SigningCall)
    (books : Except LookupFailure (List ListedRecord))
    (registry : Registry)
    (outcome : String) :
    (registry.observeAll
        (observations ⟨some mode, calls, books⟩)).value .signedUrls [outcome] =
      registry.value .signedUrls [outcome] +
        calls.countP fun call =>
          (if call.succeeded then "ok" else "error") = outcome := by
  have own (call : SigningCall) :
      (callObservation call).labels? .signedUrls = some [outcome] ↔
        (if call.succeeded then "ok" else "error") = outcome := by
    simp [callObservation, Observation.labels?]
  rw [Registry.value_observeAll, observations, List.countP_append,
    List.countP_map]
  simp only [Function.comp_def, own]
  rfl

end Lookup

namespace Listing

/-- The calls of a listing are counted when a lookup lists its books. -/
theorem isCounted_ofRecords
    (signer : Signer)
    (asked : List String)
    (records : List StoredRecord)
    {limit wait : Duration}
    (mode : ScanMode)
    (registry : Registry)
    (inTime : wait.nanoseconds ≤ limit.nanoseconds) :
    (ofRecords signer asked records).IsCounted registry
      (registry.observeAll (Lookup.ofStream signer asked limit mode
        ⟨records, .finished, wait⟩).observations) := by
  rw [Lookup.ofStream_of_finished signer asked mode records inTime]
  constructor
  case signed =>
    rw [Lookup.value_observations_of_scan]
    congr 2
    funext call
    cases call.succeeded <;> decide
  case unsigned =>
    rw [Lookup.value_observations_of_scan, ← countP_failed_ofRecords]
    congr 2
    funext call
    cases call.succeeded <;> decide

/-- Whatever a signer answers, and whatever it has been asked before, a listing
follows its calls: it calls it for all images in order, up to the first call
that fails. It succeeds exactly if none does, and a lookup that lists the books
counts the calls by their outcomes. -/
theorem listing_follows_calls
    (signer : Signer)
    (asked : List String)
    (records : List StoredRecord) :
    FollowsCalls signer asked records (ofRecords signer asked records) ∧
      ((∃ books, (ofRecords signer asked records).books = .ok books) ↔
        ∀ call ∈ (ofRecords signer asked records).calls, call.succeeded) ∧
      ∀ (limit wait : Duration) (mode : ScanMode) (registry : Registry),
        wait.nanoseconds ≤ limit.nanoseconds ->
        (ofRecords signer asked records).IsCounted registry
          (registry.observeAll (Lookup.ofStream signer asked limit mode
            ⟨records, .finished, wait⟩).observations) := by
  have follows := followsCalls_ofRecords signer asked records
  refine ⟨follows, follows.exists_books_iff, ?_⟩
  intro limit wait mode registry inTime
  exact isCounted_ofRecords signer asked records mode registry inTime

/-- A signer that tells in each link what it was asked before, and refuses the
third key. -/
def recallingSigner : Signer := fun asked key =>
  if asked.length < 2 then .ok (String.join asked ++ key) else .error .emptyKey

/-- A book of which only the identity and the key of the image are known. -/
def bookWithKey (id : String) (imageKey : Option String) : StoredRecord :=
  ⟨id, "", "", "", [], [], imageKey⟩

/-- A key that comes twice is signed twice, and the second book has the link of
the second call. A third one is refused, so that no book is listed, and one
failure is counted. -/
theorem listing_follows_calls_of_repeated_key :
    let front := [bookWithKey "1" (some "a"), bookWithKey "2" (some ""),
      bookWithKey "3" none, bookWithKey "4" (some "a")]
    let whole := front ++ [bookWithKey "5" (some "b"), bookWithKey "6" (some "c")]
    let registry := Registry.empty.observeAll (Lookup.ofStream recallingSigner
      [] ⟨0⟩ .all ⟨whole, .finished, ⟨0⟩⟩).observations
    (∃ books book,
      (ofRecords recallingSigner [] front).books = .ok books ∧
        books[3]? = some book ∧
        (ofRecords recallingSigner [] front).calls[1]? =
          some ⟨"a", .ok book.imageUrl⟩) ∧
      (ofRecords recallingSigner [] whole).books = .error .emptyKey ∧
      registry.value .signedUrls ["error"] = 1 := by
  intro front whole registry
  obtain ⟨followsFront, -, -⟩ :=
    listing_follows_calls recallingSigner [] front
  obtain ⟨followsWhole, -, counted⟩ :=
    listing_follows_calls recallingSigner [] whole
  refine ⟨?_, ?_, ?_⟩
  · refine ⟨_, _, rfl, rfl, ?_⟩
    exact (followsFront.shows _ rfl 3 _ _ rfl rfl).linked "a" rfl (by decide)
  · apply (followsWhole.fails _).mpr
    refine ⟨⟨"b", .error .emptyKey⟩, ?_, rfl⟩
    exact .tail _ (.tail _ (.head _))
  · exact (counted ⟨0⟩ ⟨0⟩ .all .empty (Nat.le_refl _)).unsigned

end Listing
end BookLookup
