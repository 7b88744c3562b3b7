import BookLookup.Proofs.Http.Answer
import BookLookup.Proofs.Http.FormQuery
import BookLookup.Proofs.Metrics.Balance
import BookLookup.Proofs.Metrics.Exposition
import BookLookup.Proofs.Signature.CanonicalQuery
import Mathlib.Data.List.TakeWhile

/-!
# Parameters of requests

A query that is written for some pairs is read as these pairs, so that a request
with it is answered with what becomes of the lookup with these parameters. Every
pair that is read has a value, whatever the query is, so that no answer says
that a value is missing.
-/

namespace BookLookup

/-! ## Written pairs -/

namespace FormQuery

/-- An encoded text is read back. -/
theorem decode_encode (text : String) :
    decode (Utf8.octets (PercentEncoding.encode .encoded text)) = text := by
  have noPlus : (Utf8.octets (PercentEncoding.encode .encoded text)).map
      plusToSpace = Utf8.octets (PercentEncoding.encode .encoded text) := by
    refine (List.map_congr_left fun octet member => ?_).trans (List.map_id _)
    rw [plusToSpace, if_neg]
    · rfl
    · rintro rfl
      exact PercentEncoding.octet_not_mem_encode (by decide) (by decide) text
        member
  rw [decode, noPlus, PercentEncoding.decodeOctets_octets_encode, Utf8.octets,
    Utf8.decodeLossy_encode, String.ofList_toList]

/-- The octets of a written pair. -/
def pairOctets (pair : String × String) : List UInt8 :=
  Utf8.octets (PercentEncoding.encode .encoded pair.1) ++
    0x3D :: Utf8.octets (PercentEncoding.encode .encoded pair.2)

theorem pair_pairOctets (written : String × String) :
    pair (pairOctets written) = written := by
  have noEquals : 0x3D ∉
      Utf8.octets (PercentEncoding.encode .encoded written.1) :=
    PercentEncoding.octet_not_mem_encode (by decide) (by decide) _
  rw [pair, pairOctets, Split.atFirst?_append _ noEquals]
  simp only [decode_encode]

/-- No ampersand stands in a written pair. -/
theorem ampersand_not_mem_pairOctets (pair : String × String) :
    0x26 ∉ pairOctets pair := by
  have absent (text : String) :
      0x26 ∉ Utf8.octets (PercentEncoding.encode .encoded text) :=
    PercentEncoding.octet_not_mem_encode (by decide) (by decide) text
  rw [pairOctets, List.mem_append, List.mem_cons]
  rintro (inName | isEquals | inValue)
  · exact absent pair.1 inName
  · cases isEquals
  · exact absent pair.2 inValue

/-- The octets of written pairs are those of the pairs, with ampersands between
them. -/
theorem octets_written (pairs : List (String × String)) :
    Utf8.octets (CanonicalQuery.written pairs) =
      Split.join 0x26 (pairs.map pairOctets) := by
  induction pairs with
  | nil => rfl
  | cons first others inductionHypothesis =>
      have octets : Utf8.octets
          (CanonicalQuery.pairText (CanonicalQuery.encodePair first)) =
            pairOctets first := by
        simp [CanonicalQuery.pairText, CanonicalQuery.encodePair, Utf8.octets,
          pairOctets, Utf8.encodeChar]
      cases others with
      | nil =>
          rw [CanonicalQuery.written, List.map_singleton,
            String.intercalate_singleton, octets]
          rfl
      | cons second more =>
          have more : Utf8.octets (CanonicalQuery.written
              (first :: second :: more)) = Utf8.octets
                (CanonicalQuery.pairText (CanonicalQuery.encodePair first)) ++
                0x26 :: Utf8.octets (CanonicalQuery.written
                  (second :: more)) := by
            rw [CanonicalQuery.written, List.map_cons, List.map_cons,
              String.intercalate_cons_cons, CanonicalQuery.written,
              List.map_cons]
            simp [Utf8.octets, Utf8.encodeChar]
          rw [more, octets, inductionHypothesis]
          rfl

/-- Written pairs are read back in their order. -/
theorem pairs_written (written : List (String × String)) :
    pairs (CanonicalQuery.written written) = written := by
  by_cases isNil : written = []
  · rw [isNil]
    rfl
  · have cut : Split.pieces 0x26 (Split.join 0x26 (written.map pairOctets)) =
        written.map pairOctets := by
      apply Split.pieces_join (by simpa using isNil)
      intro part member
      obtain ⟨pair, -, rfl⟩ := List.mem_map.mp member
      exact ampersand_not_mem_pairOctets pair
    have noneEmpty :
        (written.map pairOctets).filter (!·.isEmpty) =
          written.map pairOctets := by
      rw [List.filter_eq_self]
      intro part member
      obtain ⟨pair, -, rfl⟩ := List.mem_map.mp member
      simp [pairOctets]
    unfold pairs
    rw [octets_written, cut, noneEmpty, List.map_map]
    refine (List.map_congr_left fun pair _ => ?_).trans (List.map_id written)
    rw [Function.comp_apply, pair_pairOctets]
    rfl

end FormQuery

/-! ## Requests with written pairs -/

namespace HttpRequest

/-- A target asks for books by some pairs, which are written behind its question
mark. If there are none, the question mark may be missing. -/
inductive AsksForBooks : String -> List (String × String) -> Prop where
  /-- There is no question mark. -/
  | bare : AsksForBooks "/books" []
  /-- The pairs are written behind the question mark. -/
  | query (written : List (String × String)) :
      AsksForBooks ("/books?" ++ CanonicalQuery.written written) written

/-- Parameters that all have a value. -/
def present (written : List (String × String)) : List Parameter :=
  written.map fun (field, value) => (field, some value)

/-- The path of a target with written pairs is that of the books, and its query
has the pairs. -/
theorem AsksForBooks.pathAndQuery_eq
    {request : HttpRequest}
    {written : List (String × String)}
    (asks : AsksForBooks request.target written) :
    request.pathAndQuery = ("/books", CanonicalQuery.written written) := by
  generalize isTarget : request.target = target at asks
  cases asks with
  | bare =>
      rw [pathAndQuery, isTarget]
      decide
  | query written =>
      have characters : request.target.toList =
          "/books".toList ++ '?' :: (CanonicalQuery.written written).toList := by
        rw [isTarget, String.toList_append]
        rfl
      have fromSlash : fromPath request.target.toList =
          request.target.toList := by
        rw [characters]
        rfl
      have whole : request.target.toList.takeWhile (· ≠ '#') =
          request.target.toList := by
        rw [List.takeWhile_eq_self_iff, characters]
        intro symbol member
        rw [decide_eq_true_eq]
        rintro rfl
        rw [List.mem_append, List.mem_cons] at member
        rcases member with inPath | isMark | inQuery
        · exact absurd inPath (by decide)
        · cases isMark
        · exact CanonicalQuery.number_sign_not_mem_written written inQuery
      rw [pathAndQuery, fromSlash, whole, characters,
        Split.atFirst?_append _ (by decide)]
      simp only [String.ofList_toList]

theorem AsksForBooks.parameters_eq
    {request : HttpRequest}
    {written : List (String × String)}
    (asks : AsksForBooks request.target written) :
    request.parameters = present written := by
  rw [parameters, asks.pathAndQuery_eq, FormQuery.pairs_written, present]

theorem isSome_of_mem_parameters
    {request : HttpRequest}
    {parameter : Parameter}
    (member : parameter ∈ request.parameters) :
    parameter.2.isSome := by
  obtain ⟨pair, -, rfl⟩ := List.mem_map.mp member
  rfl

end HttpRequest

/-! ## Codes of answers -/

/-- The code that the body of an answer gives, if it is an object with one. -/
def HttpResponse.code? (response : HttpResponse) : Option String :=
  match Json.read? response.body with
  | some (.object members) =>
      (Json.valuesNamed ["code"] members).head?.bind Json.asString?
  | _ => none

theorem FailureKind.eq_missingValue
    {kind : FailureKind}
    (code : kind.row.code = "ERR_MISSING_VALUE") :
    kind = .missingValue := by
  revert code
  cases kind <;> decide

namespace HttpResponse

theorem code?_of_read?_eq_none
    {response : HttpResponse}
    (noJson : Json.read? response.body = none) :
    response.code? = none := by
  rw [code?, noJson]

theorem code?_withRequestId
    (response : HttpResponse)
    (requestId : Option RequestId) :
    code? { response with requestId } = response.code? := rfl

theorem code?_of_body_eq_empty
    {response : HttpResponse}
    (noBody : response.body = "") :
    response.code? = none := by
  apply code?_of_read?_eq_none
  rw [noBody]
  rfl

/-- Listed books give no code. -/
theorem code?_ofBooks_ok (books : List ListedRecord) :
    (ofBooks (.ok books)).code? = none := by
  have printable : (booksJson books).Printable := by
    apply Json.Printable.array
    intro element member
    obtain ⟨book, -, rfl⟩ := List.mem_map.mp member
    exact book.printable_toJson
  have read : Json.read? (ofBooks (.ok books)).body = some (booksJson books) :=
    printable.read?_render
  rw [code?, read, booksJson]

theorem code?_ofBooks_error (failure : LookupFailure) :
    (ofBooks (.error failure)).code? = some (Envelope.ofError failure).code := by
  have read := (Envelope.ofError failure).read?_render_toJson
  have body : (ofBooks (.error failure)).body =
      (Envelope.ofError failure).toJson.render := rfl
  rw [code?, body, read]
  rfl

/-- Only a parameter without a value gives the code for one. -/
theorem exists_of_code?_ofBooks_eq
    {result : Except LookupFailure (List ListedRecord)}
    (code : (ofBooks result).code? = some "ERR_MISSING_VALUE") :
    ∃ field, result = .error (.filter (.missingValue field)) := by
  cases result with
  | ok books =>
      rw [code?_ofBooks_ok] at code
      cases code
  | error failure =>
      rw [code?_ofBooks_error, Option.some.injEq] at code
      by_cases isEmpty : failure = .filter .empty
      · rw [isEmpty] at code
        exact absurd code (by decide)
      · obtain ⟨kind, ofKind⟩ := LookupFailure.exists_ofKind isEmpty
        have row : (Envelope.ofError failure).code = kind.row.code :=
          congrArg FailureKind.Row.code (Envelope.row_ofError ofKind)
        obtain rfl := FailureKind.eq_missingValue (row ▸ code)
        cases ofKind with
        | missingValue field => exact ⟨field, rfl⟩

end HttpResponse

/-! ## Lookups of requests -/

namespace Lookup

/-- A lookup whose parameters all have values does not fail for a missing
one. -/
theorem books_run_ne_missingValue
    {σ : Type}
    (store : BookStore σ)
    (signer : Signer)
    (asked : List String)
    (limit : Duration)
    {parameters : List Parameter}
    (state : σ)
    (present : ∀ parameter ∈ parameters, parameter.2.isSome)
    (field : String) :
    (run store signer asked limit parameters state).1.books ≠
      .error (.filter (.missingValue field)) := by
  cases asks : modeOf parameters with
  | ok mode =>
      rw [run, asks]
      apply books_ofStream_ne_filter
  | error fault =>
      rw [run_of_refused store signer asked limit state asks]
      rintro isMissing
      obtain rfl : fault = .missingValue field := by simpa using isMissing
      obtain ⟨nonempty, refused⟩ := modeOf_eq_error_iff.mp asks
      obtain ⟨front, parameter, rest, rfl, -, hasFault⟩ :=
        (Filter.ofParameters_eq_error_iff.mp refused).resolve_left
          fun isEmpty => nonempty isEmpty.1
      cases hasFault with
      | missingValue => simpa using present (field, none) (by simp)

end Lookup

namespace Service

variable {σ : Type}

/-- A direct lookup with some parameters, and the store afterwards with the
scans that have been opened. -/
def direct
    (service : Service σ)
    (state : ServiceState (σ × List ScanMode))
    (parameters : List Parameter) : Lookup × σ × List ScanMode :=
  Lookup.run service.store.recording service.signer state.asked service.limit
    parameters state.store

theorem lookUp_recording_fst
    (service : Service σ)
    (state : ServiceState (σ × List ScanMode))
    (parameters : List Parameter) :
    (service.recording.lookUp state parameters).1 =
      (service.direct state parameters).1 := rfl

theorem store_lookUp_recording
    (service : Service σ)
    (state : ServiceState (σ × List ScanMode))
    (parameters : List Parameter) :
    (service.recording.lookUp state parameters).2.store =
      (service.direct state parameters).2 := rfl

/-- A request is served by the direct lookup with some parameters. -/
structure ServesDirectly
    (service : Service σ)
    (state : ServiceState (σ × List ScanMode))
    (parameters : List Parameter)
    (served : Served (σ × List ScanMode)) : Prop where
  /-- The lookup is the direct one. -/
  lookup : served.lookup = some (service.direct state parameters).1
  /-- The store is left as by the direct one, with the same scans opened. -/
  store : served.state.store = (service.direct state parameters).2
  /-- The answer is that for what becomes of it. -/
  answer : ∀ result, (service.direct state parameters).1.books = result ->
    served.response.status = (HttpResponse.ofBooks result).status ∧
      served.response.body = (HttpResponse.ofBooks result).body
  /-- Parameters that ask for a scan open this scan and no other. -/
  scanned : ∀ mode, Lookup.AsksFor parameters mode ->
    (service.direct state parameters).1.scan = some mode ∧
      served.state.store =
        ((service.store mode state.store.1).2, state.store.2 ++ [mode])
  /-- Refused parameters open none, and their fault is the result. -/
  refused : ∀ fault, parameters ≠ [] ->
    Filter.ofParameters parameters = .error fault ->
    (service.direct state parameters).1 =
        ⟨none, [], .error (.filter fault)⟩ ∧
      served.state.store = state.store

/-- A GET request for books is served by the direct lookup with its
parameters. -/
theorem servesDirectly
    (service : Service σ)
    (state : ServiceState (σ × List ScanMode))
    {request : HttpRequest}
    (get : request.method = "GET")
    (path : request.pathAndQuery.1 = "/books") :
    service.ServesDirectly state request.parameters
      (service.recording.serve state request) := by
  have store : (service.recording.serve state request).state.store =
      (service.direct state request.parameters).2 := by
    rw [serve_eq_serveBooks _ _ get path, state_serveBooks, counting,
      store_lookUp_recording]
  constructor
  case lookup =>
    rw [serve_eq_serveBooks _ _ get path, lookup_serveBooks,
      lookUp_recording_fst]
  case store => exact store
  case answer =>
    intro result isResult
    rw [serve_eq_serveBooks _ _ get path, response_serveBooks,
      lookUp_recording_fst, isResult]
    exact ⟨rfl, rfl⟩
  case scanned =>
    intro mode asksFor
    rw [store, direct, Lookup.run, asksFor.modeOf_eq]
    exact ⟨Lookup.scan_ofStream _ _ _ _ _, rfl⟩
  case refused =>
    intro fault nonempty refused
    rw [store, direct, Lookup.run_of_refused _ _ _ _ _
      (Lookup.modeOf_eq_error_iff.mpr ⟨nonempty, refused⟩)]
    exact ⟨rfl, rfl⟩

/-- The lookup of a request for books does not fail for a missing value. -/
theorem books_lookUp_ne_missingValue
    (service : Service σ)
    (state : ServiceState σ)
    (request : HttpRequest)
    (field : String) :
    (service.lookUp state request.parameters).1.books ≠
      .error (.filter (.missingValue field)) := by
  rw [lookUp_fst]
  apply Lookup.books_run_ne_missingValue
  exact fun _ => HttpRequest.isSome_of_mem_parameters

/-- Neither is it answered that one is missing. -/
theorem code?_serveBooks_ne
    (service : Service σ)
    (state : ServiceState σ)
    (request : HttpRequest) :
    (service.serveBooks state request).response.code? ≠
      some "ERR_MISSING_VALUE" := by
  intro code
  rw [response_serveBooks, HttpResponse.code?_withRequestId] at code
  obtain ⟨field, isMissing⟩ := HttpResponse.exists_of_code?_ofBooks_eq code
  exact service.books_lookUp_ne_missingValue state request field isMissing

/-- What is served aside gives no code. -/
theorem ServedAside.code?_eq_none
    {state : ServiceState σ}
    {served : Served σ}
    (aside : ServedAside state served) :
    served.response.code? = none := by
  apply HttpResponse.code?_of_read?_eq_none
  have body := aside.body
  simp only [List.mem_cons, List.not_mem_nil, or_false] at body
  rcases body with isBody | isBody | isBody
  · rw [isBody]
    rfl
  · rw [isBody]
    rfl
  · rw [isBody]
    exact Exposition.read?_render state.registry

/-- No request is answered with the code for a missing value, and no lookup
fails for one. -/
theorem missingValue_not_served
    (service : Service σ)
    (state : ServiceState σ)
    (request : HttpRequest) :
    (∀ lookup field,
        (service.serve state request).lookup = some lookup ->
        lookup.books ≠ .error (.filter (.missingValue field))) ∧
      (service.serve state request).response.code? ≠
        some "ERR_MISSING_VALUE" := by
  cases forBooks : request.isForBooks with
  | false =>
      have aside := service.servedAside_serve state forBooks
      rw [aside.noLookup, aside.code?_eq_none]
      exact ⟨nofun, nofun⟩
  | true =>
      constructor
      · intro lookup field isLookup
        rw [service.lookup_serve_of_isForBooks state forBooks] at isLookup
        obtain rfl := Option.some.inj isLookup
        exact service.books_lookUp_ne_missingValue state request field
      · rcases service.serve_cases_of_isForBooks state forBooks with
          ⟨-, served⟩ | ⟨-, served⟩
        · rw [served]
          exact service.code?_serveBooks_ne state request
        · rw [served, Served.withoutBody,
            HttpResponse.code?_of_body_eq_empty rfl]
          exact nofun

/-- A GET request for books with written pairs makes the direct lookup with
these pairs, in their order and each with its value, so that it opens the same
scan or is refused for the same fault. Whatever the request is, each of its
parameters has a value, and it is not answered that one is missing. -/
theorem parameters_reach_lookup
    (service : Service σ)
    (state : ServiceState (σ × List ScanMode))
    (request : HttpRequest) :
    let served := service.recording.serve state request
    (∀ written, request.method = "GET" ->
        HttpRequest.AsksForBooks request.target written ->
        request.parameters = HttpRequest.present written ∧
          service.ServesDirectly state (HttpRequest.present written) served) ∧
      (∀ parameter ∈ request.parameters, parameter.2.isSome) ∧
      (∀ lookup field, served.lookup = some lookup ->
        lookup.books ≠ .error (.filter (.missingValue field))) ∧
      served.response.code? ≠ some "ERR_MISSING_VALUE" := by
  intro served
  refine ⟨?_, fun _ => HttpRequest.isSome_of_mem_parameters,
    service.recording.missingValue_not_served state request⟩
  intro written get asks
  have path : request.pathAndQuery.1 = "/books" := by
    rw [asks.pathAndQuery_eq]
  refine ⟨asks.parameters_eq, ?_⟩
  rw [← asks.parameters_eq]
  exact service.servesDirectly state get path

/-- A field that is written twice, once with a plus sign, an ampersand and an
equals sign in its value and once without a value, is refused as such. -/
theorem duplicate_title_reaches_lookup :
    let written := [("title", "a+b&c="), ("title", "")]
    let request : HttpRequest :=
      ⟨"GET", "/books?" ++ CanonicalQuery.written written, [], 7, ⟨0⟩⟩
    let service : Service Unit :=
      ⟨Lookup.storeOf [.ends], fun _ key => .ok key, ⟨0⟩⟩
    let state : ServiceState (Unit × List ScanMode) := ⟨((), []), [], .empty⟩
    request.parameters = [("title", some "a+b&c="), ("title", some "")] ∧
      (service.recording.serve state request).state.store = ((), []) ∧
      (service.recording.serve state request).lookup =
        some ⟨none, [], .error (.filter (.duplicateField "title"))⟩ := by
  intro written request service state
  obtain ⟨parameters, direct⟩ :=
    (service.parameters_reach_lookup state request).1 written rfl
      (.query written)
  obtain ⟨fault, unopened⟩ :=
    direct.refused (.duplicateField "title") (by decide) (by rfl)
  exact ⟨parameters, unopened, fault ▸ direct.lookup⟩

end Service
end BookLookup
