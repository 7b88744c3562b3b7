import BookLookup.Proofs.Http.Serving
import BookLookup.Proofs.Lookup
import BookLookup.Proofs.Metrics.Registry
import BookLookup.Proofs.Record

/-!
# Answers to requests for books

Every failure of a lookup is of one kind, and for every kind a status, a code
and whether it is worth trying again are documented. The answer to a request
for books is the list that the lookup gives or the object that is documented
for its failure. Of a failure for which no text is documented it tells nothing
but the kind. The request is counted once, under the status of the answer.
-/

namespace BookLookup

/-! ## Kinds of failures -/

/-- The kinds of failures. -/
inductive FailureKind where
  | unknownField
  | duplicateField
  | missingValue
  | rejected
  | storeTimeout
  /-- The store fails in any other way. -/
  | storeUnavailable
  | signing
  | lookupTimeout
  deriving DecidableEq, Repr

namespace FailureKind

/-- What is documented for a kind. -/
structure Row where
  /-- The status. -/
  status : Nat
  /-- The code. -/
  code : String
  /-- Whether it is worth trying again. -/
  retryable : Bool
  deriving DecidableEq, Repr

/-- The documented row of a kind. -/
def row : FailureKind -> Row
  | unknownField => ⟨400, "ERR_UNKNOWN_FIELD", false⟩
  | duplicateField => ⟨400, "ERR_DUPLICATE_FIELD", false⟩
  | missingValue => ⟨400, "ERR_MISSING_VALUE", false⟩
  | rejected => ⟨502, "ERR_STORE_REJECTED", false⟩
  | storeTimeout => ⟨504, "ERR_STORE_TIMEOUT", true⟩
  | storeUnavailable => ⟨503, "ERR_STORE_UNAVAILABLE", true⟩
  | signing => ⟨500, "ERR_SIGNING_FAILED", false⟩
  | lookupTimeout => ⟨504, "ERR_REQUEST_TIMEOUT", true⟩

/-- Whether the caller learns more than the kind. -/
def isTold : FailureKind -> Bool
  | unknownField | duplicateField | missingValue | rejected => true
  | storeTimeout | storeUnavailable | signing | lookupTimeout => false

end FailureKind

namespace LookupFailure

/-- A failure is of a kind. -/
inductive OfKind : LookupFailure -> FailureKind -> Prop
  | unknownField (field : String) :
      OfKind (.filter (.unknownField field)) .unknownField
  | duplicateField (field : String) :
      OfKind (.filter (.duplicateField field)) .duplicateField
  | missingValue (field : String) :
      OfKind (.filter (.missingValue field)) .missingValue
  | rejected (status : Nat) (type message : String) :
      OfKind (.store (.rejected status type message)) .rejected
  | storeTimeout : OfKind (.store .timeout) .storeTimeout
  | transport : OfKind (.store .transport) .storeUnavailable
  | undecodable : OfKind (.store .undecodable) .storeUnavailable
  | invalidResponse (detail : String) :
      OfKind (.store (.invalidResponse detail)) .storeUnavailable
  | invalidRequest (detail : String) :
      OfKind (.store (.invalidRequest detail)) .storeUnavailable
  | signing (fault : LinkFault) : OfKind (.signing fault) .signing
  | timeout (limit : Duration) : OfKind (.timeout limit) .lookupTimeout

/-- The text that the caller learns of a failure, if there is one. -/
inductive Tells : LookupFailure -> String -> Prop
  | unknownField (field : String) :
      Tells (.filter (.unknownField field))
        ("The field, " ++ field ++ ", was not found on resource type: " ++
          "Book")
  | duplicateField (field : String) :
      Tells (.filter (.duplicateField field))
        ("The field, " ++ field ++ ", was provided more than once")
  | missingValue (field : String) :
      Tells (.filter (.missingValue field))
        "Unexpected null value found in parameter map."
  | rejected (status : Nat) (type message : String) :
      Tells (.store (.rejected status type message))
        ("record store rejected the scan (" ++ type ++ "): " ++ message)

/-- Two lookups fail in the same way, of which the caller learns nothing but the
kind. -/
inductive FailAlike :
    Except LookupFailure (List ListedRecord) ->
      Except LookupFailure (List ListedRecord) -> Prop
  | intro
      {failure other : LookupFailure}
      {kind : FailureKind}
      (ofKind : failure.OfKind kind)
      (otherOfKind : other.OfKind kind)
      (untold : kind.isTold = false) :
      FailAlike (.error failure) (.error other)

/-- Every failure is of some kind, except that there are no parameters. -/
theorem exists_ofKind
    {failure : LookupFailure}
    (notEmpty : failure ≠ .filter .empty) :
    ∃ kind, failure.OfKind kind := by
  cases failure with
  | filter fault =>
      cases fault with
      | empty => exact absurd rfl notEmpty
      | unknownField field => exact ⟨_, .unknownField field⟩
      | duplicateField field => exact ⟨_, .duplicateField field⟩
      | missingValue field => exact ⟨_, .missingValue field⟩
  | store fault =>
      cases fault with
      | timeout => exact ⟨_, .storeTimeout⟩
      | transport => exact ⟨_, .transport⟩
      | rejected status type message => exact ⟨_, .rejected status type message⟩
      | undecodable => exact ⟨_, .undecodable⟩
      | invalidResponse detail => exact ⟨_, .invalidResponse detail⟩
      | invalidRequest detail => exact ⟨_, .invalidRequest detail⟩
  | signing fault => exact ⟨_, .signing fault⟩
  | timeout limit => exact ⟨_, .timeout limit⟩

end LookupFailure

/-! ## The object of a failure -/

namespace Envelope

/-- The object of a failure is read back from its text. -/
theorem read?_render_toJson (envelope : Envelope) :
    Json.read? envelope.toJson.render =
      some (.object [("code", .string envelope.code),
        ("message", .string envelope.message),
        ("retryable", .bool envelope.retryable)]) := by
  have printable : envelope.toJson.Printable := by
    apply Json.Printable.object
    intro member inObject
    simp only [List.mem_cons, List.not_mem_nil, or_false] at inObject
    rcases inObject with rfl | rfl | rfl
    · exact .string envelope.code
    · exact .string envelope.message
    · exact .bool envelope.retryable
  exact printable.read?_render

theorem row_ofError
    {failure : LookupFailure}
    {kind : FailureKind}
    (ofKind : failure.OfKind kind) :
    ⟨(ofError failure).status, (ofError failure).code,
      (ofError failure).retryable⟩ = kind.row := by
  cases ofKind <;> rfl

theorem message_ofError
    {failure : LookupFailure}
    {text : String}
    (tells : failure.Tells text) :
    (ofError failure).message = text := by
  cases tells <;> rfl

/-- Where the caller learns nothing but the kind, the kind determines the
object. -/
theorem ofError_eq_of_ofKind
    {failure other : LookupFailure}
    {kind : FailureKind}
    (ofKind : failure.OfKind kind)
    (otherOfKind : other.OfKind kind)
    (untold : kind.isTold = false) :
    ofError failure = ofError other := by
  cases kind with
  | unknownField => cases untold
  | duplicateField => cases untold
  | missingValue => cases untold
  | rejected => cases untold
  | storeTimeout =>
      cases ofKind
      cases otherOfKind
      rfl
  | storeUnavailable => cases ofKind <;> cases otherOfKind <;> rfl
  | signing =>
      cases ofKind
      cases otherOfKind
      rfl
  | lookupTimeout =>
      cases ofKind
      cases otherOfKind
      rfl

end Envelope

namespace HttpResponse

/-- An answer is the documented one for what became of a lookup. -/
structure IsDocumentedFor
    (response : HttpResponse)
    (result : Except LookupFailure (List ListedRecord)) : Prop where
  /-- Listed books are answered with a text from which exactly they are read
  back. -/
  listed : ∀ books, result = .ok books ->
    response.status = 200 ∧
      response.contentType = some "application/json" ∧
      ListedRecord.listOfText? response.body = some books
  /-- A failure is answered with the row of its kind and a text, which is that
  of the failure if the caller is to learn one. -/
  failed : ∀ failure, result = .error failure ->
    ∃ kind message, failure.OfKind kind ∧
      response.status = kind.row.status ∧
      response.contentType = some "application/json" ∧
      Json.read? response.body =
        some (.object [("code", .string kind.row.code),
          ("message", .string message),
          ("retryable", .bool kind.row.retryable)]) ∧
      ∀ text, failure.Tells text -> message = text

/-- The answer for what became of a lookup is the documented one. -/
theorem isDocumentedFor_ofBooks
    {result : Except LookupFailure (List ListedRecord)}
    (notEmpty : result ≠ .error (.filter .empty)) :
    (ofBooks result).IsDocumentedFor result := by
  constructor
  case listed =>
    rintro books rfl
    exact ⟨rfl, rfl, ListedRecord.listOfText?_render books⟩
  case failed =>
    rintro failure rfl
    obtain ⟨kind, ofKind⟩ := LookupFailure.exists_ofKind
      (fun isEmpty => notEmpty (congrArg Except.error isEmpty))
    have row := Envelope.row_ofError ofKind
    refine ⟨kind, (Envelope.ofError failure).message, ofKind, ?_, rfl, ?_, ?_⟩
    · rw [← row]
      rfl
    · rw [← row]
      exact Envelope.read?_render_toJson _
    · intro text tells
      exact Envelope.message_ofError tells

theorem IsDocumentedFor.identified
    {response : HttpResponse}
    {result : Except LookupFailure (List ListedRecord)}
    (documented : response.IsDocumentedFor result)
    (requestId : Option RequestId) :
    IsDocumentedFor { response with requestId := requestId } result :=
  ⟨documented.listed, documented.failed⟩

theorem ofBooks_eq_of_failAlike
    {result other : Except LookupFailure (List ListedRecord)}
    (alike : LookupFailure.FailAlike result other) :
    ofBooks result = ofBooks other := by
  obtain ⟨ofKind, otherOfKind, untold⟩ := alike
  rw [ofBooks, ofBooks, Envelope.ofError_eq_of_ofKind ofKind otherOfKind untold]

end HttpResponse

/-! ## Lookups -/

namespace Lookup

/-- A stream is not listed as refused parameters. -/
theorem books_ofStream_ne_filter
    (signer : Signer)
    (asked : List String)
    (limit : Duration)
    (mode : ScanMode)
    (stream : BookStream)
    (fault : FilterFault) :
    (ofStream signer asked limit mode stream).books ≠
      .error (.filter fault) := by
  unfold ofStream
  split
  · simp
  · split
    · simp
    · simp
    · cases listed : (Listing.ofRecords signer asked stream.records).books with
      | error linkFault => simp [listed, Except.mapError]
      | ok books => simp [listed, Except.mapError]

theorem modeOf_ne_empty (parameters : List Parameter) :
    modeOf parameters ≠ .error .empty := by
  intro isEmpty
  obtain ⟨nonempty, refused⟩ := modeOf_eq_error_iff.mp isEmpty
  exact Filter.ofParameters_ne_empty nonempty refused

/-- No lookup fails for want of parameters. -/
theorem books_run_ne_empty
    {σ : Type}
    (store : BookStore σ)
    (signer : Signer)
    (asked : List String)
    (limit : Duration)
    (parameters : List Parameter)
    (state : σ) :
    (run store signer asked limit parameters state).1.books ≠
      .error (.filter .empty) := by
  have notEmpty := modeOf_ne_empty parameters
  cases asks : modeOf parameters with
  | ok mode =>
      rw [run, asks]
      apply books_ofStream_ne_filter
  | error fault =>
      rw [run_of_refused store signer asked limit state asks]
      intro isEmpty
      cases isEmpty
      exact notEmpty asks

/-- None of the events of a lookup is a request. -/
theorem labels?_requests_of_mem_observations
    {lookup : Lookup}
    {event : Observation}
    (member : event ∈ lookup.observations) :
    event.labels? .requests = none := by
  unfold observations at member
  split at member
  · rcases List.mem_append.mp member with isCall | isScan
    · obtain ⟨call, -, rfl⟩ := List.mem_map.mp isCall
      rfl
    · rw [List.mem_singleton.mp isScan]
      rfl
  · split at member
    · rw [List.mem_singleton.mp member]
      rfl
    · cases member

end Lookup

/-! ## Requests -/

/-- One more request for books is counted, under a status, and no other. -/
def Registry.CountsRequest
    (before after : Registry)
    (status : Nat) : Prop :=
  ∀ labels, Entries.find? labels after.requests =
    if labels = ["GET", "/books", Decimal.text status] then
      some ((Entries.find? ["GET", "/books", Decimal.text status]
        before.requests).getD 0 + 1)
    else Entries.find? labels before.requests

namespace Service

variable {σ τ : Type}

/-- What becomes of the lookup with the parameters of a request. -/
def result
    (service : Service σ)
    (state : ServiceState σ)
    (request : HttpRequest) : Except LookupFailure (List ListedRecord) :=
  (Lookup.run service.store service.signer state.asked service.limit
    request.parameters state.store).1.books

/-- A lookup counts no request. -/
theorem requests_lookUp
    (service : Service σ)
    (state : ServiceState σ)
    (parameters : List Parameter) :
    (service.lookUp state parameters).2.registry.requests =
      state.registry.requests :=
  state.registry.series_observeAll_of_forall
    fun _ => Lookup.labels?_requests_of_mem_observations

/-- After a lookup its request is counted, under the status of its answer. -/
theorem countsRequest_counting
    {before : Registry}
    {looked : Lookup × ServiceState σ}
    (request : HttpRequest)
    (uncounted : looked.2.registry.requests = before.requests) :
    before.CountsRequest (counting request looked).registry
      (HttpResponse.ofBooks looked.1.books).status := by
  intro labels
  rw [← uncounted]
  exact Registry.find?_increment _ labels looked.2.registry.requests

/-- A GET request for books is answered with what becomes of its lookup. -/
theorem response_serve
    (service : Service σ)
    (state : ServiceState σ)
    {request : HttpRequest}
    (get : request.method = "GET")
    (path : request.pathAndQuery.1 = "/books") :
    (service.serve state request).response =
      { HttpResponse.ofBooks (service.result state request) with
        requestId := some (.ofHeaders request.headers request.fresh) } := by
  rw [service.serve_eq_serveBooks state get path, response_serveBooks,
    lookUp_fst, result]

/-- Every answer to a GET request for books is the documented one for what
becomes of its lookup, and the request is counted once, under the status of the
answer. If the lookup fails and the caller learns nothing but the kind, the body
is that of every other service, state and request whose lookup fails in the same
way. -/
theorem serve_documented
    (service : Service σ)
    (state : ServiceState σ)
    {request : HttpRequest}
    (get : request.method = "GET")
    (path : request.pathAndQuery.1 = "/books") :
    let served := service.serve state request
    served.response.IsDocumentedFor (service.result state request) ∧
      state.registry.CountsRequest served.state.registry
        served.response.status ∧
      ∀ (other : Service τ) (otherState : ServiceState τ)
        (otherRequest : HttpRequest),
        otherRequest.method = "GET" ->
        otherRequest.pathAndQuery.1 = "/books" ->
        LookupFailure.FailAlike (other.result otherState otherRequest)
          (service.result state request) ->
        (other.serve otherState otherRequest).response.body =
          served.response.body := by
  intro served
  have answered := service.response_serve state get path
  refine ⟨?_, ?_, ?_⟩
  · change (service.serve state request).response.IsDocumentedFor _
    rw [answered]
    apply HttpResponse.IsDocumentedFor.identified
    apply HttpResponse.isDocumentedFor_ofBooks
    unfold result
    apply Lookup.books_run_ne_empty
  · have counted := countsRequest_counting request
      (service.requests_lookUp state request.parameters)
    change state.registry.CountsRequest
      (service.serve state request).state.registry
      (service.serve state request).response.status
    rw [service.serve_eq_serveBooks state get path, state_serveBooks,
      response_serveBooks]
    dsimp only
    exact counted
  · intro other otherState otherRequest otherGet otherPath alike
    change _ = (service.serve state request).response.body
    rw [answered, other.response_serve otherState otherGet otherPath,
      HttpResponse.ofBooks_eq_of_failAlike alike]

/-- A service whose scans all consist of some events. -/
def ofEvents (events : List StreamEvent) : Service Unit :=
  ⟨Lookup.storeOf events, fun _ key => .ok key, ⟨0⟩⟩

/-- A field with a quotation mark is unknown, and a broken connection is told
like a request that cannot be made. -/
theorem serve_documented_of_quoted_field_and_broken_connection :
    let quoted : HttpRequest := ⟨"GET", "/books?na%22me=x", [], 7, ⟨0⟩⟩
    let all : HttpRequest := ⟨"GET", "/books", [], 8, ⟨0⟩⟩
    let state : ServiceState Unit := ⟨(), [], .empty⟩
    Json.read? ((ofEvents []).serve state quoted).response.body =
        some (.object [("code", .string "ERR_UNKNOWN_FIELD"),
          ("message", .string
            "The field, na\"me, was not found on resource type: Book"),
          ("retryable", .bool false)]) ∧
      ((ofEvents [.fails .transport]).serve state all).response.body =
        ((ofEvents [.fails (.invalidRequest "http://[::1]")]).serve state
          all).response.body := by
  intro quoted all state
  constructor
  · have documented := (@serve_documented Unit Unit (ofEvents []) state quoted
      rfl (by decide)).1
    have named : quoted.parameters = [("na\"me", some "x")] := by
      decide +kernel
    have failed : (ofEvents []).result state quoted =
        .error (.filter (.unknownField "na\"me")) := by
      rw [result, named]
      rfl
    obtain ⟨kind, message, ofKind, -, -, body, told⟩ :=
      documented.failed _ failed
    cases ofKind
    rw [told _ (.unknownField _)] at body
    exact body
  · have documented := (@serve_documented Unit Unit
      (ofEvents [.fails (.invalidRequest "http://[::1]")]) state all
      rfl (by decide)).2.2
    have none : all.parameters = [] := by decide
    have failed (fault : StoreFailure) :
        (ofEvents [.fails fault]).result state all = .error (.store fault) := by
      rw [result, none]
      rfl
    apply documented (ofEvents [.fails .transport]) state all rfl (by decide)
    rw [failed, failed]
    exact .intro .transport (.invalidRequest _) rfl

end Service
end BookLookup
