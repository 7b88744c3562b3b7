import BookLookup.Proofs.Metrics.Balance

/-!
# Requests do not disturb each other

Requests follow one another. One that is not for books leaves the service as it
was, and the others are answered as without it. One for books uses up a scan
exactly if its parameters ask for one, and what becomes of it depends on this
scan and on the links for its books alone, whatever came before.
-/

namespace BookLookup

/-! ## Sequences of requests -/

namespace Service

variable {σ τ : Type}

/-- How the service stands after some requests. -/
def after
    (service : Service σ) : ServiceState σ -> List HttpRequest -> ServiceState σ
  | state, [] => state
  | state, request :: later => after service (service.serve state request).state later

/-- What is served for some requests, one after the other. -/
def serveAll
    (service : Service σ) : ServiceState σ -> List HttpRequest -> List (Served σ)
  | _, [] => []
  | state, request :: later =>
      let served := service.serve state request
      served :: serveAll service served.state later

/-- Requests behind others are served as the others leave the service. -/
theorem serveAll_append
    (service : Service σ)
    (state : ServiceState σ)
    (front later : List HttpRequest) :
    service.serveAll state (front ++ later) =
      service.serveAll state front ++
        service.serveAll (service.after state front) later := by
  induction front generalizing state with
  | nil => rfl
  | cons request others inductionHypothesis =>
      rw [List.cons_append, serveAll, serveAll, after, inductionHypothesis]
      rfl

end Service

/-! ## What a lookup depends on -/

/-- Books are listed in the same way by signers that answer in the same way for
their images. -/
theorem Listing.ofRecords_congr
    {signer other : Signer}
    {asked otherAsked : List String}
    {records : List StoredRecord}
    (sameAnswers : signer.callsFor asked (imageKeys records) =
      other.callsFor otherAsked (imageKeys records)) :
    ofRecords signer asked records = ofRecords other otherAsked records := by
  induction records generalizing asked otherAsked with
  | nil => rfl
  | cons record others inductionHypothesis =>
      cases image : record.image? with
      | none =>
          rw [imageKeys_cons_of_none _ image] at sameAnswers
          rw [ofRecords_cons_of_none _ _ _ image,
            ofRecords_cons_of_none _ _ _ image,
            inductionHypothesis sameAnswers]
      | some key =>
          rw [imageKeys_cons_of_some _ image] at sameAnswers
          obtain ⟨sameCall, sameLater⟩ := List.cons.inj sameAnswers
          have sameAnswer : signer asked key = other otherAsked key :=
            congrArg SigningCall.answer sameCall
          have sameOthers := inductionHypothesis sameLater
          simp only [ofRecords, image, sameAnswer, sameOthers]

namespace Lookup

/-- A stream is listed in the same way by signers that answer in the same way
for its images. -/
theorem ofStream_congr
    {signer other : Signer}
    {asked otherAsked : List String}
    (limit : Duration)
    (mode : ScanMode)
    {stream : BookStream}
    (sameAnswers : signer.callsFor asked (imageKeys stream.records) =
      other.callsFor otherAsked (imageKeys stream.records)) :
    ofStream signer asked limit mode stream =
      ofStream other otherAsked limit mode stream := by
  rw [ofStream, ofStream, Listing.ofRecords_congr sameAnswers]

end Lookup

namespace Service

variable {σ τ : Type}

/-- The scans of a mode that two services open next give the same stream, and
the signers answer in the same way for its images. -/
structure SameScan
    (service : Service σ)
    (state : ServiceState σ)
    (other : Service τ)
    (otherState : ServiceState τ)
    (mode : ScanMode) : Prop where
  /-- The streams are the same. -/
  stream : (service.store mode state.store).1 =
    (other.store mode otherState.store).1
  /-- The answers of the signers are the same. -/
  answers :
    let keys := imageKeys (service.store mode state.store).1.records
    service.signer.callsFor state.asked keys =
      other.signer.callsFor otherState.asked keys

/-- A lookup depends on its parameters, on its scan and on the answers for the
images of this scan. -/
theorem lookUp_fst_congr
    {service : Service σ}
    {state : ServiceState σ}
    {other : Service τ}
    {otherState : ServiceState τ}
    {parameters : List Parameter}
    (sameLimit : service.limit = other.limit)
    (sameScan : ∀ mode, Lookup.modeOf parameters = .ok mode ->
      SameScan service state other otherState mode) :
    (service.lookUp state parameters).1 =
      (other.lookUp otherState parameters).1 := by
  rw [lookUp_fst, lookUp_fst]
  cases asks : Lookup.modeOf parameters with
  | error fault =>
      rw [Lookup.run_of_refused _ _ _ _ _ asks,
        Lookup.run_of_refused _ _ _ _ _ asks]
  | ok mode =>
      obtain ⟨sameStream, sameAnswers⟩ := sameScan mode asks
      rw [Lookup.run, Lookup.run, asks]
      dsimp only
      rw [Lookup.ofStream_congr _ _ sameAnswers, sameStream, sameLimit]

/-! ## Requests for books -/

/-- What a request counts: the events of its lookup and itself. -/
def events (request : HttpRequest) (lookup : Lookup) : List Observation :=
  lookup.observations ++
    [.request "/books" "GET" (HttpResponse.ofBooks lookup.books).status
      request.elapsed]

/-- A request is served by a lookup. -/
structure ServedBy
    (request : HttpRequest)
    (before : Registry)
    (lookup : Lookup)
    (served : Served σ) : Prop where
  /-- The lookup is made. -/
  made : served.lookup = some lookup
  /-- The status is that for what becomes of it. -/
  status : served.response.status =
    (HttpResponse.ofBooks lookup.books).status
  /-- So is the type of the body. -/
  contentType : served.response.contentType =
    (HttpResponse.ofBooks lookup.books).contentType
  /-- The body is left out for HEAD. -/
  body : served.response.body =
    if request.method = "HEAD" then ""
    else (HttpResponse.ofBooks lookup.books).body
  /-- Its events and the request are counted. -/
  counted : served.state.registry = before.observeAll (events request lookup)

/-- A request for books is served by the lookup with its parameters. -/
theorem servedBy_lookUp
    (service : Service σ)
    (state : ServiceState σ)
    {request : HttpRequest}
    (forBooks : request.isForBooks) :
    ServedBy request state.registry
      (service.lookUp state request.parameters).1
      (service.serve state request) := by
  have response := service.response_serveBooks state request
  constructor
  case made => exact service.lookup_serve_of_isForBooks state forBooks
  case counted =>
    rw [service.state_serve_of_isForBooks state forBooks, counting, events,
      Registry.observeAll_append, registry_lookUp]
    rfl
  all_goals
    rcases service.serve_cases_of_isForBooks state forBooks with
      ⟨get, served⟩ | ⟨head, served⟩
  case status.inl => rw [served, response]
  case status.inr =>
    rw [served, Served.withoutBody, HttpResponse.withoutBody, response]
  case contentType.inl => rw [served, response]
  case contentType.inr =>
    rw [served, Served.withoutBody, HttpResponse.withoutBody, response]
  case body.inl =>
    rw [served, response, if_neg (by rw [get]; decide)]
  case body.inr =>
    rw [served, if_pos head, Served.withoutBody, HttpResponse.withoutBody]

/-- A request uses up a scan if its parameters ask for one, and leaves the store
as it is otherwise. -/
structure UsesScan
    (service : Service σ)
    (before : ServiceState (σ × List ScanMode))
    (request : HttpRequest)
    (served : Served (σ × List ScanMode)) : Prop where
  /-- If there are no parameters or they compile, one scan is opened. -/
  opens : request.parameters = [] ∨
      (∃ filter, Filter.ofParameters request.parameters = .ok filter) ->
    ∃ mode, Lookup.AsksFor request.parameters mode ∧
      served.state.store = ((service.store mode before.store.1).2,
        before.store.2 ++ [mode])
  /-- Otherwise the store is not asked for anything. -/
  leaves : ¬ (request.parameters = [] ∨
      ∃ filter, Filter.ofParameters request.parameters = .ok filter) ->
    served.state.store = before.store

/-- Requests for books use up their scans. -/
theorem usesScan_serve
    (service : Service σ)
    (before : ServiceState (σ × List ScanMode))
    {request : HttpRequest}
    (forBooks : request.isForBooks) :
    service.UsesScan before request
      (service.recording.serve before request) := by
  have store : (service.recording.serve before request).state.store =
      (Lookup.run service.store.recording service.signer before.asked
        service.limit request.parameters before.store).2 := by
    rw [state_serve_of_isForBooks _ _ forBooks, counting, store_lookUp,
      recording]
  constructor
  case opens =>
    intro compile
    obtain ⟨mode, asksFor⟩ : ∃ mode, Lookup.AsksFor request.parameters mode := by
      rcases compile with none | ⟨filter, compiled⟩
      · rw [none]
        exact ⟨_, .all⟩
      · exact ⟨_, .filtered compiled⟩
    refine ⟨mode, asksFor, ?_⟩
    rw [store, Lookup.run, asksFor.modeOf_eq]
    rfl
  case leaves =>
    intro doNotCompile
    obtain ⟨nonempty, noFilter⟩ := not_or.mp doNotCompile
    cases compiled : Filter.ofParameters request.parameters with
    | ok filter => exact absurd ⟨filter, compiled⟩ noFilter
    | error fault =>
        rw [store, Lookup.run_of_refused _ _ _ _ _
          (Lookup.modeOf_eq_error_iff.mpr ⟨nonempty, compiled⟩)]

/-- Two requests for books are served alike: the same scan is asked for, the
signer is called in the same way, and the same becomes of the books. -/
structure ServedAlike
    (request other : HttpRequest)
    (before otherBefore : Registry)
    (served : Served σ)
    (otherServed : Served τ) : Prop where
  /-- One lookup is made. -/
  lookup : ∃ lookup,
    served.lookup = some lookup ∧ otherServed.lookup = some lookup
  /-- The answers have the same status. -/
  status : served.response.status = otherServed.response.status
  /-- Their bodies are of the same type. -/
  contentType : served.response.contentType = otherServed.response.contentType
  /-- By the same method, the bodies are the same. -/
  body : request.method = other.method ->
    served.response.body = otherServed.response.body
  /-- By HEAD, there is no body. -/
  noBody : request.method = "HEAD" -> served.response.body = ""
  /-- If the answers take the same time, the same events are counted. -/
  counted : request.elapsed = other.elapsed -> ∃ events,
    served.state.registry = before.observeAll events ∧
      otherServed.state.registry = otherBefore.observeAll events

/-- Requests that are served by the same lookup are served alike. -/
theorem ServedBy.alike
    {request other : HttpRequest}
    {before otherBefore : Registry}
    {lookup : Lookup}
    {served : Served σ}
    {otherServed : Served τ}
    (first : ServedBy request before lookup served)
    (second : ServedBy other otherBefore lookup otherServed) :
    ServedAlike request other before otherBefore served otherServed where
  lookup := ⟨lookup, first.made, second.made⟩
  status := first.status.trans second.status.symm
  contentType := first.contentType.trans second.contentType.symm
  body := by
    intro sameMethod
    rw [first.body, second.body, sameMethod]
  noBody := by
    intro head
    rw [first.body, if_pos head]
  counted := by
    intro sameTime
    have sameEvents : events request lookup = events other lookup := by
      rw [events, events, sameTime]
    exact ⟨_, first.counted, sameEvents ▸ second.counted⟩

/-! ## Requests among others -/

/-- The scan that a request uses up, if it uses one. -/
def scansFor (request : HttpRequest) : List ScanMode :=
  if request.isForBooks then
    (Lookup.modeOf request.parameters).toOption.toList
  else []

/-- A request opens its scan and no other. -/
theorem opened_serve
    (service : Service σ)
    (state : ServiceState (σ × List ScanMode))
    (request : HttpRequest) :
    (service.recording.serve state request).state.store.2 =
      state.store.2 ++ scansFor request := by
  unfold scansFor
  cases forBooks : request.isForBooks with
  | false =>
      rw [(service.recording.servedAside_serve state forBooks).unchanged]
      simp
  | true =>
      rw [state_serve_of_isForBooks _ _ forBooks, counting, store_lookUp,
        recording, Lookup.run]
      cases Lookup.modeOf request.parameters with
      | error fault => simp [Except.toOption]
      | ok mode => rfl

/-- Requests open their scans in their order. -/
theorem opened_after
    (service : Service σ)
    (state : ServiceState (σ × List ScanMode))
    (requests : List HttpRequest) :
    (service.recording.after state requests).store.2 =
      state.store.2 ++ requests.flatMap scansFor := by
  induction requests generalizing state with
  | nil => simp [after]
  | cons request others inductionHypothesis =>
      rw [after, inductionHypothesis, opened_serve, List.flatMap_cons,
        List.append_assoc]

/-- What may be said of a request among others. -/
structure Undisturbed
    (service : Service σ)
    (state : ServiceState (σ × List ScanMode))
    (front : List HttpRequest)
    (request : HttpRequest)
    (before : ServiceState (σ × List ScanMode))
    (served : Served (σ × List ScanMode)) : Prop where
  /-- The request is served as those in front of it leave the service. -/
  inOrder : ∀ later,
    service.recording.serveAll state (front ++ request :: later) =
      service.recording.serveAll state front ++
        served :: service.recording.serveAll served.state later
  /-- Those in front have opened their scans and no others. -/
  opened : before.store.2 = state.store.2 ++ front.flatMap scansFor
  /-- If it is not for books, it makes no lookup and changes nothing, and those
  behind it are served as without it. -/
  aside : request.isForBooks = false ->
    served.lookup = none ∧ served.state = before ∧
      ∀ later, service.recording.serveAll state (front ++ later) =
        service.recording.serveAll state front ++
          service.recording.serveAll served.state later
  /-- If it is for books, it uses up a scan exactly if its parameters ask for
  one. -/
  usesScan : request.isForBooks -> service.UsesScan before request served
  /-- If it is for books, any other request for the same books, among any others
  and by either method, is served alike if its scan gives the same stream and the
  signer answers in the same way for the images of this stream. -/
  alike : request.isForBooks ->
    ∀ {τ : Type} (other : Service τ) (otherState : ServiceState τ)
      (otherFront : List HttpRequest) (otherRequest : HttpRequest),
      other.limit = service.limit ->
      otherRequest.isForBooks ->
      otherRequest.pathAndQuery = request.pathAndQuery ->
      (∀ mode, Lookup.AsksFor request.parameters mode ->
        SameScan service.recording before other
          (other.after otherState otherFront) mode) ->
      ServedAlike request otherRequest before.registry
        (other.after otherState otherFront).registry served
        (other.serve (other.after otherState otherFront) otherRequest)

/-- Requests do not disturb each other, whatever they are and in whatever order
they come. -/
theorem requests_do_not_disturb_each_other
    (service : Service σ)
    (state : ServiceState (σ × List ScanMode))
    (front : List HttpRequest)
    (request : HttpRequest) :
    let before := service.recording.after state front
    service.Undisturbed state front request before
      (service.recording.serve before request) := by
  intro before
  constructor
  case inOrder =>
    intro later
    rw [serveAll_append]
    rfl
  case opened => exact service.opened_after state front
  case aside =>
    intro other
    have aside := service.recording.servedAside_serve before other
    refine ⟨aside.noLookup, aside.unchanged, ?_⟩
    intro later
    rw [serveAll_append, aside.unchanged]
  case usesScan => exact service.usesScan_serve before
  case alike =>
    intro forBooks τ other otherState otherFront otherRequest sameLimit
      otherForBooks sameQuery sameScan
    have sameParameters : otherRequest.parameters = request.parameters := by
      rw [HttpRequest.parameters, sameQuery, HttpRequest.parameters]
    have sameLookup : (service.recording.lookUp before request.parameters).1 =
        (other.lookUp (other.after otherState otherFront)
          otherRequest.parameters).1 := by
      rw [sameParameters]
      exact lookUp_fst_congr sameLimit.symm fun mode isMode =>
        sameScan mode (Lookup.asksFor_of_modeOf_eq isMode)
    have served := service.recording.servedBy_lookUp before forBooks
    rw [sameLookup] at served
    exact served.alike (other.servedBy_lookUp _ otherForBooks)

/-- A service whose scans give some streams, one after the other. -/
def scripted : Service (List BookStream) where
  store := fun _ streams => (streams.headD ⟨[], .finished, ⟨0⟩⟩, streams.tail)
  signer := fun _ key => .ok key
  limit := ⟨0⟩

/-- It stands at the beginning of some streams. -/
def scriptedFor (streams : List BookStream) :
    ServiceState (List BookStream × List ScanMode) :=
  ⟨(streams, []), [], .empty⟩

/-- HEAD behind a scan that has failed is served like GET by itself. -/
theorem head_behind_failure :
    let books : HttpRequest := ⟨"GET", "/books", [], 0, ⟨0⟩⟩
    let head : HttpRequest := ⟨"HEAD", "/books", [], 1, ⟨0⟩⟩
    let stream : BookStream := ⟨[Lookup.bookWithImage], .finished, ⟨0⟩⟩
    let before := scripted.recording.after
      (scriptedFor [⟨[], .failed .transport, ⟨0⟩⟩, stream]) [books]
    let alone := scriptedFor [stream]
    ServedAlike head books before.registry alone.registry
      (scripted.recording.serve before head)
      (scripted.recording.serve alone books) := by
  intro books head stream before alone
  have noParameters : books.parameters = [] := by decide
  have store : before.store = ([stream], [.all]) := by
    change (scripted.recording.serve _ books).state.store = _
    rw [state_serve_of_isForBooks _ _ (by decide), counting, store_lookUp,
      noParameters]
    rfl
  have asked : before.asked = [] := by
    change (scripted.recording.serve _ books).state.asked = _
    rw [state_serve_of_isForBooks _ _ (by decide), counting, lookUp,
      noParameters]
    rfl
  have undisturbed := scripted.requests_do_not_disturb_each_other
    (scriptedFor [⟨[], .failed .transport, ⟨0⟩⟩, stream]) [books] head
  refine undisturbed.alike (by decide) scripted.recording alone [] books rfl
    (by decide) (by decide) ?_
  intro mode _
  constructor
  · rw [store]
    rfl
  · dsimp only
    rw [store, asked]
    rfl

end Service
end BookLookup
