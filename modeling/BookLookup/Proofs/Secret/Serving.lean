import BookLookup.Proofs.Http.Sequence
import BookLookup.Proofs.Secret.Listing
import BookLookup.Proofs.Secret.Sending
import BookLookup.Startup

/-!
# Requests served with another secret

An application with another secret answers the same requests in the same way,
but for the signatures of the links in its answers, and sends the same requests
to the store, but for their signatures. One request leaves two such applications
alike, and so do any number of them.
-/

namespace BookLookup

/-! ## Answers -/

namespace HttpResponse

/-- An answer with the signatures of its links blanked. -/
def blanked (response : HttpResponse) : HttpResponse :=
  { response with body := Marker.inLink.blanked response.body }

theorem blanked_withoutBody (response : HttpResponse) :
    response.withoutBody.blanked = response.blanked.withoutBody := rfl

theorem status_eq_of_blanked_eq
    {response other : HttpResponse}
    (same : response.blanked = other.blanked) :
    response.status = other.status :=
  (HttpResponse.mk.inj same).1

theorem blanked_withRequestId
    {response other : HttpResponse}
    (same : response.blanked = other.blanked)
    (requestId : Option RequestId) :
    { response with requestId }.blanked = { other with requestId }.blanked :=
  congrArg (fun answer : HttpResponse => { answer with requestId }) same

/-- What becomes alike of some books is answered alike. -/
theorem blanked_ofBooks
    {result other : Except LookupFailure (List ListedRecord)}
    (alike : BooksAlike result other) :
    (ofBooks result).blanked = (ofBooks other).blanked := by
  cases alike with
  | failed failure => rfl
  | listed alike =>
      rename_i books others
      have bodies : Marker.inLink.blanked (booksJson books).render =
          Marker.inLink.blanked (booksJson others).render := by
        apply Marker.Alike.blanked_eq
        rw [Json.render, Json.render, String.toList_ofList,
          String.toList_ofList]
        exact alike_booksJson alike
      unfold blanked ofBooks ofBody
      rw [bodies]

end HttpResponse

/-! ## Services -/

/-- Services do the same, but for the signatures of their links. What remains of
their stores is related by a relation that scans keep. -/
structure Service.Alike
    {σ τ : Type}
    (related : σ -> τ -> Prop)
    (service : Service σ)
    (other : Service τ) : Prop where
  /-- A scan gives the same stream and keeps the relation. -/
  scans : ∀ mode store otherStore, related store otherStore ->
    (service.store mode store).1 = (other.store mode otherStore).1 ∧
      related (service.store mode store).2 (other.store mode otherStore).2
  /-- The signers answer alike. -/
  answers : ∀ asked key,
    AnswersAlike (service.signer asked key) (other.signer asked key)
  /-- A lookup may take as long. -/
  limit : service.limit = other.limit

/-- Services stand in the same way, but for what remains of their stores. -/
structure ServiceState.Alike
    {σ τ : Type}
    (related : σ -> τ -> Prop)
    (state : ServiceState σ)
    (other : ServiceState τ) : Prop where
  /-- What remains of the stores is related. -/
  store : related state.store other.store
  /-- Links have been asked for the same keys. -/
  asked : state.asked = other.asked
  /-- The same has been counted. -/
  registry : state.registry = other.registry

namespace Service

variable
  {σ τ : Type}
  {related : σ -> τ -> Prop}
  {service : Service σ}
  {other : Service τ}
  {state : ServiceState σ}
  {otherState : ServiceState τ}

/-- The same becomes of a lookup, but for the signatures of the links. -/
theorem Alike.lookUp
    (alike : service.Alike related other)
    (states : state.Alike related otherState)
    (parameters : List Parameter) :
    let looked := service.lookUp state parameters
    let otherLooked := other.lookUp otherState parameters
    looked.1.Alike otherLooked.1 ∧ looked.2.Alike related otherLooked.2 := by
  intro looked otherLooked
  have made : looked.1.Alike otherLooked.1 ∧
      related looked.2.store otherLooked.2.store := by
    rw [lookUp_fst, lookUp_fst, store_lookUp, store_lookUp]
    cases asks : Lookup.modeOf parameters with
    | error fault =>
        rw [Lookup.run_of_refused _ _ _ _ _ asks,
          Lookup.run_of_refused _ _ _ _ _ asks]
        exact ⟨⟨rfl, .nil, .failed _⟩, states.store⟩
    | ok mode =>
        obtain ⟨sameStream, after⟩ := alike.scans mode _ _ states.store
        rw [Lookup.run, Lookup.run, asks]
        dsimp only
        rw [← sameStream, ← states.asked, ← alike.limit]
        exact ⟨Lookup.alike_ofStream alike.answers _ _ mode _, after⟩
  obtain ⟨lookups, stores⟩ := made
  refine ⟨lookups, stores, ?_, ?_⟩
  · rw [asked_lookUp, asked_lookUp, states.asked, lookups.keys_eq]
  · rw [registry_lookUp, registry_lookUp, states.registry,
      lookups.observations_eq]

/-- A request that is counted leaves services alike that lookups leave alike. -/
theorem alike_counting
    {looked : Lookup × ServiceState σ}
    {otherLooked : Lookup × ServiceState τ}
    (lookups : looked.1.Alike otherLooked.1)
    (states : looked.2.Alike related otherLooked.2)
    (request : HttpRequest) :
    (counting request looked).Alike related (counting request otherLooked) := by
  have sameStatus := HttpResponse.status_eq_of_blanked_eq
    (HttpResponse.blanked_ofBooks lookups.books)
  refine ⟨states.store, states.asked, ?_⟩
  rw [counting, counting, states.registry, sameStatus]

/-- A request for books is answered alike by lookups that are alike. -/
theorem blanked_serveBooks
    {request : HttpRequest}
    (lookups : (service.lookUp state request.parameters).1.Alike
      (other.lookUp otherState request.parameters).1) :
    (service.serveBooks state request).response.blanked =
      (other.serveBooks otherState request).response.blanked := by
  have answers := HttpResponse.blanked_ofBooks lookups.books
  rw [response_serveBooks, response_serveBooks]
  exact HttpResponse.blanked_withRequestId answers _

/-- A request is answered in the same way, but for the signatures of the links,
and leaves the services alike. -/
theorem Alike.serve
    (alike : service.Alike related other)
    (states : state.Alike related otherState)
    (request : HttpRequest) :
    (service.serve state request).response.blanked =
        (other.serve otherState request).response.blanked ∧
      (service.serve state request).state.Alike related
        (other.serve otherState request).state := by
  cases forBooks : request.isForBooks with
  | false =>
      rw [service.response_serve_congr other states.registry forBooks,
        (service.servedAside_serve state forBooks).unchanged,
        (other.servedAside_serve otherState forBooks).unchanged]
      exact ⟨rfl, states⟩
  | true =>
      obtain ⟨lookups, after⟩ := alike.lookUp states request.parameters
      constructor
      · have answers := blanked_serveBooks lookups
        rw [serve_of_isForBooks _ _ forBooks, serve_of_isForBooks _ _ forBooks]
        split
        · rw [Served.withoutBody, Served.withoutBody,
            HttpResponse.blanked_withoutBody, HttpResponse.blanked_withoutBody,
            answers]
        · exact answers
      · rw [state_serve_of_isForBooks _ _ forBooks,
          state_serve_of_isForBooks _ _ forBooks]
        exact alike_counting lookups after request

/-- So are any number of requests. -/
theorem Alike.serveAll
    (alike : service.Alike related other)
    (states : state.Alike related otherState)
    (requests : List HttpRequest) :
    ((service.serveAll state requests).map fun served =>
        served.response.blanked) =
      ((other.serveAll otherState requests).map fun served =>
        served.response.blanked) ∧
      (service.after state requests).Alike related
        (other.after otherState requests) := by
  induction requests generalizing state otherState with
  | nil => exact ⟨rfl, states⟩
  | cons request others inductionHypothesis =>
      obtain ⟨here, next⟩ := alike.serve states request
      obtain ⟨later, last⟩ := inductionHypothesis next
      refine ⟨?_, last⟩
      rw [Service.serveAll, Service.serveAll, List.map_cons, List.map_cons,
        here, later]

end Service

/-! ## Applications -/

/-- An application with another secret. -/
def Application.withSecret
    (application : Application)
    (secret : String) : Application :=
  { application with
    client := application.client.withSecret secret
    links := application.links.withSecret secret }

/-- With another secret, it does the same, but for signatures. -/
theorem Application.alike_withSecret
    (application : Application)
    (secret : String)
    (clock : Nat -> Instant) :
    (application.service clock).Alike Network.Alike
      ((application.withSecret secret).service clock) where
  scans := by
    intro mode network other alike
    obtain ⟨sameStream, after⟩ :=
      application.client.store_withSecret secret mode alike
    exact ⟨sameStream.symm, after⟩
  answers := by
    intro asked key
    exact application.links.alike_link secret (clock asked.length)
      LinkMaker.validity key
  limit := rfl

end BookLookup
