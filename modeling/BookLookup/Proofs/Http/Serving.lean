import BookLookup.Proofs.Http.RequestId
import BookLookup.Service

/-!
# Which requests look up books

A request by GET or HEAD for the path of the books makes one lookup, and its
answer is counted. Any other request leaves the service as it was.
-/

namespace BookLookup

/-- Whether a request is for books, by one of the methods that are taken. -/
def HttpRequest.isForBooks (request : HttpRequest) : Bool :=
  request.pathAndQuery.1 == "/books" &&
    (request.method == "GET" || request.method == "HEAD")

/-- The path of the books is the only one of its route. -/
theorem Route.ofPath?_eq_books_iff {path : String} :
    Route.ofPath? path = some .books ↔ path = "/books" := by
  unfold ofPath?
  split
  · rename_i isHealth
    simp [isHealth]
  · split
    · rename_i isMetrics
      simp [isMetrics]
    · split
      · rename_i isBooks
        simp [isBooks]
      · rename_i isOther
        simp [isOther]

/-- A request for the path of the books that is not for books is by another
method. -/
theorem HttpRequest.method_of_aside
    {request : HttpRequest}
    (aside : request.isForBooks = false)
    (isRoute : Route.ofPath? request.pathAndQuery.1 = some .books) :
    request.method ≠ "GET" ∧ request.method ≠ "HEAD" := by
  have path := Route.ofPath?_eq_books_iff.mp isRoute
  simpa only [isForBooks, path, beq_self_eq_true, Bool.true_and,
    Bool.or_eq_false_iff, beq_eq_false_iff_ne] using aside

/-- What was served, without the body. -/
def Served.withoutBody {σ : Type} (served : Served σ) : Served σ :=
  { served with response := served.response.withoutBody }

namespace Service

variable {σ : Type}

/-- A GET request for the path of the books is a request for books. -/
theorem serve_eq_serveBooks
    (service : Service σ)
    (state : ServiceState σ)
    {request : HttpRequest}
    (get : request.method = "GET")
    (path : request.pathAndQuery.1 = "/books") :
    service.serve state request = service.serveBooks state request := by
  unfold serve
  rw [Route.ofPath?_eq_books_iff.mpr path]
  dsimp only
  rw [if_pos get, serveRoute]

/-- How the service stands after a lookup, with one request for books more
counted. -/
def counting
    (request : HttpRequest)
    (looked : Lookup × ServiceState σ) : ServiceState σ :=
  { looked.2 with
    registry := looked.2.registry.observe
      (.request "/books" "GET" (HttpResponse.ofBooks looked.1.books).status
        request.elapsed) }

theorem lookUp_fst
    (service : Service σ)
    (state : ServiceState σ)
    (parameters : List Parameter) :
    (service.lookUp state parameters).1 =
      (Lookup.run service.store service.signer state.asked service.limit
        parameters state.store).1 := rfl

theorem store_lookUp
    (service : Service σ)
    (state : ServiceState σ)
    (parameters : List Parameter) :
    (service.lookUp state parameters).2.store =
      (Lookup.run service.store service.signer state.asked service.limit
        parameters state.store).2 := rfl

theorem asked_lookUp
    (service : Service σ)
    (state : ServiceState σ)
    (parameters : List Parameter) :
    (service.lookUp state parameters).2.asked =
      state.asked ++ (service.lookUp state parameters).1.keys := rfl

theorem registry_lookUp
    (service : Service σ)
    (state : ServiceState σ)
    (parameters : List Parameter) :
    (service.lookUp state parameters).2.registry =
      state.registry.observeAll
        (service.lookUp state parameters).1.observations := rfl

/-- The answer to a request for books is that for what became of its lookup,
with the identity of the request. -/
theorem response_serveBooks
    (service : Service σ)
    (state : ServiceState σ)
    (request : HttpRequest) :
    (service.serveBooks state request).response =
      { HttpResponse.ofBooks
          (service.lookUp state request.parameters).1.books with
        requestId := some (.ofHeaders request.headers request.fresh) } := by
  unfold serveBooks
  cases service.lookUp state request.parameters with
  | mk lookup after => exact HttpResponse.identified_ofHeaders _ _ _

/-- The lookup of a request is made and the request counted. -/
theorem state_serveBooks
    (service : Service σ)
    (state : ServiceState σ)
    (request : HttpRequest) :
    (service.serveBooks state request).state =
      counting request (service.lookUp state request.parameters) := by
  unfold serveBooks
  cases service.lookUp state request.parameters with
  | mk lookup after => rfl

/-- The lookup of a request is that with its parameters. -/
theorem lookup_serveBooks
    (service : Service σ)
    (state : ServiceState σ)
    (request : HttpRequest) :
    (service.serveBooks state request).lookup =
      some (service.lookUp state request.parameters).1 := by
  unfold serveBooks
  cases service.lookUp state request.parameters with
  | mk lookup after => rfl

/-- What is done on a route does not depend on the method. -/
theorem serveRoute_withMethod
    (service : Service σ)
    (state : ServiceState σ)
    (request : HttpRequest)
    (method : String)
    (route : Route) :
    service.serveRoute state { request with method } route =
      service.serveRoute state request route := by
  have sameParameters : { request with method }.parameters =
      request.parameters := by
    unfold HttpRequest.parameters HttpRequest.pathAndQuery
    rfl
  cases route with
  | health => rfl
  | metrics => rfl
  | books =>
      rw [serveRoute, serveRoute, serveBooks, serveBooks, sameParameters]

/-- HEAD is served like GET, but for the body. -/
theorem serve_of_head
    (service : Service σ)
    (state : ServiceState σ)
    {request : HttpRequest}
    (head : request.method = "HEAD") :
    service.serve state request =
      (service.serve state { request with method := "GET" }).withoutBody := by
  have notGet : request.method ≠ "GET" := by
    rw [head]
    decide
  have samePath : { request with method := "GET" }.pathAndQuery =
      request.pathAndQuery := rfl
  unfold serve
  rw [samePath]
  cases Route.ofPath? request.pathAndQuery.1 with
  | none => rfl
  | some route =>
      dsimp only
      rw [if_neg notGet, if_pos head, if_pos rfl,
        service.serveRoute_withMethod state request "GET" route,
        Served.withoutBody]

/-- A HEAD request for the path of the books is a request for books, too. -/
theorem serve_eq_withoutBody
    (service : Service σ)
    (state : ServiceState σ)
    {request : HttpRequest}
    (head : request.method = "HEAD")
    (path : request.pathAndQuery.1 = "/books") :
    service.serve state request =
      (service.serveBooks state request).withoutBody := by
  rw [service.serve_of_head state head]
  have asGet := @serve_eq_serveBooks _ service state
    { request with method := "GET" } rfl path
  rw [asGet]
  exact congrArg Served.withoutBody
    (service.serveRoute_withMethod state request "GET" .books)

/-- A request for books is served by its lookup, without the body if it is by
HEAD. -/
theorem serve_cases_of_isForBooks
    (service : Service σ)
    (state : ServiceState σ)
    {request : HttpRequest}
    (forBooks : request.isForBooks) :
    (request.method = "GET" ∧
        service.serve state request = service.serveBooks state request) ∨
      (request.method = "HEAD" ∧
        service.serve state request =
          (service.serveBooks state request).withoutBody) := by
  obtain ⟨isPath, isTaken⟩ := Bool.and_eq_true_iff.mp forBooks
  have path := beq_iff_eq.mp isPath
  rcases Bool.or_eq_true_iff.mp isTaken with isGet | isHead
  · have get := beq_iff_eq.mp isGet
    exact .inl ⟨get, service.serve_eq_serveBooks state get path⟩
  · have head := beq_iff_eq.mp isHead
    exact .inr ⟨head, service.serve_eq_withoutBody state head path⟩

/-- The body is left out for HEAD alone. -/
theorem serve_of_isForBooks
    (service : Service σ)
    (state : ServiceState σ)
    {request : HttpRequest}
    (forBooks : request.isForBooks) :
    service.serve state request =
      if request.method = "HEAD" then
        (service.serveBooks state request).withoutBody
      else service.serveBooks state request := by
  rcases service.serve_cases_of_isForBooks state forBooks with
    ⟨get, served⟩ | ⟨head, served⟩
  · rw [served, if_neg (by rw [get]; decide)]
  · rw [served, if_pos head]

/-- The lookup of a request for books is that with its parameters. -/
theorem lookup_serve_of_isForBooks
    (service : Service σ)
    (state : ServiceState σ)
    {request : HttpRequest}
    (forBooks : request.isForBooks) :
    (service.serve state request).lookup =
      some (service.lookUp state request.parameters).1 := by
  rw [← service.lookup_serveBooks state request]
  rcases service.serve_cases_of_isForBooks state forBooks with
    ⟨-, served⟩ | ⟨-, served⟩
  · rw [served]
  · rw [served, Served.withoutBody]

/-- A request for books leaves the service as its lookup does, with one request
more counted. -/
theorem state_serve_of_isForBooks
    (service : Service σ)
    (state : ServiceState σ)
    {request : HttpRequest}
    (forBooks : request.isForBooks) :
    (service.serve state request).state =
      counting request (service.lookUp state request.parameters) := by
  rw [← service.state_serveBooks state request]
  rcases service.serve_cases_of_isForBooks state forBooks with
    ⟨-, served⟩ | ⟨-, served⟩
  · rw [served]
  · rw [served, Served.withoutBody]

/-- What is served without a lookup: nothing has changed, and the body is empty,
tells that the program is alive, or gives the metrics. -/
structure ServedAside
    (state : ServiceState σ)
    (served : Served σ) : Prop where
  /-- There is no lookup. -/
  noLookup : served.lookup = none
  /-- The service stands as before. -/
  unchanged : served.state = state
  /-- The body is one of these. -/
  body : served.response.body ∈ ["", "ok", Exposition.render state.registry]

/-- A request on a route other than that of the books changes nothing. -/
theorem servedAside_serveRoute
    (service : Service σ)
    (state : ServiceState σ)
    (request : HttpRequest)
    {route : Route}
    (other : route ≠ .books) :
    ServedAside state (service.serveRoute state request route) := by
  cases route with
  | health => exact ⟨rfl, rfl, .tail _ (.head _)⟩
  | metrics => exact ⟨rfl, rfl, .tail _ (.tail _ (.head _))⟩
  | books => exact absurd rfl other

/-- A request that is not for books changes nothing. -/
theorem servedAside_serve
    (service : Service σ)
    (state : ServiceState σ)
    {request : HttpRequest}
    (other : request.isForBooks = false) :
    ServedAside state (service.serve state request) := by
  unfold serve
  cases isRoute : Route.ofPath? request.pathAndQuery.1 with
  | none => exact ⟨rfl, rfl, .head _⟩
  | some route =>
      dsimp only
      by_cases forBooks : route = .books
      · obtain ⟨notGet, notHead⟩ :=
          HttpRequest.method_of_aside other (forBooks ▸ isRoute)
        rw [if_neg notGet, if_neg notHead]
        exact ⟨rfl, rfl, .head _⟩
      · have aside := service.servedAside_serveRoute state request forBooks
        split
        · exact aside
        · split
          · exact ⟨aside.noLookup, aside.unchanged, .head _⟩
          · exact ⟨rfl, rfl, .head _⟩

/-- A request that is not for books is answered by what has been counted. -/
theorem response_serve_congr
    {τ : Type}
    (service : Service σ)
    (other : Service τ)
    {state : ServiceState σ}
    {otherState : ServiceState τ}
    (sameCounts : state.registry = otherState.registry)
    {request : HttpRequest}
    (aside : request.isForBooks = false) :
    (service.serve state request).response =
      (other.serve otherState request).response := by
  unfold serve
  cases isRoute : Route.ofPath? request.pathAndQuery.1 with
  | none => rfl
  | some route =>
      dsimp only
      cases route with
      | health =>
          split
          · rfl
          · split
            · rfl
            · rfl
      | metrics =>
          rw [serveRoute, serveRoute, sameCounts]
          split
          · rfl
          · split
            · rfl
            · rfl
      | books =>
          obtain ⟨notGet, notHead⟩ := HttpRequest.method_of_aside aside isRoute
          rw [if_neg notGet, if_neg notHead, if_neg notGet, if_neg notHead]

/-- A service without books. -/
def withoutBooks : Service Unit where
  store := fun _ _ => (⟨[], .finished, ⟨0⟩⟩, ())
  signer := fun _ key => .ok key
  limit := ⟨0⟩

end Service
end BookLookup
