import BookLookup.Http.Request
import BookLookup.Http.Response
import BookLookup.Metrics.Exposition

/-!
# Answering requests

There are three routes: one tells that the program is alive, one gives the
metrics, and one looks up books by the parameters of the request. Each takes
GET, and HEAD, which is answered without a body. Any other method is refused
with the methods that are taken, and any other path is not found.

Answers depend on the state of the service: what remains of the store, the keys
for which the signer has been asked, and what has been counted.
-/

namespace BookLookup

/-- What lookups are made with. -/
structure Service (σ : Type) where
  /-- The store of the books. -/
  store : BookStore σ
  /-- The signer of the links. -/
  signer : Signer
  /-- How long a lookup may take. -/
  limit : Duration

/-- How the service stands between two requests. -/
structure ServiceState (σ : Type) where
  /-- What remains of the store. -/
  store : σ
  /-- The keys for which the signer has been asked. -/
  asked : List String
  /-- What has been counted. -/
  registry : Registry

/-- The routes. -/
inductive Route where
  | health
  | metrics
  | books
  deriving DecidableEq, Repr

/-- The route of a path. -/
def Route.ofPath? (path : String) : Option Route :=
  if path = "/healthz" then some .health
  else if path = "/metrics" then some .metrics
  else if path = "/books" then some .books
  else none

/-- An answer, the lookup that was made for it, if any, and how the service
stands afterwards. -/
structure Served (σ : Type) where
  /-- The answer. -/
  response : HttpResponse
  /-- The lookup that was made. -/
  lookup : Option Lookup
  /-- How the service stands. -/
  state : ServiceState σ

namespace Service

variable {σ : Type}

/-- Make a lookup and count its events. -/
def lookUp
    (service : Service σ)
    (state : ServiceState σ)
    (parameters : List Parameter) : Lookup × ServiceState σ :=
  let (lookup, store) :=
    Lookup.run service.store service.signer state.asked service.limit
      parameters state.store
  (lookup,
    { store := store
      asked := state.asked ++ lookup.keys
      registry := state.registry.observeAll lookup.observations })

/-- Answer a request for books. The method is counted as GET for both
methods. -/
def serveBooks
    (service : Service σ)
    (state : ServiceState σ)
    (request : HttpRequest) : Served σ :=
  let (lookup, after) := service.lookUp state request.parameters
  let response := HttpResponse.ofBooks lookup.books
  { response :=
      response.identified (.ofHeaders request.headers request.fresh)
    lookup := some lookup
    state :=
      { after with
        registry := after.registry.observe
          (.request "/books" "GET" response.status request.elapsed) } }

/-- Answer a request on a route. -/
def serveRoute
    (service : Service σ)
    (state : ServiceState σ)
    (request : HttpRequest) : Route -> Served σ
  | .health =>
      ⟨.ofBody 200 "text/plain; charset=utf-8" "ok", none, state⟩
  | .metrics =>
      ⟨.ofBody 200 Exposition.contentType (Exposition.render state.registry),
        none, state⟩
  | .books => service.serveBooks state request

/-- Answer a request. -/
def serve
    (service : Service σ)
    (state : ServiceState σ)
    (request : HttpRequest) : Served σ :=
  match Route.ofPath? request.pathAndQuery.1 with
  | none => ⟨.notFound, none, state⟩
  | some route =>
      if request.method = "GET" then service.serveRoute state request route
      else if request.method = "HEAD" then
        let served := service.serveRoute state request route
        { served with response := served.response.withoutBody }
      else ⟨.methodRefused, none, state⟩

end Service
end BookLookup
