import BookLookup.Proofs.Http.Serving
import BookLookup.Proofs.Listing
import BookLookup.Proofs.Record
import BookLookup.Proofs.Store.Drain

/-!
# All pages are answered or none

A request for books is answered with the items of all pages, listed in order, or
with the failure of the first page that fails and nothing of the others. In
either case nothing is asked for behind the last page that was used.
-/

namespace BookLookup

namespace Lookup

/-- Parameters that are none or compile ask for a scan. -/
theorem exists_modeOf_eq_ok
    {parameters : List Parameter}
    (compile : parameters = [] ∨
      ∃ filter, Filter.ofParameters parameters = .ok filter) :
    ∃ mode, modeOf parameters = .ok mode := by
  cases parameters with
  | nil => exact ⟨.all, rfl⟩
  | cons first others =>
      rcases compile with none | ⟨filter, compiled⟩
      · cases none
      · refine ⟨.filtered filter, ?_⟩
        rw [modeOf, compiled]
        rfl

/-- What becomes of the books of a run that is in time. -/
theorem books_ofStream
    (signer : Signer)
    (asked : List String)
    (limit : Duration)
    (mode : ScanMode)
    (client : StoreClient)
    {run : PagingRun}
    (inTime : run.failure ≠ some .timeout)
    (records : List StoredRecord) :
    (ofStream signer asked limit mode
        ⟨records, run.ending, client.waitOf run⟩).books =
      match run.failure with
      | none => (Listing.ofRecords signer asked records).books.mapError .signing
      | some fault => .error (.store fault) := by
  rw [ofStream, client.waitOf_eq_zero inTime,
    if_neg (Nat.not_lt_zero _), PagingRun.ending]
  cases run.failure with
  | none => rfl
  | some fault => rfl

end Lookup

namespace Service

variable {σ : Type}

/-- A GET request for books is answered with what became of a lookup. -/
theorem serve_books
    (service : Service σ)
    (state : ServiceState σ)
    {request : HttpRequest}
    (get : request.method = "GET")
    (path : request.pathAndQuery.1 = "/books")
    {lookup : Lookup}
    {after : σ}
    (looked : Lookup.run service.store service.signer state.asked service.limit
      request.parameters state.store = (lookup, after)) :
    (service.serve state request).state.store = after ∧
      (service.serve state request).response.status =
        (HttpResponse.ofBooks lookup.books).status ∧
      (service.serve state request).response.body =
        (HttpResponse.ofBooks lookup.books).body := by
  rw [service.serve_eq_serveBooks state get path, state_serveBooks, counting,
    response_serveBooks, lookUp, looked]
  exact ⟨rfl, rfl, rfl⟩

end Service

namespace Application

/-- A request for books is answered with what the pages of a run give. -/
structure AnswersPages
    (application : Application)
    (clock : Nat -> Instant)
    (state : ServiceState Network)
    (served : Served Network)
    (run : PagingRun)
    (requests : List SentRequest) : Prop where
  /-- The run is that of the replies that arrive, from the first page on. -/
  paging : Paging none (application.client.arriving state.store) run
  /-- There is no other run of these replies. -/
  unique : ∀ other,
    Paging none (application.client.arriving state.store) other -> other = run
  /-- Each request to the store says after which key its page begins. -/
  asked : List.Forall₂ SentRequest.StartsAfter requests run.startKeys
  /-- The store has received these requests and no others. -/
  received : served.state.store.received = state.store.received ++ requests
  /-- If all pages are good, the answer is a success. -/
  success : run.failure = none -> served.response.status = 200
  /-- Its body lists the items of all pages in order. -/
  books : run.failure = none -> ∃ books,
    ListedRecord.listOfText? served.response.body = some books ∧
      application.links.Lists clock state.asked.length run.items books
  /-- If a page fails, the answer is the envelope of its failure. -/
  failure : ∀ fault, run.failure = some fault ->
    served.response.status = (Envelope.ofStoreFailure fault).status ∧
      served.response.body = (Envelope.ofStoreFailure fault).toJson.render

/-- A request for books is answered with the pages of the store, all or none of
them, whatever the application, its clock and its state. -/
theorem serve_answersPages
    (application : Application)
    (clock : Nat -> Instant)
    (state : ServiceState Network)
    (request : HttpRequest)
    (get : request.method = "GET")
    (path : request.pathAndQuery.1 = "/books")
    (compile : request.parameters = [] ∨
      ∃ filter, Filter.ofParameters request.parameters = .ok filter)
    (noneSilent : Reply.silent ∉ state.store.replies) :
    ∃ run requests,
      application.AnswersPages clock state
        ((application.service clock).serve state request) run requests := by
  let service := application.service clock
  obtain ⟨mode, asksFor⟩ := Lookup.exists_modeOf_eq_ok compile
  obtain ⟨run, records, requests, after, paging, stores, asked, received,
    stream⟩ := application.client.store_eq_run mode state.store
  have inTime : run.failure ≠ some .timeout :=
    paging.failure_ne_timeout
      (application.client.silent_not_mem_arriving noneSilent)
  have looked : Lookup.run service.store service.signer state.asked
      service.limit request.parameters state.store =
        (Lookup.ofStream service.signer state.asked service.limit mode
          ⟨records, run.ending, application.client.waitOf run⟩, after) := by
    have streamed : service.store mode state.store =
        (⟨records, run.ending, application.client.waitOf run⟩, after) := stream
    rw [Lookup.run, asksFor]
    simp only [streamed]
  have found := Lookup.books_ofStream service.signer state.asked service.limit
    mode application.client inTime records
  obtain ⟨books, listed, lists⟩ :=
    Listing.ofRecords_lists application clock state.asked stores
  obtain ⟨storeAfter, status, body⟩ :=
    service.serve_books state get path looked
  rw [found] at status body
  have answered (good : run.failure = none) :
      (service.serve state request).response.status = 200 ∧
        (service.serve state request).response.body =
          (booksJson books).render := by
    have allListed : (Listing.ofRecords service.signer state.asked
        records).books = .ok books := listed
    simp only [good, allListed] at status body
    exact ⟨status, body⟩
  refine ⟨run, requests, {
    paging
    unique := fun other otherPaging => otherPaging.unique paging
    asked
    received := ?_
    success := fun good => (answered good).1
    books := ?_
    failure := ?_ }⟩
  · rw [← received]
    exact congrArg Network.received storeAfter
  · intro good
    refine ⟨books, ?_, lists⟩
    rw [(answered good).2, booksJson]
    exact ListedRecord.listOfText?_render books
  · intro fault failed
    simp only [failed] at status body
    exact ⟨status, body⟩

/-- An application with a store and links on the local host. -/
def onLocalHost : Application where
  client := StoreClient.localClient "us-west-1"
  links := ⟨"covers", "us-west-1", "http", "[::1]:9000", true,
    ⟨"AKIDTEST", "secret", none⟩⟩
  limit := .ofSeconds 10

/-- The store behind it has two pages, and nothing has been served. -/
def beforeTwoPages : ServiceState Network :=
  ⟨StoreClient.twoPages, [], .empty⟩

/-- A request for the books of a title. -/
def requestForTitle : HttpRequest :=
  ⟨"GET", "/books?title=Dune", [], 0, ⟨0⟩⟩

/-- A request with a filter is answered with the items of both pages, one of
which has a cover. -/
theorem serve_answersPages_onLocalHost :
    ∃ run requests,
      onLocalHost.AnswersPages (fun _ => ⟨0, 0⟩) beforeTwoPages
        ((onLocalHost.service fun _ => ⟨0, 0⟩).serve beforeTwoPages
          requestForTitle)
        run requests ∧
      run.items = [StoreClient.oneItem, StoreClient.coverItem] ∧
      run.failure = none ∧ requests.length = 2 := by
  have parameters : requestForTitle.parameters = [("title", some "Dune")] := by
    decide +kernel
  obtain ⟨run, requests, answers⟩ :=
    serve_answersPages onLocalHost (fun _ => ⟨0, 0⟩) beforeTwoPages
      requestForTitle rfl (by decide) (.inr ⟨_, by rw [parameters]; rfl⟩)
      (by decide)
  have reaches : onLocalHost.client.Reaches := by decide
  have paging : Paging none (onLocalHost.client.arriving beforeTwoPages.store)
      ⟨[StoreClient.oneItem, StoreClient.coverItem], none,
        [none, some StoreClient.oneItem], [.broken]⟩ := by
    rw [StoreClient.arriving, if_pos reaches]
    exact StoreClient.paging_twoPages
  obtain rfl := answers.unique _ paging
  exact ⟨_, requests, answers, rfl, rfl, answers.asked.length_eq⟩

end Application
end BookLookup
