import BookLookup.Proofs.Http.RequestId
import BookLookup.Proofs.Http.Serving

/-!
# Answers carry the identities of their requests

Every answer to a request for books carries one identity, which is the one that
is due to the headers of the request. A request that sends it back gets it
again.
-/

namespace BookLookup
namespace Service

variable {σ : Type}

/-- The answer to a request for books carries its identity, by either method. -/
theorem requestId_serve_of_isForBooks
    (service : Service σ)
    (state : ServiceState σ)
    {request : HttpRequest}
    (forBooks : request.isForBooks) :
    (service.serve state request).response.requestId =
      some (.ofHeaders request.headers request.fresh) := by
  have carried := congrArg HttpResponse.requestId
    (service.response_serveBooks state request)
  rcases service.serve_cases_of_isForBooks state forBooks with
    ⟨-, served⟩ | ⟨-, served⟩
  · rw [served, carried]
  · rw [served, Served.withoutBody, HttpResponse.withoutBody, carried]

/-- An answer carries an identity that is due to its request, may be the value
of a header, and is given again to every request that sends it back. -/
structure CarriesId
    (request : HttpRequest)
    (response : HttpResponse)
    (id : RequestId) : Prop where
  /-- The answer carries it. -/
  carried : response.requestId = some id
  /-- It is due to the headers of the request. -/
  due : RequestId.IsDue request.headers request.fresh id
  /-- It may be the value of a header. -/
  isHeaderValue : StoreClient.isHeaderValue id.text
  /-- A request for books whose first value it is gets the same text. -/
  again : ∀ {τ : Type} (other : Service τ) (otherState : ServiceState τ)
    (sentBack : HttpRequest), sentBack.isForBooks ->
    RequestId.GivesFirst sentBack.headers (Utf8.octets id.text) ->
    ∃ same, (other.serve otherState sentBack).response.requestId = some same ∧
      same.text = id.text

/-- Whatever headers a request for books has, its answer carries one identity,
which is safe and due to them and is kept when it is sent back. -/
theorem answers_carry_safe_and_stable_ids
    (service : Service σ)
    (state : ServiceState σ)
    {request : HttpRequest}
    (forBooks : request.isForBooks) :
    ∃ id, CarriesId request (service.serve state request).response id := by
  have due := RequestId.isDue_ofHeaders request.headers request.fresh
  refine ⟨.ofHeaders request.headers request.fresh, ?_⟩
  constructor
  case carried => exact service.requestId_serve_of_isForBooks state forBooks
  case due => exact due
  case isHeaderValue => exact due.safe.isHeaderValue
  case again =>
    intro τ other otherState sentBack sentBackForBooks first
    refine ⟨_, other.requestId_serve_of_isForBooks otherState sentBackForBooks,
      ?_⟩
    rw [due.safe.ofHeaders_eq first]
    rfl

/-- A request with two values, of which the first has characters that are not
safe, and more than sixty-four that are. -/
def namedTwice : HttpRequest where
  method := "GET"
  target := "/books?title=Dune"
  headers := ([("X-Catalog-Request-Id",
      "  re q/1;" ++ String.ofList (List.replicate 70 'x')),
    ("x-catalog-request-id", "second")] : List (String × String))
  fresh := 7
  elapsed := ⟨0⟩

/-- Of the first value the safe characters are kept up to the length. -/
theorem id_of_namedTwice :
    (withoutBooks.serve ⟨(), [], .empty⟩ namedTwice).response.requestId =
      some (.given ("req1" ++ String.ofList (List.replicate 60 'x'))) := by
  obtain ⟨id, carries⟩ := withoutBooks.answers_carry_safe_and_stable_ids
    ⟨(), [], .empty⟩ (by decide : namedTwice.isForBooks)
  let text := "  re q/1;" ++ String.ofList (List.replicate 70 'x')
  have first : RequestId.GivesFirst namedTwice.headers (Utf8.octets text) :=
    ⟨[], "X-Catalog-Request-Id", _, rfl, by decide, by simp⟩
  have reads : RequestId.Reads (Utf8.octets text) text :=
    ⟨rfl, by decide +kernel⟩
  have someSafe : ∃ symbol ∈ text.toList, RequestId.Safe symbol :=
    ⟨'r', by decide, (RequestId.isSafe_iff 'r').mp rfl⟩
  rw [carries.carried, carries.due.given _ text first reads someSafe]
  decide

end Service
end BookLookup
