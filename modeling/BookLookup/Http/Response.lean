import BookLookup.Http.Envelope
import BookLookup.Http.RequestId

/-!
# Answers

What a lookup finds is answered with a JSON array, and its failure with the
object for that failure.
-/

namespace BookLookup

/-- An answer. -/
structure HttpResponse where
  /-- The status. -/
  status : Nat
  /-- The type of the body. -/
  contentType : Option String
  /-- The methods that are taken, if the one asked for is not. -/
  allow : Option String
  /-- The identity of the request. -/
  requestId : Option RequestId
  /-- The body. -/
  body : String

namespace HttpResponse

/-- An answer with a body of some type. -/
def ofBody (status : Nat) (contentType body : String) : HttpResponse :=
  ⟨status, some contentType, none, none, body⟩

/-- The answer for a path that is not found. -/
def notFound : HttpResponse :=
  ⟨404, none, none, none, ""⟩

/-- The answer for a method that is not taken. -/
def methodRefused : HttpResponse :=
  ⟨405, none, some "GET,HEAD", none, ""⟩

/-- An answer without its body. -/
def withoutBody (response : HttpResponse) : HttpResponse :=
  { response with body := "" }

/-- An answer with the identity of its request, if that may be the value of a
header. -/
def identified (response : HttpResponse) (id : RequestId) : HttpResponse :=
  if StoreClient.isHeaderValue id.text then
    { response with requestId := some id }
  else response

/-- The type of bodies that are JSON. -/
def jsonType : String := "application/json"

/-- The answer for what became of a lookup. -/
def ofBooks : Except LookupFailure (List ListedRecord) -> HttpResponse
  | .ok books => ofBody 200 jsonType (booksJson books).render
  | .error fault =>
      let envelope := Envelope.ofError fault
      ofBody envelope.status jsonType envelope.toJson.render

end HttpResponse

end BookLookup
