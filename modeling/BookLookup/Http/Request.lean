import BookLookup.Duration
import BookLookup.Filter
import BookLookup.Http.FormQuery
import BookLookup.Http.RequestId

/-!
# Requests

A request asks for a target by a method. The target is a path and a query; the
pairs of the query are the parameters of a lookup, so that a parameter of a
request always has a value.
-/

namespace BookLookup

/-- A request. -/
structure HttpRequest where
  /-- The method. -/
  method : String
  /-- The path and the query that are asked for. -/
  target : String
  /-- The headers in order. -/
  headers : HttpHeaders
  /-- A number drawn for the request. -/
  fresh : Nat
  /-- How long the answer takes. -/
  elapsed : Duration

namespace HttpRequest

/-- A target from its path on: a scheme and a host before it are dropped. The
host ends where a path, a query or a fragment begins. -/
def fromPath (target : List Char) : List Char :=
  match target with
  | '/' :: _ => target
  | _ =>
      match Split.atFirst? '/' target with
      | some (_, '/' :: rest) =>
          let path := rest.dropWhile fun symbol =>
            symbol != '/' && symbol != '?' && symbol != '#'
          if path.head? = some '/' then path else '/' :: path
      | _ => target

/-- The path of a request and the text after its question mark. A fragment is
dropped. -/
def pathAndQuery (request : HttpRequest) : String × String :=
  let target := (fromPath request.target.toList).takeWhile (· ≠ '#')
  match Split.atFirst? '?' target with
  | some (path, query) => (String.ofList path, String.ofList query)
  | none => (String.ofList target, "")

/-- The parameters of a request. Every one has a value. -/
def parameters (request : HttpRequest) : List Parameter :=
  (FormQuery.pairs request.pathAndQuery.2).map fun (field, value) =>
    (field, some value)

end HttpRequest

end BookLookup
