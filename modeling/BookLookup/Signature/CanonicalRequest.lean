import BookLookup.Text.Blank
import BookLookup.TextMap

/-!
# Canonical requests

The parts of a request that a signature covers, written as one text: method,
path, query, the signed headers in the order of their names with trimmed
values, the names of these headers, and the digest of the payload. The parts
stand in lines of their own.
-/

namespace BookLookup

/-- The parts of a request that a signature covers. -/
structure CanonicalRequest where
  /-- The method. -/
  method : String
  /-- The encoded path. -/
  path : String
  /-- The canonical query. -/
  query : String
  /-- The signed headers by name in lower case. -/
  headers : TextMap String
  /-- The digest of the payload, or a text in its place. -/
  payloadHash : String

namespace CanonicalRequest

/-- The names of the signed headers. -/
def signedHeaders (request : CanonicalRequest) : String :=
  ";".intercalate request.headers.keys

/-- The line of a header. -/
def headerLine (header : String × String) : String :=
  header.1 ++ ":" ++ trimmed header.2

/-- The lines of a request. -/
def lines (request : CanonicalRequest) : List String :=
  [request.method, request.path, request.query] ++
    request.headers.entries.map headerLine ++
    ["", request.signedHeaders, request.payloadHash]

/-- The text of a request. -/
def render (request : CanonicalRequest) : String :=
  "\n".intercalate request.lines

end CanonicalRequest
end BookLookup
