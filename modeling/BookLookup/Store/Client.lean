import BookLookup.Filter
import BookLookup.Json.Printer
import BookLookup.Store.Page
import BookLookup.Signature.Authorization
import BookLookup.Url.Reader

/-!
# Requests for pages

A client knows the endpoint of the store, the table and what to sign with. The
request for a page names the table, the filter with its values, how many items
to look at and the key after which the page begins; what is absent is left out.
Every request is signed at the instant at which it is made.
-/

namespace BookLookup

/-- Which books a scan is to give. -/
inductive ScanMode where
  | all
  | filtered (filter : Filter)

/-- Where the books are kept and how to ask for them. -/
structure StoreSettings where
  /-- The URL of the store. -/
  endpoint : String
  /-- The region of the store. -/
  region : String
  /-- The table of the books. -/
  tableName : String
  /-- What requests are signed with. -/
  credentials : Credentials
  /-- How long an answer may take. -/
  timeout : Duration
  /-- How many items a page looks at. -/
  pageLimit : Option Nat

/-- A request to the store as it is sent. -/
structure SentRequest where
  /-- The method. -/
  method : String
  /-- The path and the query that are asked for. -/
  target : String
  /-- The headers by name in lower case. -/
  headers : TextMap String
  /-- The body. -/
  body : String

/-- A client whose endpoint has been read. -/
structure StoreClient where
  /-- The URL of the store. -/
  endpoint : Url
  /-- The host of the store, with its port. -/
  host : String
  /-- The region of the store. -/
  region : String
  /-- The table of the books. -/
  tableName : String
  /-- What requests are signed with. -/
  credentials : Credentials
  /-- How long an answer may take. -/
  timeout : Duration
  /-- How many items a page looks at. -/
  pageLimit : Option Nat

namespace StoreClient

/-- The service that is asked for pages. -/
def service : String := "dynamodb"

/-- The operation that is asked for. -/
def scanTarget : String := "DynamoDB_20120810.Scan"

/-- The type of every body. -/
def contentType : String := "application/x-amz-json-1.0"

/-- The URL and the host of an endpoint written as a text. -/
def readEndpoint (endpoint : String) : Except String (Url × String) :=
  match Url.read endpoint with
  | .error fault => .error fault.message
  | .ok url =>
      match url.authority? with
      | none => .error "missing host"
      | some host => .ok (url, host)

/-- The client that some settings ask for. -/
def ofSettings (settings : StoreSettings) : Except StoreFailure StoreClient :=
  match readEndpoint settings.endpoint with
  | .error fault =>
      .error (.invalidRequest
        ("store endpoint " ++ settings.endpoint ++ ": " ++ fault))
  | .ok (endpoint, host) =>
      .ok {
        endpoint
        host
        region := settings.region
        tableName := settings.tableName
        credentials := settings.credentials
        timeout := settings.timeout
        pageLimit := settings.pageLimit }

/-- The values of a filter as attributes. -/
def bindingsJson (bindings : TextMap String) : Json :=
  .object (bindings.entries.map fun (key, value) =>
    (key, (Attribute.string value).toJson))

/-- The members of a request for a page that state the filter. -/
def filterMembers : ScanMode -> List (String × Json)
  | .all => []
  | .filtered filter =>
      [("FilterExpression", .string filter.text),
        ("ExpressionAttributeValues", bindingsJson filter.bindings)]

/-- The body of the request for a page. -/
def pageBody
    (client : StoreClient)
    (mode : ScanMode)
    (startKey : Option Item) : Json :=
  .object ([("TableName", .string client.tableName)] ++
    filterMembers mode ++
    (client.pageLimit.map fun limit => ("Limit", Json.ofNat limit)).toList ++
    (startKey.map fun key => ("ExclusiveStartKey", key.toJson)).toList)

/-- The scope of a request made at an instant. -/
def scope (client : StoreClient) (time : Instant) : Scope :=
  ⟨client.region, service, time⟩

/-- The headers of a request that are signed. -/
def signedHeaders (client : StoreClient) (time : Instant) : TextMap String :=
  TextMap.ofPairs ([
    ("content-type", contentType),
    ("host", client.host),
    ("x-amz-date", (client.scope time).timeStamp),
    ("x-amz-target", scanTarget)] ++
    (client.credentials.sessionToken.map fun token =>
      ("x-amz-security-token", token)).toList)

/-- What is signed of a request with a body. -/
def canonicalRequest
    (client : StoreClient)
    (time : Instant)
    (body : String) : CanonicalRequest where
  method := "POST"
  path := client.endpoint.path
  query := ""
  headers := client.signedHeaders time
  payloadHash := Signature.digest body

/-- The path and the query of the endpoint. -/
def target (client : StoreClient) : String :=
  match client.endpoint.query with
  | some query => client.endpoint.path ++ "?" ++ query
  | none => client.endpoint.path

/-- The request for a page. -/
def pageRequest
    (client : StoreClient)
    (mode : ScanMode)
    (startKey : Option Item)
    (time : Instant) : SentRequest :=
  let body := (client.pageBody mode startKey).render
  { method := "POST"
    target := client.target
    headers := (client.signedHeaders time).insert "authorization"
      (Signature.authorization client.credentials (client.scope time)
        (client.canonicalRequest time body))
    body := body }

/-- Whether an octet may stand in the value of a header. -/
def isHeaderOctet (octet : UInt8) : Bool :=
  octet == 0x09 || (0x20 ≤ octet && octet != 0x7F)

/-- Whether a text may be the value of a header. -/
def isHeaderValue (text : String) : Bool :=
  (Utf8.octets text).all isHeaderOctet

/-- Whether a request is sent: the endpoint is one of the web and every header
value is allowed. The host is not given as a header but taken from the endpoint.
That some marks which the host of a URL may hold are refused in the target of a
request, such as the brace in `http://exa{mple`, is left out. -/
def canSend (client : StoreClient) (request : SentRequest) : Bool :=
  (client.endpoint.scheme == "http" || client.endpoint.scheme == "https") &&
    request.headers.entries.all fun (name, value) =>
      name == "host" || isHeaderValue value

end StoreClient
end BookLookup
