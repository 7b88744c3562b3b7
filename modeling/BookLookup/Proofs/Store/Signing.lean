import BookLookup.Proofs.Http.FormQuery
import BookLookup.Proofs.Signature.CanonicalQuery
import BookLookup.Proofs.Signature.CanonicalRequest
import BookLookup.Proofs.Store.Sending
import BookLookup.Proofs.Url.Path

/-!
# What is signed and what is sent

The store rebuilds a canonical request from what it receives and compares it
with the signature. The client signs an empty query, but sends the query of its
endpoint. So what is rebuilt has the signed text if and only if the query of the
endpoint stands for no pairs; in everything else the two agree.
-/

namespace BookLookup

/-! ## What the store reads -/

/-- The names of the signed headers and the signature that an authorization
states behind its credential, which may hold any text. -/
def readAuthorization? (authorization : String) :
    Option (List String × String) :=
  match (Split.pieces ',' authorization.toList).reverse with
  | signature :: names :: _ => do
      let signature <- signature.dropPrefix? " Signature=".toList
      let names <- names.dropPrefix? " SignedHeaders=".toList
      return ((Split.pieces ';' names).map String.ofList, .ofList signature)
  | _ => none

/-- The canonical query of the pairs that a query stands for, if there is
one. -/
def CanonicalQuery.ofQuery (query : Option String) : String :=
  ofPairs ((query.map FormQuery.pairs).getD [])

theorem CanonicalQuery.ofQuery_eq_empty_iff {query : Option String} :
    ofQuery query = "" ↔
      ∀ text ∈ query, ∀ symbol ∈ text.toList, symbol = '&' := by
  rw [ofQuery, ofPairs_eq_empty_iff]
  cases query with
  | none => simp
  | some text => simp [FormQuery.pairs_eq_nil_iff]

namespace SentRequest

/-- The path that a request asks for, and the query behind the first question
mark. -/
def pathAndQuery (request : SentRequest) : String × Option String :=
  match Split.atFirst? '?' request.target.toList with
  | some (path, query) => (.ofList path, some (.ofList query))
  | none => (request.target, none)

/-- A header with its trimmed value, if a request has it. -/
def header? (request : SentRequest) (name : String) :
    Option (String × String) :=
  (request.headers.get? name).map fun value => (name, trimmed value)

/-- The canonical request of a request and its signed headers. -/
def rebuilt? (request : SentRequest) (names : List String) :
    Option CanonicalRequest := do
  let headers <- names.mapM request.header?
  return {
    method := request.method
    path := request.pathAndQuery.1
    query := CanonicalQuery.ofQuery request.pathAndQuery.2
    headers := .ofPairs headers
    payloadHash := Signature.digest request.body }

end SentRequest

/-! ## Authorizations are read back -/

namespace Signature

/-- The names of the signed headers are read back. -/
theorem pieces_signedHeaders
    {request : CanonicalRequest}
    (signed : request.headers.keys ≠ [])
    (plain : ∀ name ∈ request.headers.keys, ';' ∉ name.toList) :
    (Split.pieces ';' request.signedHeaders.toList).map String.ofList =
      request.headers.keys := by
  have absent : ∀ part ∈ request.headers.keys.map String.toList,
      ';' ∉ part := by
    rw [List.forall_mem_map]
    exact plain
  rw [CanonicalRequest.toList_signedHeaders, Split.pieces_join (by simpa using signed) absent,
    List.map_map]
  simp

/-- No comma stands between names without one. -/
theorem comma_not_mem_signedHeaders
    {request : CanonicalRequest}
    (plain : ∀ name ∈ request.headers.keys, ',' ∉ name.toList) :
    ',' ∉ request.signedHeaders.toList := by
  rw [CanonicalRequest.toList_signedHeaders]
  intro member
  rcases Split.mem_join member with same | ⟨part, isPart, inPart⟩
  · cases same
  · obtain ⟨name, isName, rfl⟩ := List.mem_map.mp isPart
    exact plain name isName inPart

/-- An authorization states the names of the signed headers and the
signature. -/
theorem readAuthorization?_authorization
    (credentials : Credentials)
    (scope : Scope)
    {request : CanonicalRequest}
    (signed : request.headers.keys ≠ [])
    (plain : ∀ name ∈ request.headers.keys,
      ',' ∉ name.toList ∧ ';' ∉ name.toList) :
    readAuthorization? (authorization credentials scope request) =
      some (request.headers.keys, ofRequest credentials scope request) := by
  have digits : ∀ value < 16, Hex.lowerDigit value ≠ ',' := by decide
  have noComma : ',' ∉ " Signature=".toList ++
      (ofRequest credentials scope request).toList := by
    rw [List.mem_append, not_or]
    refine ⟨by decide, ?_⟩
    intro member
    obtain ⟨value, below, isDigit⟩ := Hex.exists_digit_of_mem_text member
    exact digits value below isDigit.symm
  have noCommaBefore : ',' ∉ " SignedHeaders=".toList ++
      request.signedHeaders.toList := by
    rw [List.mem_append, not_or]
    exact ⟨by decide, comma_not_mem_signedHeaders fun name member =>
      (plain name member).1⟩
  have text : (authorization credentials scope request).toList =
      (algorithm ++ " Credential=" ++ credential credentials scope).toList ++
        ',' :: ((" SignedHeaders=".toList ++ request.signedHeaders.toList) ++
          ',' :: (" Signature=".toList ++
            (ofRequest credentials scope request).toList)) := by
    simp [authorization]
  have cut : (Split.pieces ','
        (authorization credentials scope request).toList).reverse =
      (" Signature=".toList ++ (ofRequest credentials scope request).toList) ::
        (" SignedHeaders=".toList ++ request.signedHeaders.toList) ::
        (Split.pieces ',' (algorithm ++ " Credential=" ++
          credential credentials scope).toList).reverse := by
    rw [text, Split.pieces_append_cons, Split.pieces_append_cons,
      Split.pieces_of_not_mem noComma, Split.pieces_of_not_mem noCommaBefore,
      List.reverse_append]
    rfl
  have literal (front back : List Char) :
      (front ++ back).dropPrefix? front = some back :=
    List.dropPrefix?_append_of_beq back (by simp)
  have names := pieces_signedHeaders signed fun name member =>
    (plain name member).2
  rw [readAuthorization?, cut]
  simp only [literal, Option.bind_eq_bind, Option.bind_some, Option.pure_def,
    names, String.ofList_toList]

end Signature

namespace StoreClient

/-- A client that settings ask for has their endpoint and their credentials. -/
theorem endpoint_of_ofSettings
    {settings : StoreSettings}
    {client : StoreClient}
    (accepted : ofSettings settings = .ok client) :
    Url.read settings.endpoint = .ok client.endpoint ∧
      client.endpoint.authority? = some client.host ∧
      client.credentials = settings.credentials := by
  unfold ofSettings at accepted
  cases endpoint : readEndpoint settings.endpoint with
  | error fault => simp [endpoint] at accepted
  | ok found =>
      obtain ⟨url, host⟩ := found
      simp only [endpoint] at accepted
      unfold readEndpoint at endpoint
      split at endpoint
      · cases endpoint
      · rename_i read
        split at endpoint
        · cases endpoint
        · rename_i hosted
          cases endpoint
          cases accepted
          exact ⟨read, hosted, rfl⟩

/-- The names of the signed headers can be read back and are not that of the
authorization. -/
theorem plain_keys_signedHeaders
    {client : StoreClient}
    {time : Instant} :
    ∀ name ∈ (client.signedHeaders time).keys,
      (',' ∉ name.toList ∧ ';' ∉ name.toList) ∧ name ≠ "authorization" := by
  have each : ∀ name ∈ ["content-type", "host", "x-amz-date", "x-amz-target",
      "x-amz-security-token"],
      (',' ∉ name.toList ∧ ';' ∉ name.toList) ∧ name ≠ "authorization" := by
    decide
  intro name member
  exact each name (mem_keys_signedHeaders member)

/-- A token is signed exactly if there is one. -/
theorem token_mem_keys_signedHeaders_iff
    (client : StoreClient)
    (time : Instant) :
    "x-amz-security-token" ∈ (client.signedHeaders time).keys ↔
      client.credentials.sessionToken.isSome := by
  rw [signedHeaders, TextMap.mem_keys_ofPairs]
  cases client.credentials.sessionToken with
  | none => simp
  | some token => simp

/-- A request states the names of the signed headers and the signature of what
has been signed. -/
theorem readAuthorization?_pageRequest
    (client : StoreClient)
    (mode : ScanMode)
    (startKey : Option Item)
    (time : Instant) :
    ((client.pageRequest mode startKey time).headers.get?
        "authorization").bind readAuthorization? =
      some ((client.signedHeaders time).keys,
        Signature.ofRequest client.credentials (client.scope time)
          (client.canonicalRequest time
            (client.pageRequest mode startKey time).body)) := by
  have signed : (client.signedHeaders time).keys ≠ [] := by
    have host : "host" ∈ (client.signedHeaders time).keys := by
      rw [signedHeaders, TextMap.mem_keys_ofPairs]
      simp
    exact List.ne_nil_of_mem host
  have plain : ∀ name ∈ (client.signedHeaders time).keys,
      ',' ∉ name.toList ∧ ';' ∉ name.toList := by
    intro name member
    exact (plain_keys_signedHeaders name member).1
  rw [get?_headers_pageRequest, if_pos rfl, Option.bind_some]
  exact Signature.readAuthorization?_authorization _ _ signed plain

/-- The signed headers of a request are those that have been signed. -/
theorem mapM_header?_pageRequest
    (client : StoreClient)
    (mode : ScanMode)
    (startKey : Option Item)
    (time : Instant) :
    (client.signedHeaders time).keys.mapM
        (client.pageRequest mode startKey time).header? =
      some ((client.signedHeaders time).entries.map fun header =>
        (header.1, trimmed header.2)) := by
  have each : ∀ header ∈ (client.signedHeaders time).entries,
      (client.pageRequest mode startKey time).header? header.1 =
        some (header.1, trimmed header.2) := by
    intro header member
    have isKey : header.1 ∈ (client.signedHeaders time).keys :=
      List.mem_map_of_mem member
    have differs := (plain_keys_signedHeaders header.1 isKey).2
    rw [SentRequest.header?, pageRequest, TextMap.get?_insert, if_neg differs,
      TextMap.mem_entries_iff.mp member]
    rfl
  rw [TextMap.keys, List.mapM_map]
  exact Elementwise.mapM_eq_some_map each

/-- If no question mark stands in the path of the endpoint, the store reads its
path and its query. -/
theorem pathAndQuery_pageRequest
    {client : StoreClient}
    (plain : '?' ∉ client.endpoint.path.toList)
    (mode : ScanMode)
    (startKey : Option Item)
    (time : Instant) :
    (client.pageRequest mode startKey time).pathAndQuery =
      (client.endpoint.path, client.endpoint.query) := by
  rw [SentRequest.pathAndQuery, pageRequest, target]
  cases client.endpoint.query with
  | none =>
      simp only [Split.atFirst?_of_not_mem plain]
  | some query =>
      have text : (client.endpoint.path ++ "?" ++ query).toList =
          client.endpoint.path.toList ++ '?' :: query.toList := by
        simp
      simp only [text, Split.atFirst?_append _ plain, String.ofList_toList]

/-- What has been signed, with trimmed headers and under some query. -/
def signedUnder
    (client : StoreClient)
    (time : Instant)
    (body query : String) : CanonicalRequest where
  method := "POST"
  path := client.endpoint.path
  query := query
  headers := CanonicalRequest.trimmedHeaders (client.signedHeaders time)
  payloadHash := Signature.digest body

/-- Under the query that has been signed, and under no other, the text is that
of what has been signed. -/
theorem render_signedUnder_iff
    (client : StoreClient)
    (time : Instant)
    (body query : String) :
    (client.signedUnder time body query).render =
        (client.canonicalRequest time body).render ↔
      query = "" := by
  have trimming : (client.signedUnder time body query).render =
      CanonicalRequest.render
        { client.canonicalRequest time body with query := query } :=
    CanonicalRequest.render_trimmedHeaders
      { client.canonicalRequest time body with query := query }
  rw [trimming]
  exact CanonicalRequest.render_query_inj (client.canonicalRequest time body)

/-- The store rebuilds what has been signed, under the query of the
endpoint. -/
theorem rebuilt?_pageRequest
    {client : StoreClient}
    (plain : '?' ∉ client.endpoint.path.toList)
    (mode : ScanMode)
    (startKey : Option Item)
    (time : Instant) :
    (client.pageRequest mode startKey time).rebuilt?
        (client.signedHeaders time).keys =
      some (client.signedUnder time
        (client.pageRequest mode startKey time).body
        (CanonicalQuery.ofQuery client.endpoint.query)) := by
  rw [SentRequest.rebuilt?, mapM_header?_pageRequest,
    pathAndQuery_pageRequest plain]
  rfl

/-! ## What is rebuilt and what has been signed -/

/-- What the store makes of a request that a client with some settings has
signed at some time. -/
structure Rebuilds
    (settings : StoreSettings)
    (client : StoreClient)
    (time : Instant)
    (request : SentRequest)
    (names : List String)
    (signature : String)
    (rebuilt : CanonicalRequest) : Prop where
  /-- The request asks the host of the endpoint for its path and its query. -/
  asked : request.target = client.target ∧
    request.headers.get? "host" = client.endpoint.authority?
  /-- The authorization states the signed headers and the signature. -/
  stated : (request.headers.get? "authorization").bind readAuthorization? =
    some (names, signature)
  /-- The signature is that of what has been signed. -/
  signed : signature = Signature.ofRequest settings.credentials
    (client.scope time) (client.canonicalRequest time request.body)
  /-- The token is signed exactly if there is one. -/
  token : "x-amz-security-token" ∈ names ↔
    settings.credentials.sessionToken.isSome
  /-- The canonical request is rebuilt from the request and the names. -/
  recovered : request.rebuilt? names = some rebuilt
  /-- Apart from the query it has the text of what has been signed. -/
  sameButQuery : CanonicalRequest.render { rebuilt with query := "" } =
    (client.canonicalRequest time request.body).render
  /-- It has the whole text exactly if the endpoint has no query or one of
  ampersands. -/
  same_iff : rebuilt.render =
      (client.canonicalRequest time request.body).render ↔
    ∀ query ∈ client.endpoint.query, ∀ symbol ∈ query.toList, symbol = '&'

/-- Of every request of a client that is accepted, the store rebuilds what has
been signed, except that a query of the endpoint is sent and not signed. -/
theorem exists_rebuilds_pageRequest
    {settings : StoreSettings}
    {client : StoreClient}
    (accepted : ofSettings settings = .ok client)
    (mode : ScanMode)
    (startKey : Option Item)
    (time : Instant) :
    ∃ names signature rebuilt,
      Rebuilds settings client time (client.pageRequest mode startKey time)
        names signature rebuilt := by
  obtain ⟨read, authority, credentials⟩ := endpoint_of_ofSettings accepted
  have hosted : client.endpoint.host.isSome := by
    rw [Url.authority?, Option.map_eq_some_iff] at authority
    obtain ⟨host, isHost, -⟩ := authority
    rw [isHost]
    rfl
  have plain := Url.question_not_mem_path read hosted
  refine ⟨(client.signedHeaders time).keys,
    Signature.ofRequest client.credentials (client.scope time)
      (client.canonicalRequest time
        (client.pageRequest mode startKey time).body),
    client.signedUnder time (client.pageRequest mode startKey time).body
      (CanonicalQuery.ofQuery client.endpoint.query), ?_⟩
  constructor
  case asked =>
    refine ⟨rfl, ?_⟩
    rw [get?_headers_pageRequest, authority]
    simp
  case stated =>
    exact client.readAuthorization?_pageRequest mode startKey time
  case signed =>
    rw [credentials]
  case token =>
    rw [← credentials]
    exact client.token_mem_keys_signedHeaders_iff time
  case recovered =>
    exact rebuilt?_pageRequest plain mode startKey time
  case sameButQuery =>
    exact (client.render_signedUnder_iff time _ "").mpr rfl
  case same_iff =>
    rw [client.render_signedUnder_iff]
    exact CanonicalQuery.ofQuery_eq_empty_iff

/-- Settings for a store on the local host whose endpoint has a query. -/
def settingsWithQuery : StoreSettings where
  endpoint := "http://[::1]:8000/?x=1"
  region := "us-west-1"
  tableName := "books"
  credentials := ⟨"AKIDTEST", "secret", none⟩
  timeout := .ofSeconds 5
  pageLimit := none

/-- The client that these settings ask for. -/
def clientWithQuery : StoreClient where
  endpoint := ⟨"http", "", "", some (.ipv6 [0, 0, 0, 0, 0, 0, 0, 1]),
    some 8000, "/", some "x=1", none⟩
  host := "[::1]:8000"
  region := "us-west-1"
  tableName := "books"
  credentials := ⟨"AKIDTEST", "secret", none⟩
  timeout := .ofSeconds 5
  pageLimit := none

/-- The settings are accepted. -/
theorem ofSettings_settingsWithQuery :
    ofSettings settingsWithQuery = .ok clientWithQuery := by
  have endpoint : readEndpoint "http://[::1]:8000/?x=1" =
      .ok (clientWithQuery.endpoint, "[::1]:8000") := by
    rfl
  simp only [ofSettings, settingsWithQuery, endpoint]
  rfl

/-- Their first request is rebuilt. -/
theorem exists_rebuilds_clientWithQuery :
    ∃ names signature rebuilt,
      Rebuilds settingsWithQuery clientWithQuery ⟨0, 0⟩
        (clientWithQuery.pageRequest .all none ⟨0, 0⟩) names signature
        rebuilt :=
  exists_rebuilds_pageRequest ofSettings_settingsWithQuery .all none ⟨0, 0⟩

/-- What is rebuilt of it has another text than what has been signed. -/
theorem render_rebuilt_ne_of_query :
    ofSettings settingsWithQuery = .ok clientWithQuery ∧
      (clientWithQuery.pageRequest .all none ⟨0, 0⟩).target = "/?x=1" ∧
      ∃ names rebuilt,
        ((clientWithQuery.pageRequest .all none ⟨0, 0⟩).headers.get?
            "authorization").bind readAuthorization? =
          some (names, Signature.ofRequest settingsWithQuery.credentials
            (clientWithQuery.scope ⟨0, 0⟩)
            (clientWithQuery.canonicalRequest ⟨0, 0⟩
              (clientWithQuery.pageRequest .all none ⟨0, 0⟩).body)) ∧
        (clientWithQuery.pageRequest .all none ⟨0, 0⟩).rebuilt? names =
          some rebuilt ∧
        rebuilt.render ≠
          (clientWithQuery.canonicalRequest ⟨0, 0⟩
            (clientWithQuery.pageRequest .all none ⟨0, 0⟩).body).render := by
  have plain : '?' ∉ clientWithQuery.endpoint.path.toList := by decide
  refine ⟨ofSettings_settingsWithQuery, by decide, _, _,
    clientWithQuery.readAuthorization?_pageRequest .all none ⟨0, 0⟩,
    rebuilt?_pageRequest plain .all none ⟨0, 0⟩, ?_⟩
  rw [Ne, clientWithQuery.render_signedUnder_iff,
    CanonicalQuery.ofQuery_eq_empty_iff]
  intro ampersands
  exact absurd (ampersands "x=1" rfl 'x' (by decide)) (by decide)

end StoreClient
end BookLookup
