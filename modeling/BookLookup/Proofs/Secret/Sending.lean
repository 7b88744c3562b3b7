import BookLookup.Proofs.Secret.Written
import BookLookup.Proofs.Store.Stream

/-!
# Scans with another secret

With another secret, a client sends requests that differ in their signatures
alone, to the same replies. Whether a request can be sent and what its page holds
does not depend on the secret, so that a scan gives the same books and sends the
same requests but for their signatures.
-/

namespace BookLookup

/-! ## Requests to the store -/

/-- A header as it is compared: signatures are blanked in the authorization. -/
def Marker.blankHeader (name value : String) : String :=
  if name = "authorization" then Marker.inHeader.blanked value else value

/-- A request to the store with its signature blanked. -/
def SentRequest.blanked (request : SentRequest) : SentRequest :=
  { request with headers := request.headers.mapValues Marker.blankHeader }

namespace StoreClient

/-- A client with another secret. -/
def withSecret (client : StoreClient) (secret : String) : StoreClient :=
  { client with credentials := client.credentials.withSecret secret }

/-- With another secret, a request for a page differs in its signature alone. -/
theorem blanked_pageRequest_withSecret
    (client : StoreClient)
    (secret : String)
    (mode : ScanMode)
    (startKey : Option Item)
    (time : Instant) :
    ((client.withSecret secret).pageRequest mode startKey time).blanked =
      (client.pageRequest mode startKey time).blanked := by
  let request :=
    client.canonicalRequest time (client.pageBody mode startKey).render
  have sameAuthorization :
      Marker.blankHeader "authorization" (Signature.authorization
          (client.credentials.withSecret secret) (client.scope time) request) =
        Marker.blankHeader "authorization" (Signature.authorization
          client.credentials (client.scope time) request) := by
    have alike := Signature.alike_authorization client.credentials secret
      (client.scope time) request
    rw [Marker.blankHeader, Marker.blankHeader, if_pos rfl, if_pos rfl,
      alike.blanked_eq]
  have headers :
      ((client.withSecret secret).pageRequest mode startKey
          time).headers.mapValues Marker.blankHeader =
        (client.pageRequest mode startKey time).headers.mapValues
          Marker.blankHeader := by
    rw [pageRequest, pageRequest, TextMap.mapValues_insert,
      TextMap.mapValues_insert]
    exact congrArg _ sameAuthorization
  rw [SentRequest.blanked, headers]
  rfl

/-- Whether requests can be sent does not depend on the secret. -/
theorem reaches_withSecret_iff
    (client : StoreClient)
    (secret : String) :
    (client.withSecret secret).Reaches ↔ client.Reaches :=
  ⟨fun reaches => ⟨reaches.scheme, reaches.region, reaches.accessKeyId,
      reaches.sessionToken⟩,
    fun reaches => ⟨reaches.scheme, reaches.region, reaches.accessKeyId,
      reaches.sessionToken⟩⟩

/-- With another secret, requests differ in their signatures alone. -/
theorem map_blanked_requests_withSecret
    (client : StoreClient)
    (secret : String)
    (mode : ScanMode)
    (clock : Nat -> Instant)
    (count : Nat)
    (keys : List (Option Item)) :
    ((client.withSecret secret).requests mode clock count keys).map
        SentRequest.blanked =
      (client.requests mode clock count keys).map SentRequest.blanked := by
  induction keys generalizing count with
  | nil => rfl
  | cons key others inductionHypothesis =>
      rw [requests, requests, List.map_cons, List.map_cons,
        blanked_pageRequest_withSecret, inductionHypothesis]

end StoreClient

/-! ## Scans -/

/-- Networks are the same but for the signatures of the received requests. -/
structure Network.Alike (network other : Network) : Prop where
  /-- The same replies are to come. -/
  replies : network.replies = other.replies
  /-- The time is the same. -/
  clock : network.clock = other.clock
  /-- The same requests have been received. -/
  received : network.received.map SentRequest.blanked =
    other.received.map SentRequest.blanked

/-- They have received as many requests. -/
theorem Network.Alike.length_eq
    {network other : Network}
    (alike : network.Alike other) :
    network.received.length = other.received.length := by
  have sameLength := congrArg List.length alike.received
  rwa [List.length_map, List.length_map] at sameLength

namespace StoreClient

/-- With another secret, the same run leaves networks alike. -/
theorem alike_after
    (client : StoreClient)
    (secret : String)
    (mode : ScanMode)
    (run : PagingRun)
    {network other : Network}
    (alike : network.Alike other) :
    (network.after client mode run).Alike
      (other.after (client.withSecret secret) mode run) where
  replies := rfl
  clock := alike.clock
  received := by
    rw [Network.after, Network.after, List.map_append, List.map_append,
      map_blanked_requests_withSecret, alike.received, alike.clock,
      alike.length_eq]

/-- How long a reader waits does not depend on the secret. -/
theorem waitOf_withSecret
    (client : StoreClient)
    (secret : String)
    (run : PagingRun) :
    (client.withSecret secret).waitOf run = client.waitOf run := by
  unfold waitOf waitFor
  rfl

/-- With another secret, a scan gives the same stream and leaves networks
alike. -/
theorem store_withSecret
    (client : StoreClient)
    (secret : String)
    (mode : ScanMode)
    {network other : Network}
    (alike : network.Alike other) :
    ((client.withSecret secret).store mode other).1 =
        (client.store mode network).1 ∧
      (client.store mode network).2.Alike
        ((client.withSecret secret).store mode other).2 := by
  by_cases reaches : client.Reaches
  · -- The same replies are to come, so that one run explains both scans.
    have otherReaches := (client.reaches_withSecret_iff secret).mpr reaches
    obtain ⟨run, paging⟩ := Paging.exists_run none network.replies
    obtain ⟨records, stores, pages⟩ :=
      pages_of_paging reaches paging mode .beginning network rfl rfl
    obtain ⟨otherRecords, otherStores, otherPages⟩ :=
      pages_of_paging otherReaches paging mode .beginning other rfl
        alike.replies.symm
    have sameRecords : otherRecords = records := by
      have read := recordsOf_eq_ok_iff.mpr stores
      rw [recordsOf_eq_ok_iff.mpr otherStores] at read
      exact Except.ok.inj read
    rw [store, store, ← alike.replies, pages, otherPages, sameRecords,
      waitOf_withSecret]
    exact ⟨rfl, client.alike_after secret mode run alike⟩
  · have otherUnreachable : ¬ (client.withSecret secret).Reaches :=
      fun otherReaches =>
        reaches ((client.reaches_withSecret_iff secret).mp otherReaches)
    rw [store, store, pages_of_not_reaches reaches,
      pages_of_not_reaches otherUnreachable]
    exact ⟨rfl, alike⟩

end StoreClient
end BookLookup
