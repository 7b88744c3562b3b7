import BookLookup.Proofs.Store.Stream

/-!
# All that a scan gives

A scan is asked until it gives nothing more. It comes to an end, since every
request uses up a reply, every book was received before, and after a failure the
scan is closed. What it gives until then is what its pages give.
-/

namespace BookLookup

/-! ## Asking until nothing comes -/

/-- Whether a scan may still ask for a page. -/
def Cursor.openness : Cursor -> Nat
  | exhausted => 0
  | _ => 1

namespace StoreClient

/-- A scan that asks for pages uses up replies if it gives a book, and is closed
if it fails. -/
theorem fetch_progress
    (client : StoreClient)
    (scan : Scan)
    (network : Network)
    {replies : List Reply}
    (toCome : network.replies = replies) :
    let pull := client.fetch scan network replies
    pull.network.replies.length ≤ replies.length ∧
      (∀ record, pull.result = .record record ->
        pull.network.replies.length < replies.length) ∧
      ∀ fault, pull.result = .failed fault -> pull.scan = scan.closed := by
  induction replies generalizing scan network with
  | nil =>
      simp [fetch, toCome]
  | cons reply later inductionHypothesis =>
      simp only [fetch]
      split
      · split
        · simp [Network.receive]
        · split
          · simp [Network.receive]
          · rename_i key _ _
            obtain ⟨atMost, fewer, closed⟩ := inductionHypothesis
              { scan with cursor := .beyond key }
              (network.receive (client.scanRequest scan network) later) rfl
            refine ⟨?_, ?_, closed⟩
            · exact Nat.le_succ_of_le atMost
            · intro record isRecord
              exact Nat.lt_succ_of_lt (fewer record isRecord)
          · simp [Network.receive]
      · simp [toCome]

/-- What a scan may still give: by the replies to come, whether it may ask for a
page, and the books that are ready. -/
def remaining (scan : Scan) (network : Network) : Nat × Nat × Nat :=
  (network.replies.length, scan.cursor.openness, scan.ready.length)

/-- Whenever a scan gives something, less remains. -/
theorem pull_decreases
    (client : StoreClient)
    (scan : Scan)
    (network : Network)
    (given : (client.pull scan network).result ≠ .finished) :
    Prod.Lex (· < ·) (Prod.Lex (· < ·) (· < ·))
      (remaining (client.pull scan network).scan
        (client.pull scan network).network)
      (remaining scan network) := by
  obtain ⟨mode, cursor, ready⟩ := scan
  cases ready with
  | cons first others =>
      rw [pull_ready]
      exact .right _ (.right _ (Nat.lt_succ_self _))
  | nil =>
      have fetched (open_ : cursor.openness = 1)
          (isFetch : client.pull ⟨mode, cursor, []⟩ network =
            client.fetch ⟨mode, cursor, []⟩ network network.replies) :
          Prod.Lex (· < ·) (Prod.Lex (· < ·) (· < ·))
            (remaining (client.pull ⟨mode, cursor, []⟩ network).scan
              (client.pull ⟨mode, cursor, []⟩ network).network)
            (remaining ⟨mode, cursor, []⟩ network) := by
        obtain ⟨atMost, fewer, closed⟩ :=
          client.fetch_progress ⟨mode, cursor, []⟩ network rfl
        rw [isFetch] at given ⊢
        cases result : (client.fetch ⟨mode, cursor, []⟩ network
            network.replies).result with
        | finished => exact absurd result given
        | record record => exact .left _ _ (fewer record result)
        | failed fault =>
            rcases Nat.lt_or_eq_of_le atMost with less | same
            · exact .left _ _ less
            · rw [remaining, remaining, same, closed fault result, open_]
              exact .right _ (.left _ _ Nat.zero_lt_one)
      cases cursor with
      | beginning => exact fetched rfl rfl
      | beyond key => exact fetched rfl rfl
      | exhausted => exact absurd rfl given

/-- All that a scan gives until it gives nothing more, and the network
afterwards. -/
def drain
    (client : StoreClient)
    (scan : Scan)
    (network : Network) : List Pulled × Network :=
  match _given : (client.pull scan network).result with
  | .finished => ([], (client.pull scan network).network)
  | .record record =>
      let rest := client.drain (client.pull scan network).scan
        (client.pull scan network).network
      (.record record :: rest.1, rest.2)
  | .failed fault =>
      let rest := client.drain (client.pull scan network).scan
        (client.pull scan network).network
      (.failed fault :: rest.1, rest.2)
termination_by remaining scan network
decreasing_by
  · exact client.pull_decreases scan network (by simp [_given])
  · exact client.pull_decreases scan network (by simp [_given])

/-- What is given from a pull on, and the network afterwards. -/
def givenFrom (client : StoreClient) (pull : Pull) : List Pulled × Network :=
  match pull.result with
  | .finished => ([], pull.network)
  | .record record =>
      (.record record :: (client.drain pull.scan pull.network).1,
        (client.drain pull.scan pull.network).2)
  | .failed fault =>
      (.failed fault :: (client.drain pull.scan pull.network).1,
        (client.drain pull.scan pull.network).2)

/-- What a drained scan gives begins with what it gives next. -/
theorem drain_eq_givenFrom
    (client : StoreClient)
    (scan : Scan)
    (network : Network) :
    client.drain scan network =
      client.givenFrom (client.pull scan network) := by
  rw [drain, givenFrom]
  split
  · rename_i finished
    rw [finished]
  · rename_i record given
    rw [given]
  · rename_i fault failed
    rw [failed]

/-- A scan that gives nothing is drained. -/
theorem drain_of_finished
    {client : StoreClient}
    {scan next : Scan}
    {network after : Network}
    (pulled : client.pull scan network = ⟨.finished, next, after⟩) :
    client.drain scan network = ([], after) := by
  rw [drain_eq_givenFrom, pulled]
  rfl

/-- A book that a scan gives comes before what it gives afterwards. -/
theorem drain_of_record
    {client : StoreClient}
    {scan next : Scan}
    {network after : Network}
    {record : StoredRecord}
    (pulled : client.pull scan network = ⟨.record record, next, after⟩) :
    client.drain scan network =
      (.record record :: (client.drain next after).1,
        (client.drain next after).2) := by
  rw [drain_eq_givenFrom, pulled]
  rfl

/-- A failure that a scan gives is the last that it gives, if the scan is closed
afterwards. -/
theorem drain_of_failed
    {client : StoreClient}
    {scan other : Scan}
    {network after : Network}
    {fault : StoreFailure}
    (pulled : client.pull scan network =
      ⟨.failed fault, other.closed, after⟩) :
    client.drain scan network = ([.failed fault], after) := by
  have nothing : client.drain other.closed after = ([], after) :=
    drain_of_finished (client.pull_closed other after)
  rw [drain_eq_givenFrom, pulled]
  simp only [givenFrom, nothing]

/-- Books that are ready come before what the scan gives without them. -/
theorem drain_ready
    (client : StoreClient)
    (mode : ScanMode)
    (cursor : Cursor)
    (ready : List StoredRecord)
    (network : Network) :
    client.drain ⟨mode, cursor, ready⟩ network =
      (ready.map .record ++ (client.drain ⟨mode, cursor, []⟩ network).1,
        (client.drain ⟨mode, cursor, []⟩ network).2) := by
  induction ready with
  | nil => rfl
  | cons first others inductionHypothesis =>
      rw [drain_of_record (client.pull_ready mode cursor first others network),
        inductionHypothesis]
      rfl

/-! ## Streams -/

end StoreClient

/-- What a scan gives at the end of a stream. -/
def Ending.given : Ending -> List Pulled
  | finished => []
  | failed fault => [.failed fault]
  | stalled => []

/-- What a scan gives for a stream: the books and then the end. -/
def BookStream.given (stream : BookStream) : List Pulled :=
  stream.records.map .record ++ stream.ending.given

namespace StoreClient

/-- A scan that asks for pages gives the stream of the pages. -/
theorem drain_of_pull_eq_fetch
    (client : StoreClient)
    (mode : ScanMode)
    (cursor : Cursor)
    (network : Network)
    {replies : List Reply}
    (toCome : network.replies = replies)
    (asked : Scan)
    (before : Network)
    (pulled : client.pull asked before =
      client.fetch ⟨mode, cursor, []⟩ network replies) :
    client.drain asked before =
      ((client.pages mode cursor network replies).1.given,
        (client.pages mode cursor network replies).2) := by
  induction replies generalizing cursor network asked before with
  | nil =>
      rw [drain_of_failed pulled]
      rfl
  | cons reply later inductionHypothesis =>
      let request := client.scanRequest ⟨mode, cursor, []⟩ network
      by_cases canSend : client.canSend request
      · cases read : Page.ofReply reply with
        | error fault =>
            simp only [fetch, request, canSend, if_true, read] at pulled
            simp only [pages, request, canSend, if_true, read]
            rw [drain_of_failed pulled]
            rfl
        | ok page =>
            obtain ⟨records, next⟩ := page
            simp only [fetch, request, canSend, if_true, read] at pulled
            simp only [pages, request, canSend, if_true, read]
            cases next with
            | none =>
                cases records with
                | nil =>
                    rw [drain_of_finished pulled]
                    rfl
                | cons first others =>
                    rw [drain_of_record pulled, drain_ready, Cursor.ofNext,
                      drain_of_finished rfl]
                    simp [BookStream.given, Ending.given]
            | some key =>
                have beyond := inductionHypothesis (.beyond key)
                  (network.receive request later) rfl
                cases records with
                | nil =>
                    -- A page without books is followed by the next unnoticed.
                    rw [beyond asked before pulled]
                    rfl
                | cons first others =>
                    rw [drain_of_record pulled, drain_ready, Cursor.ofNext,
                      beyond ⟨mode, .beyond key, []⟩
                        (network.receive request later) rfl]
                    simp [BookStream.given, request]
      · simp only [fetch, request, canSend] at pulled
        simp only [pages, request, canSend]
        rw [drain_of_failed pulled]
        rfl

/-- A scan that is drained gives the stream of the store. -/
theorem drain_open_eq_store
    (client : StoreClient)
    (mode : ScanMode)
    (network : Network) :
    client.drain (.open mode) network =
      ((client.store mode network).1.given, (client.store mode network).2) :=
  client.drain_of_pull_eq_fetch mode .beginning network rfl (.open mode) network
    rfl

/-! ## What the pages give -/

end StoreClient

theorem PagingRun.given_ending (run : PagingRun) :
    run.ending.given = (run.failure.map .failed).toList := by
  unfold PagingRun.ending
  cases run.failure with
  | none => rfl
  | some fault => rfl

namespace StoreClient

/-- If the requests of a client cannot be sent, its scan fails at once and
nothing is received. -/
theorem drain_of_not_reaches
    {client : StoreClient}
    (unreachable : ¬ client.Reaches)
    (mode : ScanMode)
    (network : Network) :
    client.drain (.open mode) network = ([.failed .transport], network) := by
  rw [drain_open_eq_store, store, pages_of_not_reaches unreachable]
  rfl

/-- A scan that is drained gives what its pages give, one after the other. -/
structure GivesPages
    (client : StoreClient)
    (mode : ScanMode)
    (network : Network)
    (run : PagingRun)
    (records : List StoredRecord)
    (requests : List SentRequest) : Prop where
  /-- The run is that of the replies to come, from the first page on. -/
  paging : Paging none network.replies run
  /-- There is no other run of these replies. -/
  unique : ∀ other, Paging none network.replies other -> other = run
  /-- The books are those of the items of all good pages, in order. -/
  stores : Stores run.items records
  /-- The scan gives these books and then its failure, if there is one. -/
  drained : (client.drain (.open mode) network).1 =
    records.map .record ++ (run.failure.map .failed).toList
  /-- Each request says after which key its page begins. -/
  asked : List.Forall₂ SentRequest.StartsAfter requests run.startKeys
  /-- These requests have been received and no others. -/
  received : (client.drain (.open mode) network).2.received =
    network.received ++ requests
  /-- Replies beyond the last page or the failure have not been used. -/
  unused : (client.drain (.open mode) network).2.replies = run.unused

/-- Under an endpoint of the web and with credentials that may stand in headers,
a scan gives the concatenation of its pages if the region may stand in headers,
too, and otherwise fails at once and sends nothing. -/
theorem drain_open
    (client : StoreClient)
    (scheme :
      client.endpoint.scheme = "http" ∨ client.endpoint.scheme = "https")
    (accessKeyId : isHeaderValue client.credentials.accessKeyId)
    (sessionToken :
      ∀ token ∈ client.credentials.sessionToken, isHeaderValue token)
    (mode : ScanMode)
    (network : Network) :
    (isHeaderValue client.region -> ∃ run records requests,
      client.GivesPages mode network run records requests) ∧
    (¬ isHeaderValue client.region ->
      client.drain (.open mode) network = ([.failed .transport], network)) := by
  constructor
  · intro region
    have reaches : client.Reaches := ⟨scheme, region, accessKeyId, sessionToken⟩
    obtain ⟨run, paging⟩ := Paging.exists_run none network.replies
    obtain ⟨records, stores, pages⟩ :=
      pages_of_paging reaches paging mode .beginning network rfl rfl
    have drained := client.drain_open_eq_store mode network
    rw [store, pages] at drained
    refine ⟨run, records, client.requests mode network.clock
      network.received.length run.startKeys, ?_⟩
    exact {
      paging
      unique := fun other otherPaging => otherPaging.unique paging
      stores
      drained := by rw [drained, BookStream.given, run.given_ending]
      asked := client.startsAfter_requests mode network.clock _ run.startKeys
      received := by rw [drained, Network.after]
      unused := by rw [drained, Network.after] }
  · intro noHeaderValue
    exact drain_of_not_reaches
      (fun reaches => noHeaderValue reaches.region) mode network

/-- Settings for a store on the local host, in some region. -/
def localSettings (region : String) : StoreSettings where
  endpoint := "http://[::1]:8000"
  region := region
  tableName := "books"
  credentials := ⟨"AKIDTEST", "secret", none⟩
  timeout := .ofSeconds 5
  pageLimit := none

/-- The client that these settings ask for. -/
def localClient (region : String) : StoreClient where
  endpoint := ⟨"http", "", "", some (.ipv6 [0, 0, 0, 0, 0, 0, 0, 1]),
    some 8000, "/", none, none⟩
  host := "[::1]:8000"
  region := region
  tableName := "books"
  credentials := ⟨"AKIDTEST", "secret", none⟩
  timeout := .ofSeconds 5
  pageLimit := none

/-- The settings are those of the client. -/
theorem ofSettings_localSettings (region : String) :
    ofSettings (localSettings region) = .ok (localClient region) := by
  have endpoint : readEndpoint "http://[::1]:8000" =
      .ok (⟨"http", "", "", some (.ipv6 [0, 0, 0, 0, 0, 0, 0, 1]),
        some 8000, "/", none, none⟩, "[::1]:8000") := by
    rfl
  simp only [ofSettings, localSettings, endpoint]
  rfl

/-- A book of which only the identity is known. -/
def oneItem : Item :=
  .ofPairs [("id", .string "1")]

/-- A book with a cover. -/
def coverItem : Item :=
  .ofPairs [("id", .string "2"), ("imageKey", .string "covers/2.png")]

/-- The answer that is a page of some items and gives the key after which the
next page begins, if there is one. -/
def pageReply (items : List Item) (next : Option Item) : Reply :=
  .ofMessage 200 (Utf8.octets (Json.object
    (("Items", .array (items.map Item.toJson)) ::
      (next.map fun key => ("LastEvaluatedKey", key.toJson)).toList)).render)

/-- Such an answer carries its items, if they and the key are read back and the
items are books. -/
theorem carries_pageReply
    {items : List Item}
    {next : Option Item}
    (itemsRead : List.Forall₂
      (fun json item => Item.ofJson? (Json.depthLimit - 2) json = some item)
      (items.map Item.toJson) items)
    (keyRead : ∀ key ∈ next, key.entries ≠ [] ∧
      Item.ofJson? (Json.depthLimit - 1) key.toJson = some key)
    (books : ∀ item ∈ items, ∃ record, item.record = .ok record) :
    (pageReply items next).Carries items next := by
  have itemsPrintable : Json.Printable (.array (items.map Item.toJson)) := by
    apply Json.Printable.array
    rw [List.forall_mem_map]
    exact fun item _ => item.printable_toJson
  have printable : Json.Printable (.object
      (("Items", .array (items.map Item.toJson)) ::
        (next.map fun key => ("LastEvaluatedKey", key.toJson)).toList)) := by
    apply Json.Printable.object
    rw [List.forall_mem_cons]
    refine ⟨itemsPrintable, ?_⟩
    intro member isMember
    rw [Option.mem_toList, Option.map_eq_some_iff] at isMember
    obtain ⟨key, -, rfl⟩ := isMember
    exact key.printable_toJson
  refine .page (by decide) ?_ books
  cases next with
  | none =>
      exact .fields printable.readOctets?_octets_render rfl (.items itemsRead)
        .absent
  | some key =>
      obtain ⟨attributes, read⟩ := keyRead key rfl
      exact .fields printable.readOctets?_octets_render rfl (.items itemsRead)
        (.beyond read attributes)

/-- Two pages with a book each, and a reply for which nobody asks. -/
def twoPages : Network where
  replies := [pageReply [oneItem] (some oneItem), pageReply [coverItem] none,
    .broken]
  received := []
  clock := fun _ => ⟨0, 0⟩

/-- What is given for these replies. -/
theorem paging_twoPages :
    Paging none twoPages.replies
      ⟨[oneItem, coverItem], none, [none, some oneItem], [.broken]⟩ := by
  have first : (pageReply [oneItem] (some oneItem)).Carries
      [oneItem] (some oneItem) := by
    refine carries_pageReply (.cons rfl .nil) ?_ ?_
    · rintro key ⟨⟩
      exact ⟨by decide, rfl⟩
    · rw [List.forall_mem_singleton]
      exact ⟨_, rfl⟩
  have second : (pageReply [coverItem] none).Carries [coverItem] none := by
    refine carries_pageReply (.cons rfl .nil) (by simp) ?_
    rw [List.forall_mem_singleton]
    exact ⟨_, rfl⟩
  exact .more none first (.last (some oneItem) [.broken] second)

/-- In a region that may stand in headers, both pages are given to a scan with a
filter, and the reply behind them is left. -/
theorem drain_open_localClient :
    ∃ filter run records requests,
      Filter.ofParameters [("title", some "Dune")] = .ok filter ∧
        (localClient "us-west-1").GivesPages (.filtered filter) twoPages
          run records requests ∧
        records.map StoredRecord.imageKey = [none, some "covers/2.png"] ∧
        run.startKeys = [none, some oneItem] ∧ run.unused = [.broken] := by
  obtain ⟨filter, accepted⟩ : ∃ filter,
      Filter.ofParameters [("title", some "Dune")] = .ok filter := ⟨_, rfl⟩
  obtain ⟨run, records, requests, gives⟩ :=
    (drain_open (localClient "us-west-1") (.inl rfl) (by decide) (by decide)
      (.filtered filter) twoPages).1 (by decide)
  obtain rfl := gives.unique _ paging_twoPages
  cases gives.stores with
  | cons first others =>
      cases others with
      | cons second none =>
          cases none
          cases first
          cases second
          exact ⟨filter, _, _, requests, accepted, gives, rfl, rfl, rfl⟩

/-- One page with one book. -/
def onePage : Network where
  replies := [pageReply [oneItem] none]
  received := []
  clock := fun _ => ⟨0, 0⟩

/-- In a region with a line feed, no page is given. -/
theorem not_givesPages_of_line_feed :
    ofSettings (localSettings "us\nwest") = .ok (localClient "us\nwest") ∧
      (localClient "us\nwest").endpoint.scheme = "http" ∧
      isHeaderValue (localClient "us\nwest").credentials.accessKeyId ∧
      (localClient "us\nwest").credentials.sessionToken = none ∧
      ¬ ∃ run records requests,
        (localClient "us\nwest").GivesPages .all onePage run records requests := by
  refine ⟨ofSettings_localSettings _, rfl, by decide, rfl, ?_⟩
  have unreachable : ¬ (localClient "us\nwest").Reaches := by
    intro reaches
    exact absurd reaches.region (by decide)
  have carries : (pageReply [oneItem] none).Carries [oneItem] none := by
    refine carries_pageReply (.cons rfl .nil) (by simp) ?_
    rw [List.forall_mem_singleton]
    exact ⟨_, rfl⟩
  rintro ⟨run, records, requests, gives⟩
  have noFailure : run.failure = none := by
    rw [← gives.unique _ (.last none [] carries)]
  have drained := gives.drained
  rw [drain_of_not_reaches unreachable, noFailure] at drained
  cases records with
  | nil => cases drained
  | cons first others => cases drained

end StoreClient
end BookLookup
