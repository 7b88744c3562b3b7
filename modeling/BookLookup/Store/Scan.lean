import BookLookup.Store.Client

/-!
# Scans

A scan gives the books of the store one by one. It asks for a page only when
all books of the pages before have been given, and for the next page from where
the last one ended. A failure is given once, and after a failure or the last
book the scan gives nothing more.

The network is what remains of the replies to come and a record of the requests
that have been received. A request for which no reply is left reaches nobody,
and its connection fails.
-/

namespace BookLookup

/-- What stands between a client and the store. -/
structure Network where
  /-- The replies to come, in the order of the requests. -/
  replies : List Reply
  /-- The requests that have been received, in order. -/
  received : List SentRequest
  /-- When a request is made, by how many have been received before it. -/
  clock : Nat -> Instant

namespace Network

/-- The time at which the next request is made. -/
def now (network : Network) : Instant :=
  network.clock network.received.length

/-- The network after it has received a request. -/
def receive
    (network : Network)
    (request : SentRequest)
    (later : List Reply) : Network :=
  { network with replies := later, received := network.received ++ [request] }

end Network

/-- How far a scan has come. -/
inductive Cursor where
  /-- No page has been asked for. -/
  | beginning
  /-- The next page begins beyond a key. -/
  | beyond (key : Item)
  /-- There is no page to ask for. -/
  | exhausted

/-- The key after which the page at a cursor begins. -/
def Cursor.startKey? : Cursor -> Option Item
  | beyond key => some key
  | _ => none

/-- The cursor after a page. -/
def Cursor.ofNext : Option Item -> Cursor
  | some key => beyond key
  | none => exhausted

/-- A scan that has been opened. -/
structure Scan where
  /-- Which books it gives. -/
  mode : ScanMode
  /-- How far it has come. -/
  cursor : Cursor
  /-- The books received and not yet given. -/
  ready : List StoredRecord

/-- A scan of which nothing has been asked. -/
def Scan.open (mode : ScanMode) : Scan :=
  ⟨mode, .beginning, []⟩

/-- A scan that gives nothing more. -/
def Scan.closed (scan : Scan) : Scan :=
  { scan with cursor := .exhausted, ready := [] }

/-- What a scan gives. -/
inductive Pulled where
  | record (record : StoredRecord)
  | failed (fault : StoreFailure)
  | finished

/-- What a scan gives, and how it and the network go on. -/
structure Pull where
  /-- What the scan gives. -/
  result : Pulled
  /-- The scan afterwards. -/
  scan : Scan
  /-- The network afterwards. -/
  network : Network

namespace StoreClient

/-- The request for the page at the cursor of a scan. -/
def scanRequest
    (client : StoreClient)
    (scan : Scan)
    (network : Network) : SentRequest :=
  client.pageRequest scan.mode scan.cursor.startKey? network.now

/-- Ask for pages until one has a book, fails or is the last. Each request uses
up one of the replies to come. -/
def fetch
    (client : StoreClient)
    (scan : Scan)
    (network : Network) : List Reply -> Pull
  | [] => ⟨.failed .transport, scan.closed, network⟩
  | reply :: later =>
      let request := client.scanRequest scan network
      if client.canSend request then
        let after := network.receive request later
        match Page.ofReply reply with
        | .error fault => ⟨.failed fault, scan.closed, after⟩
        | .ok page =>
            match page.records, page.next with
            | first :: others, next =>
                ⟨.record first,
                  { scan with cursor := .ofNext next, ready := others }, after⟩
            | [], some key =>
                client.fetch { scan with cursor := .beyond key } after later
            | [], none => ⟨.finished, scan.closed, after⟩
      else ⟨.failed .transport, scan.closed, network⟩

/-- The next thing that a scan gives. -/
def pull (client : StoreClient) (scan : Scan) (network : Network) : Pull :=
  match scan.ready, scan.cursor with
  | first :: others, _ =>
      ⟨.record first, { scan with ready := others }, network⟩
  | [], .exhausted => ⟨.finished, scan, network⟩
  | [], _ => client.fetch scan network network.replies

@[simp] theorem pull_ready
    (client : StoreClient)
    (mode : ScanMode)
    (cursor : Cursor)
    (first : StoredRecord)
    (others : List StoredRecord)
    (network : Network) :
    client.pull ⟨mode, cursor, first :: others⟩ network =
      ⟨.record first, ⟨mode, cursor, others⟩, network⟩ := rfl

@[simp] theorem pull_closed
    (client : StoreClient)
    (scan : Scan)
    (network : Network) :
    client.pull scan.closed network = ⟨.finished, scan.closed, network⟩ := rfl

end StoreClient
end BookLookup
