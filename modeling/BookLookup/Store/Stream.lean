import BookLookup.Duration
import BookLookup.Store.Scan

/-!
# All that a scan gives

A stream is what a scan gives when it is followed to its end: some books, and
then the end, a failure, or nothing for ever. A stream also tells how long its
reader has to wait in all.

A store opens scans and changes with every scan. The store behind a client
gives the pages one after the other.
-/

namespace BookLookup

/-- How a stream ends. -/
inductive Ending where
  | finished
  | failed (fault : StoreFailure)
  /-- Nothing comes any more, not even an end. -/
  | stalled
  deriving DecidableEq, Repr

/-- All that a scan gives. -/
structure BookStream where
  /-- The books in order. -/
  records : List StoredRecord
  /-- How the stream ends. -/
  ending : Ending
  /-- How long the reader waits for the stream. -/
  wait : Duration
  deriving DecidableEq, Repr

/-- Opens scans, given what remains to come. -/
abbrev BookStore (σ : Type) := ScanMode -> σ -> BookStream × σ

namespace StoreClient

/-- How long the reader waits for a reply that fails. -/
def waitFor (client : StoreClient) : StoreFailure -> Duration
  | .timeout => client.timeout
  | _ => ⟨0⟩

/-- The pages from a cursor on, one after the other, and the network after
them. Each request uses up one of the replies to come. -/
def pages
    (client : StoreClient)
    (mode : ScanMode)
    (cursor : Cursor)
    (network : Network) : List Reply -> BookStream × Network
  | [] => (⟨[], .failed .transport, ⟨0⟩⟩, network)
  | reply :: later =>
      let request := client.scanRequest ⟨mode, cursor, []⟩ network
      if client.canSend request then
        let after := network.receive request later
        match Page.ofReply reply with
        | .error fault =>
            (⟨[], .failed fault, client.waitFor fault⟩, after)
        | .ok page =>
            match page.next with
            | none => (⟨page.records, .finished, ⟨0⟩⟩, after)
            | some key =>
                let (rest, last) := client.pages mode (.beyond key) after later
                (⟨page.records ++ rest.records, rest.ending, rest.wait⟩, last)
      else (⟨[], .failed .transport, ⟨0⟩⟩, network)

/-- The store behind a client. -/
def store (client : StoreClient) : BookStore Network :=
  fun mode network => client.pages mode .beginning network network.replies

end StoreClient
end BookLookup
