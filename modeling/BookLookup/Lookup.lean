import BookLookup.Observation
import BookLookup.Listing
import BookLookup.Store.Stream

/-!
# Looking up books

A lookup compiles its parameters into a filter, scans the store and lists what
it gives. Without parameters all books are scanned. Faults in the parameters
are reported before the store is asked for anything. The whole lookup has a
time limit: if the store has not come to an end by then, the lookup fails. A
lookup lists all books or none.
-/

namespace BookLookup

/-- Why a lookup fails. -/
inductive LookupFailure where
  | filter (fault : FilterFault)
  | store (fault : StoreFailure)
  | signing (fault : LinkFault)
  | timeout (limit : Duration)
  deriving DecidableEq, Repr

/-- The text of a failure. -/
def LookupFailure.message : LookupFailure -> String
  | filter fault => fault.message
  | store fault => fault.message
  | signing fault => fault.message
  | timeout limit => "book lookup exceeded " ++ limit.text

/-- What became of a lookup. -/
structure Lookup where
  /-- The scan that was asked for, if any. -/
  scan : Option ScanMode
  /-- The calls of the signer in order. -/
  calls : List SigningCall
  /-- The listed books in order, unless the lookup failed. -/
  books : Except LookupFailure (List ListedRecord)

namespace Lookup

/-- The scan that some parameters ask for. -/
def modeOf (parameters : List Parameter) : Except FilterFault ScanMode :=
  if parameters.isEmpty then .ok .all
  else (Filter.ofParameters parameters).map .filtered

/-- What is listed of a stream within a time limit, by a signer that has been
asked for some keys. -/
def ofStream
    (signer : Signer)
    (asked : List String)
    (limit : Duration)
    (mode : ScanMode)
    (stream : BookStream) : Lookup :=
  if limit.nanoseconds < stream.wait.nanoseconds then
    ⟨some mode, [], .error (.timeout limit)⟩
  else
    match stream.ending with
    | .stalled => ⟨some mode, [], .error (.timeout limit)⟩
    | .failed fault => ⟨some mode, [], .error (.store fault)⟩
    | .finished =>
        let listing := Listing.ofRecords signer asked stream.records
        ⟨some mode, listing.calls, listing.books.mapError .signing⟩

/-- Look up books in a store, and the store afterwards. -/
def run
    {σ : Type}
    (store : BookStore σ)
    (signer : Signer)
    (asked : List String)
    (limit : Duration)
    (parameters : List Parameter)
    (state : σ) : Lookup × σ :=
  match modeOf parameters with
  | .error fault => (⟨none, [], .error (.filter fault)⟩, state)
  | .ok mode =>
      let (stream, after) := store mode state
      (ofStream signer asked limit mode stream, after)

/-- Refused parameters are reported before the store is asked. -/
theorem run_of_refused
    {σ : Type}
    (store : BookStore σ)
    (signer : Signer)
    (asked : List String)
    (limit : Duration)
    {parameters : List Parameter}
    {fault : FilterFault}
    (state : σ)
    (refused : modeOf parameters = .error fault) :
    run store signer asked limit parameters state =
      (⟨none, [], .error (.filter fault)⟩, state) := by
  simp [run, refused]

/-- The keys for which the signer was asked, in order. -/
def keys (lookup : Lookup) : List String :=
  lookup.calls.map SigningCall.key

/-- The name of the mode of a scan. -/
def modeName : ScanMode -> String
  | .all => "all"
  | .filtered _ => "filtered"

/-- The name of the outcome of a scan. -/
def outcomeName : Except LookupFailure (List ListedRecord) -> String
  | .ok _ => "ok"
  | .error (.store _) => "error"
  | .error (.timeout _) => "timeout"
  | .error _ => "aborted"

/-- The event of a call of the signer. -/
def callObservation (call : SigningCall) : Observation :=
  .signedUrl (if call.succeeded then "ok" else "error")

/-- The events of a lookup in order. A refused filter is one event; otherwise
every call of the signer is one and the scan is one. -/
def observations (lookup : Lookup) : List Observation :=
  match lookup.scan with
  | some mode =>
      lookup.calls.map callObservation ++
        [.scan (modeName mode) (outcomeName lookup.books)]
  | none =>
      match lookup.books with
      | .error (.filter fault) => [.rejection fault.reason]
      | _ => []

end Lookup
end BookLookup
