import BookLookup.Duration

/-!
# What is observed of the work

Four kinds of events are counted: answered requests, scans of the store,
attempts to sign a link, and refused filters.
-/

namespace BookLookup

/-- One event. -/
inductive Observation where
  /-- A request on a route was answered with a status after some time. -/
  | request (route method : String) (status : Nat) (elapsed : Duration)
  | scan (mode outcome : String)
  | signedUrl (outcome : String)
  | rejection (reason : String)
  deriving DecidableEq, Repr

end BookLookup
