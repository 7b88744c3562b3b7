/-!
# Failures of the record store
-/

namespace BookLookup

/-- Why a scan of the store fails. -/
inductive StoreFailure where
  | timeout
  /-- The request could not be sent or the connection broke. -/
  | transport
  /-- The store refused the scan, with a kind and a text. -/
  | rejected (status : Nat) (kind message : String)
  /-- The answer of the store is no page. -/
  | undecodable
  /-- The answer of the store is a page that holds something wrong. -/
  | invalidResponse (detail : String)
  /-- The request cannot be made. -/
  | invalidRequest (detail : String)
  deriving DecidableEq, Repr

/-- The text of a failure. -/
def StoreFailure.message : StoreFailure -> String
  | timeout => "store request timed out"
  | transport => "store HTTP error: the connection failed"
  | rejected _ kind message =>
      "store rejected the scan (" ++ kind ++ "): " ++ message
  | undecodable => "store returned an invalid response: the body is not a page"
  | invalidResponse detail => "store returned an invalid response: " ++ detail
  | invalidRequest detail => "invalid store request: " ++ detail

end BookLookup
