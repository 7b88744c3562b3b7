import BookLookup.Json.Printer
import BookLookup.Lookup

/-!
# Failures as answers

A failure of a lookup is answered with a status and an object that names a
code, a text and whether it is worth trying again. Of the faults of the
parameters and of a refused scan the caller learns the text; of every other
failure only the kind.
-/

namespace BookLookup

/-- The answer for a failure. -/
structure Envelope where
  /-- The status. -/
  status : Nat
  /-- The code of the kind of failure. -/
  code : String
  /-- The text for the caller. -/
  message : String
  /-- Whether it is worth trying again. -/
  retryable : Bool
  deriving DecidableEq, Repr

namespace Envelope

/-- The code of a fault of the parameters. -/
def filterCode : FilterFault -> String
  | .unknownField _ => "ERR_UNKNOWN_FIELD"
  | .duplicateField _ => "ERR_DUPLICATE_FIELD"
  | .missingValue _ => "ERR_MISSING_VALUE"
  | .empty => "ERR_INVALID_PARAMS"

/-- The answer for a failure of the store. -/
def ofStoreFailure : StoreFailure -> Envelope
  | .rejected _ kind message =>
      ⟨502, "ERR_STORE_REJECTED",
        "record store rejected the scan (" ++ kind ++ "): " ++ message,
        false⟩
  | .timeout => ⟨504, "ERR_STORE_TIMEOUT", "record store timeout", true⟩
  | _ => ⟨503, "ERR_STORE_UNAVAILABLE", "record store unavailable", true⟩

/-- The answer for a failure of a lookup. -/
def ofError : LookupFailure -> Envelope
  | .filter fault => ⟨400, filterCode fault, fault.message, false⟩
  | .store fault => ofStoreFailure fault
  | .signing _ =>
      ⟨500, "ERR_SIGNING_FAILED", "failed to sign asset url", false⟩
  | .timeout _ =>
      ⟨504, "ERR_REQUEST_TIMEOUT", "book lookup timed out", true⟩

/-- The body of an answer. -/
def toJson (envelope : Envelope) : Json :=
  .object [("code", .string envelope.code),
    ("message", .string envelope.message),
    ("retryable", .bool envelope.retryable)]

end Envelope
end BookLookup
