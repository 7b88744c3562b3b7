import BookLookup.Calendar
import BookLookup.Text.Hex
import BookLookup.Text.Utf8
import BookLookup.Digest.Hmac

/-!
# What a signature is bound to

A signature holds for one region, one service and one instant. Its key is
derived from the secret and from the day, the region and the service.
-/

namespace BookLookup

/-- The region, the service and the instant of a signature. -/
structure Scope where
  /-- The region of the service. -/
  region : String
  /-- The service. -/
  service : String
  /-- When the signature is made. -/
  time : Instant
  deriving DecidableEq, Repr

namespace Scope

/-- The last part of every scope. -/
def terminator : String := "aws4_request"

/-- The day of the scope. -/
def date (scope : Scope) : String :=
  scope.time.dateStamp

/-- The instant of the scope to the second. -/
def timeStamp (scope : Scope) : String :=
  scope.time.timeStamp

/-- The day, the region and the service as one text. -/
def credentialScope (scope : Scope) : String :=
  scope.date ++ "/" ++ scope.region ++ "/" ++ scope.service ++ "/" ++ terminator

/-- The key of the signatures of a day, a region and a service. -/
def keyOf (secret date region service : String) : List UInt8 :=
  let ofDay := Hmac.code (Utf8.octets ("AWS4" ++ secret)) (Utf8.octets date)
  let ofRegion := Hmac.code ofDay (Utf8.octets region)
  let ofService := Hmac.code ofRegion (Utf8.octets service)
  Hmac.code ofService (Utf8.octets terminator)

-- The derivation in the reference of the algorithm.
example :
    Hex.text (keyOf "wJalrXUtnFEMI/K7MDENG+bPxRfiCYEXAMPLEKEY" "20120215"
      "us-east-1" "iam") =
    "f4780e2d9f65fa895f9c67b32ce1baf0b0d8a43505a000a1a9e090d414db404d" := by
  decide +kernel

/-- The key of the signatures in a scope. -/
def signingKey (scope : Scope) (secret : String) : List UInt8 :=
  keyOf secret scope.date scope.region scope.service

end Scope
end BookLookup
