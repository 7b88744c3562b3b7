import BookLookup.Duration
import BookLookup.Signature.CanonicalQuery
import BookLookup.Signature.CanonicalRequest
import BookLookup.Signature.Credentials
import BookLookup.Signature.Scope

/-!
# Signatures of requests

A signature is the code, under the key of the scope, of a text that names the
algorithm, the instant, the scope and the digest of the canonical request. It
travels in the authorization header, or in the query of a link that anybody
may follow for a while.
-/

namespace BookLookup
namespace Signature

/-- The name of the algorithm. -/
def algorithm : String := "AWS4-HMAC-SHA256"

/-- What stands for the digest of a payload that is not signed. -/
def unsignedPayload : String := "UNSIGNED-PAYLOAD"

/-- The digest of a text, in digits. -/
def digest (text : String) : String :=
  Hex.text (Sha256.digest (Utf8.octets text))

/-- The text that is signed. -/
def stringToSign (scope : Scope) (canonicalRequest : String) : String :=
  "\n".intercalate [algorithm, scope.timeStamp, scope.credentialScope,
    digest canonicalRequest]

/-- The signature of a request. -/
def ofRequest
    (credentials : Credentials)
    (scope : Scope)
    (request : CanonicalRequest) : String :=
  Hex.text (Hmac.code (scope.signingKey credentials.secretAccessKey)
    (Utf8.octets (stringToSign scope request.render)))

/-- The key identity and the scope of a signature. -/
def credential (credentials : Credentials) (scope : Scope) : String :=
  credentials.accessKeyId ++ "/" ++ scope.credentialScope

/-- The authorization header of a signed request. -/
def authorization
    (credentials : Credentials)
    (scope : Scope)
    (request : CanonicalRequest) : String :=
  algorithm ++ " Credential=" ++ credential credentials scope ++
    ", SignedHeaders=" ++ request.signedHeaders ++
    ", Signature=" ++ ofRequest credentials scope request

-- The plain request in the reference of the algorithm, made on 30 August 2015.
-- Its key and its string to sign are computed apart.
example :
    authorization
      ⟨"AKIDEXAMPLE", "wJalrXUtnFEMI/K7MDENG+bPxRfiCYEXAMPLEKEY", none⟩
      ⟨"us-east-1", "service", ⟨1440938160, 0⟩⟩
      { method := "GET"
        path := "/"
        query := ""
        headers := .ofPairs [("host", "example.amazonaws.com"),
          ("x-amz-date", "20150830T123600Z")]
        payloadHash := digest "" } =
    "AWS4-HMAC-SHA256 " ++
      "Credential=AKIDEXAMPLE/20150830/us-east-1/service/aws4_request, " ++
      "SignedHeaders=host;x-amz-date, Signature=" ++
      "5fa00fa31553b73ebf1942676e86291e8372ff2a2260956d9b8aae1d763fbf31" := by
  have key :
      Scope.signingKey ⟨"us-east-1", "service", ⟨1440938160, 0⟩⟩
        "wJalrXUtnFEMI/K7MDENG+bPxRfiCYEXAMPLEKEY" =
      [0x93, 0x81, 0x27, 0xb5, 0x33, 0x68, 0x10, 0xdd,
       0xb6, 0xa5, 0xd6, 0xaf, 0x44, 0x5f, 0xca, 0xc9,
       0xe3, 0x71, 0xf9, 0xed, 0x41, 0x8e, 0xd3, 0x86,
       0xb0, 0x22, 0xae, 0xd8, 0x29, 0x01, 0xbe, 0x75] := by
    decide +kernel
  have signed :
      stringToSign ⟨"us-east-1", "service", ⟨1440938160, 0⟩⟩
        (CanonicalRequest.render
          { method := "GET"
            path := "/"
            query := ""
            headers := .ofPairs [("host", "example.amazonaws.com"),
              ("x-amz-date", "20150830T123600Z")]
            payloadHash := digest "" }) =
      "AWS4-HMAC-SHA256\n20150830T123600Z\n" ++
        "20150830/us-east-1/service/aws4_request\n" ++
        "bb579772317eb040ac9ed261061d46c1f17a8133879d6129b6e1c25292927e63" := by
    decide +kernel
  rw [authorization, ofRequest, key, signed]
  decide +kernel

/-- The parameters of a signed link, without its signature. -/
def linkPairs
    (credentials : Credentials)
    (scope : Scope)
    (validity : Duration) : List (String × String) :=
  [("X-Amz-Algorithm", algorithm),
    ("X-Amz-Credential", credential credentials scope),
    ("X-Amz-Date", scope.timeStamp),
    ("X-Amz-Expires", Decimal.text validity.seconds),
    ("X-Amz-SignedHeaders", "host")] ++
    (credentials.sessionToken.map fun token =>
      ("X-Amz-Security-Token", token)).toList

/-- The request that a signed link stands for. Only the host is signed of its
headers. -/
def linkRequest (host path query : String) : CanonicalRequest where
  method := "GET"
  path := path
  query := query
  headers := TextMap.ofPairs [("host", host)]
  payloadHash := unsignedPayload

/-- The query of a signed link to a path on a host. -/
def linkQuery
    (credentials : Credentials)
    (scope : Scope)
    (host path : String)
    (validity : Duration) : String :=
  let query := CanonicalQuery.ofPairs (linkPairs credentials scope validity)
  query ++ "&X-Amz-Signature=" ++
    ofRequest credentials scope (linkRequest host path query)

end Signature
end BookLookup
