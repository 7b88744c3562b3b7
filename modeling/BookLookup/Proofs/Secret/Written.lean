import BookLookup.Proofs.Secret.Blanked
import BookLookup.Signature.Authorization

/-!
# Where signatures are written

A signature is written behind a marker in the authorization header of a request
and behind another one in the query of a link. With another secret, nothing else
is written differently.
-/

namespace BookLookup

/-- Credentials with another secret. -/
def Credentials.withSecret
    (credentials : Credentials)
    (secret : String) : Credentials :=
  { credentials with secretAccessKey := secret }

/-! ## Signatures -/

/-- A signature has its digits, whatever is signed and with what secret. -/
theorem Signature.isSignature_ofRequest
    (credentials : Credentials)
    (scope : Scope)
    (request : CanonicalRequest) :
    IsSignature (ofRequest credentials scope request).toList where
  length := by
    rw [ofRequest, Hex.text, String.toList_ofList, Hex.length_lower,
      Hmac.length_code]
    rfl
  each := by
    intro symbol member
    exact Hex.exists_digit_of_mem_text member

namespace Marker

/-- The marker of a signature in a header. -/
def inHeader : Marker :=
  ⟨'S', "ignature=".toList, by decide, by decide⟩

/-- The marker of a signature in a link. -/
def inLink : Marker :=
  ⟨'X', "-Amz-Signature=".toList, by decide, by decide⟩

/-- Texts that end in a signature each are alike. -/
theorem alike_of_signatures
    (marker : Marker)
    (front : List Char)
    {digits otherDigits : List Char}
    (signature : IsSignature digits)
    (otherSignature : IsSignature otherDigits) :
    marker.Alike (front ++ (marker.chars ++ digits))
      (front ++ (marker.chars ++ otherDigits)) := by
  have alike : marker.Alike (front ++ (marker.chars ++ digits ++ []))
      (front ++ (marker.chars ++ otherDigits ++ [])) :=
    .signed front signature otherSignature (.same [])
  rwa [List.append_nil, List.append_nil] at alike

end Marker

namespace Signature

/-- What stands in an authorization header in front of its marker. -/
def authorizationFront
    (credentials : Credentials)
    (scope : Scope)
    (request : CanonicalRequest) : List Char :=
  (algorithm ++ " Credential=" ++ credential credentials scope ++
    ", SignedHeaders=" ++ request.signedHeaders ++ ", ").toList

/-- An authorization header ends in its marker and its signature. -/
theorem toList_authorization
    (credentials : Credentials)
    (scope : Scope)
    (request : CanonicalRequest) :
    (authorization credentials scope request).toList =
      authorizationFront credentials scope request ++
        (Marker.inHeader.chars ++
          (ofRequest credentials scope request).toList) := by
  simp [authorization, authorizationFront, Marker.inHeader, Marker.chars]

/-- With another secret, it differs in its signature alone. -/
theorem alike_authorization
    (credentials : Credentials)
    (secret : String)
    (scope : Scope)
    (request : CanonicalRequest) :
    Marker.inHeader.Alike
      (authorization credentials scope request).toList
      (authorization (credentials.withSecret secret) scope request).toList := by
  rw [toList_authorization, toList_authorization]
  exact Marker.inHeader.alike_of_signatures
    (authorizationFront credentials scope request)
    (isSignature_ofRequest credentials scope request)
    (isSignature_ofRequest _ scope request)

/-- What is signed of a link. -/
def signedOfLink
    (credentials : Credentials)
    (scope : Scope)
    (host path : String)
    (validity : Duration) : CanonicalRequest :=
  linkRequest host path
    (CanonicalQuery.ofPairs (linkPairs credentials scope validity))

/-- The query of a link ends in its marker and its signature. -/
theorem toList_linkQuery
    (credentials : Credentials)
    (scope : Scope)
    (host path : String)
    (validity : Duration) :
    (linkQuery credentials scope host path validity).toList =
      (CanonicalQuery.ofPairs (linkPairs credentials scope validity)).toList ++
        ['&'] ++ (Marker.inLink.chars ++ (ofRequest credentials scope
          (signedOfLink credentials scope host path validity)).toList) := by
  simp [linkQuery, signedOfLink, Marker.inLink, Marker.chars]

/-- With another secret, it differs in its signature alone. -/
theorem alike_linkQuery
    (credentials : Credentials)
    (secret : String)
    (scope : Scope)
    (host path : String)
    (validity : Duration) :
    Marker.inLink.Alike
      (linkQuery credentials scope host path validity).toList
      (linkQuery (credentials.withSecret secret) scope host path
        validity).toList := by
  have samePairs : linkPairs (credentials.withSecret secret) scope validity =
      linkPairs credentials scope validity := rfl
  rw [toList_linkQuery, toList_linkQuery, samePairs]
  exact Marker.inLink.alike_of_signatures _
    (isSignature_ofRequest credentials scope _)
    (isSignature_ofRequest _ scope _)

end Signature

end BookLookup
