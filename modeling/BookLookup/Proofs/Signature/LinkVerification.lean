import BookLookup.Signature.Authorization
import BookLookup.Proofs.Calendar
import BookLookup.Proofs.Signature.CanonicalQuery

/-!
# Signed links verify from the outside

A verifier knows the secret and sees the host, the path and the query of a
link. It reads the parameters of the query, puts all of them but the signature
back into a canonical query, and takes the day, the region and the service from
the end of the credential, whose beginning may hold any text. It writes down the
lines of the request and derives the key for itself, and shares nothing with the
signer but the digest, the code, the form of a query and how a host is trimmed.
The signature that it computes is the one in the link.
-/

namespace BookLookup
namespace Signature

open CanonicalQuery

/-! ## The verifier -/

/-- The parameters that a signature covers. -/
def signedPairs (pairs : List (String × String)) : List (String × String) :=
  pairs.filter (·.1 ≠ "X-Amz-Signature")

/-- The value under a name that has one value. -/
def only? (name : String) (pairs : List (String × String)) : Option String :=
  match valuesOf name pairs with
  | [value] => some value
  | _ => none

/-- The last four parts of a credential: the day, the region, the service and
the terminator. -/
def scopeParts? (credential : String) :
    Option (String × String × String × String) :=
  match (Split.pieces '/' credential.toList).reverse with
  | terminator :: service :: region :: date :: _ =>
      some (.ofList date, .ofList region, .ofList service, .ofList terminator)
  | _ => none

/-- The code that is left of a secret when each of some parts has been coded
under the code of the one before it. -/
def chainedKey (secret : String) (parts : List String) : List UInt8 :=
  parts.foldl (fun key part => Hmac.code key (Utf8.octets part))
    (Utf8.octets ("AWS4" ++ secret))

/-- The lines of the request for a path on a host with a query, if the host is
the only header that is signed. -/
def requestLines (host path query : String) : List String :=
  ["GET", path, query, "host:" ++ trimmed host, "", "host", "UNSIGNED-PAYLOAD"]

/-- The signature that a verifier computes from the parameters of a query. It
knows no header but the host, and one kind of scope. -/
def signatureOfPairs?
    (secret host path : String)
    (pairs : List (String × String)) : Option String := do
  let algorithm <- only? "X-Amz-Algorithm" pairs
  let credential <- only? "X-Amz-Credential" pairs
  let timeStamp <- only? "X-Amz-Date" pairs
  let signedHeaders <- only? "X-Amz-SignedHeaders" pairs
  let (date, region, service, terminator) <- scopeParts? credential
  if signedHeaders = "host" ∧ terminator = "aws4_request" then
    let request :=
      "\n".intercalate (requestLines host path (ofPairs (signedPairs pairs)))
    let text := "\n".intercalate [algorithm, timeStamp,
      "/".intercalate [date, region, service, "aws4_request"],
      Hex.text (Sha256.digest (Utf8.octets request))]
    some (Hex.text (Hmac.code
      (chainedKey secret [date, region, service, "aws4_request"])
      (Utf8.octets text)))
  else none

/-- What the query of a link says to a verifier. -/
structure Verifies
    (credentials : Credentials)
    (scope : Scope)
    (host path : String)
    (validity : Duration)
    (query : String)
    (pairs : List (String × String))
    (signature : String) : Prop where
  /-- The query is read. -/
  read : readPairs? query = some pairs
  /-- The algorithm stands in it once. -/
  algorithm : valuesOf "X-Amz-Algorithm" pairs = ["AWS4-HMAC-SHA256"]
  /-- So does the key identity with the scope. -/
  credential : valuesOf "X-Amz-Credential" pairs =
    [credentials.accessKeyId ++ "/" ++ scope.date ++ "/" ++ scope.region ++
      "/" ++ scope.service ++ "/aws4_request"]
  /-- So does the instant. -/
  date : valuesOf "X-Amz-Date" pairs = [scope.timeStamp]
  /-- So does the validity in seconds. -/
  expires : valuesOf "X-Amz-Expires" pairs = [Decimal.text validity.seconds]
  /-- So do the names of the signed headers. -/
  signedHeaders : valuesOf "X-Amz-SignedHeaders" pairs = ["host"]
  /-- The session token stands in it once if there is one, and otherwise no
  token does. -/
  token : valuesOf "X-Amz-Security-Token" pairs =
    credentials.sessionToken.toList
  /-- The signature stands in it once. -/
  signatureOnce : valuesOf "X-Amz-Signature" pairs = [signature]
  /-- It is the last parameter. -/
  signatureLast : pairs.getLast? = some ("X-Amz-Signature", signature)
  /-- The other parameters give the signed query back. -/
  signedQuery : ofPairs (signedPairs pairs) =
    ofPairs (linkPairs credentials scope validity)
  /-- The signature was written behind that query. -/
  written : query =
    ofPairs (signedPairs pairs) ++ "&X-Amz-Signature=" ++ signature
  /-- The verifier computes the signature. -/
  recomputed :
    signatureOfPairs? credentials.secretAccessKey host path pairs =
      some signature

/-! ## The parameters of a link -/

theorem lowerDigit_plain :
    ∀ value < 16, (Hex.lowerDigit value).toNat < 0x80 ∧
      PercentEncoding.isUnreserved
        (UInt8.ofNat (Hex.lowerDigit value).toNat) := by
  decide

theorem encode_hexText (octets : List UInt8) :
    PercentEncoding.encode .encoded (Hex.text octets) = Hex.text octets := by
  apply PercentEncoding.encode_of_unreserved
  intro symbol member
  obtain ⟨value, below, rfl⟩ := Hex.exists_digit_of_mem_text member
  exact lowerDigit_plain value below

/-- The query of a link is its parameters as they are written, the signature
behind the others. -/
theorem linkQuery_eq_written
    (credentials : Credentials)
    (scope : Scope)
    (host path : String)
    (validity : Duration) :
    linkQuery credentials scope host path validity =
      written (arranged (linkPairs credentials scope validity) ++
        [("X-Amz-Signature", ofRequest credentials scope
          (linkRequest host path
            (ofPairs (linkPairs credentials scope validity))))]) := by
  have name : PercentEncoding.encode .encoded "X-Amz-Signature" =
      "X-Amz-Signature" :=
    PercentEncoding.encode_of_unreserved .encoded
      (by simp [PercentEncoding.isUnreserved])
  have nonempty : arranged (linkPairs credentials scope validity) ≠ [] := by
    intro empty
    have none := (perm_arranged (linkPairs credentials scope validity)).symm
    rw [empty] at none
    exact absurd none.eq_nil (by simp [linkPairs])
  have digits (request : CanonicalRequest) :
      PercentEncoding.encode .encoded (ofRequest credentials scope request) =
        ofRequest credentials scope request := encode_hexText _
  have name_eq : "&X-Amz-Signature=" = "&" ++ ("X-Amz-Signature" ++ "=") := by
    decide
  rw [written_concat nonempty, ← ofPairs_eq_written, encodePair, name, digits,
    linkQuery, pairText, name_eq]
  simp only [String.append_assoc]

/-- No parameter of a link has the name of another, or that of the signature. -/
theorem distinct_linkPairs
    (credentials : Credentials)
    (scope : Scope)
    (validity : Duration) :
    ("X-Amz-Signature" ::
      (linkPairs credentials scope validity).map Prod.fst).Nodup := by
  cases token : credentials.sessionToken with
  | none => simp [linkPairs, token]
  | some text => simp [linkPairs, token]

/-- Under every name but that of the signature, the query of a link has the
value that was meant. -/
theorem valuesOf_arranged_concat
    (credentials : Credentials)
    (scope : Scope)
    (validity : Duration)
    (signature : String)
    {name : String}
    (differs : "X-Amz-Signature" ≠ name) :
    valuesOf name (arranged (linkPairs credentials scope validity) ++
        [("X-Amz-Signature", signature)]) =
      ((linkPairs credentials scope validity).lookup name).toList := by
  let meant := linkPairs credentials scope validity
  have distinct := (distinct_linkPairs credentials scope validity).of_cons
  have noLast : valuesOf name [("X-Amz-Signature", signature)] = [] :=
    valuesOf_of_not_mem (by simpa using Ne.symm differs)
  have reordered := perm_valuesOf_arranged name meant
  rw [valuesOf_eq_lookup distinct] at reordered
  rw [valuesOf_append, noLast, List.append_nil]
  cases value : meant.lookup name with
  | none =>
      rw [value] at reordered
      exact reordered.eq_nil
  | some text =>
      rw [value] at reordered
      exact List.perm_singleton.mp reordered

/-- The token is meant to stand in the query of a link if there is one. -/
theorem lookup_token_linkPairs
    (credentials : Credentials)
    (scope : Scope)
    (validity : Duration) :
    ((linkPairs credentials scope validity).lookup
        "X-Amz-Security-Token").toList =
      credentials.sessionToken.toList := by
  cases token : credentials.sessionToken with
  | none =>
      simp only [linkPairs, token]
      rfl
  | some text =>
      simp only [linkPairs, token]
      rfl

/-- The signature does not stand among the parameters that are signed. -/
theorem valuesOf_signature_arranged
    (credentials : Credentials)
    (scope : Scope)
    (validity : Duration) :
    valuesOf "X-Amz-Signature"
      (arranged (linkPairs credentials scope validity)) = [] := by
  have absent := (List.nodup_cons.mp
    (distinct_linkPairs credentials scope validity)).1
  have reordered := perm_valuesOf_arranged "X-Amz-Signature"
    (linkPairs credentials scope validity)
  rw [valuesOf_of_not_mem absent] at reordered
  exact reordered.eq_nil

/-- None of the parameters that are signed is the signature. -/
theorem signedPairs_arranged_linkPairs
    (credentials : Credentials)
    (scope : Scope)
    (validity : Duration) :
    signedPairs (arranged (linkPairs credentials scope validity)) =
      arranged (linkPairs credentials scope validity) := by
  have absent := (List.nodup_cons.mp
    (distinct_linkPairs credentials scope validity)).1
  apply List.filter_eq_self.mpr
  intro pair member
  apply decide_eq_true
  intro same
  have meant := (perm_arranged _).mem_iff.mp member
  exact absent (List.mem_map.mpr ⟨pair, meant, same⟩)

/-! ## The scope -/

/-- The scope is read from the end of a credential, if neither the region nor
the service holds a slash. -/
theorem scopeParts?_credential
    (credentials : Credentials)
    {scope : Scope}
    (regionPlain : '/' ∉ scope.region.toList)
    (servicePlain : '/' ∉ scope.service.toList) :
    scopeParts? (credential credentials scope) =
      some (scope.date, scope.region, scope.service, Scope.terminator) := by
  have datePlain : '/' ∉ scope.date.toList := by
    intro member
    rcases Instant.mem_dateStamp member with digit | sign
    · exact absurd digit (by decide)
    · exact absurd sign (by decide)
  have terminatorPlain : '/' ∉ Scope.terminator.toList := by decide
  have text : (credential credentials scope).toList =
      credentials.accessKeyId.toList ++ '/' :: (scope.date.toList ++
        '/' :: (scope.region.toList ++ '/' :: (scope.service.toList ++
          '/' :: Scope.terminator.toList))) := by
    simp [credential, Scope.credentialScope]
  have cut : Split.pieces '/' (credential credentials scope).toList =
      Split.pieces '/' credentials.accessKeyId.toList ++
        [scope.date.toList, scope.region.toList, scope.service.toList,
          Scope.terminator.toList] := by
    rw [text, Split.pieces_append_cons, Split.pieces_append_cons,
      Split.pieces_append_cons, Split.pieces_append_cons,
      Split.pieces_of_not_mem datePlain, Split.pieces_of_not_mem regionPlain,
      Split.pieces_of_not_mem servicePlain,
      Split.pieces_of_not_mem terminatorPlain]
    rfl
  rw [scopeParts?, cut, List.reverse_append]
  simp

/-! ## The signature -/

theorem signingKey_eq_chainedKey (scope : Scope) (secret : String) :
    scope.signingKey secret =
      chainedKey secret
        [scope.date, scope.region, scope.service, "aws4_request"] := rfl

/-- The request of a link has the lines that a verifier writes down. -/
theorem render_linkRequest (host path query : String) :
    (linkRequest host path query).render =
      "\n".intercalate (requestLines host path query) := by
  have headerLines : (linkRequest host path query).headers.entries.map
      CanonicalRequest.headerLine = ["host:" ++ trimmed host] := rfl
  have names : (linkRequest host path query).signedHeaders = "host" := by
    simp [CanonicalRequest.signedHeaders, linkRequest, TextMap.ofPairs,
      TextMap.keys, TextMap.insert, TextMap.empty, Entries.insert]
  rw [CanonicalRequest.render, CanonicalRequest.lines, headerLines, names]
  rfl

/-- The text that is signed names the algorithm, the instant, the scope with its
slashes and the digest of the request. -/
theorem stringToSign_eq (scope : Scope) (canonicalRequest : String) :
    stringToSign scope canonicalRequest =
      "\n".intercalate ["AWS4-HMAC-SHA256", scope.timeStamp,
        "/".intercalate [scope.date, scope.region, scope.service,
          "aws4_request"],
        Hex.text (Sha256.digest (Utf8.octets canonicalRequest))] := by
  have scopeText : "/".intercalate [scope.date, scope.region, scope.service,
      "aws4_request"] = scope.credentialScope := by
    simp [Scope.credentialScope, Scope.terminator, String.append_assoc]
  rw [stringToSign, scopeText, algorithm, digest]

/-- The signature of a link is the code, under the chained key, of the text that
a verifier writes down. -/
theorem ofRequest_linkRequest
    (credentials : Credentials)
    (scope : Scope)
    (host path query : String) :
    ofRequest credentials scope (linkRequest host path query) =
      Hex.text (Hmac.code
        (chainedKey credentials.secretAccessKey
          [scope.date, scope.region, scope.service, "aws4_request"])
        (Utf8.octets ("\n".intercalate ["AWS4-HMAC-SHA256", scope.timeStamp,
          "/".intercalate [scope.date, scope.region, scope.service,
            "aws4_request"],
          Hex.text (Sha256.digest (Utf8.octets ("\n".intercalate
            (requestLines host path query))))]))) := by
  rw [ofRequest, signingKey_eq_chainedKey, stringToSign_eq, render_linkRequest]

/-- The signature that is computed from parameters with the scope of a link is
that of the request with the other parameters. -/
theorem signatureOfPairs?_eq_some
    (credentials : Credentials)
    (scope : Scope)
    (host path : String)
    (regionPlain : '/' ∉ scope.region.toList)
    (servicePlain : '/' ∉ scope.service.toList)
    {pairs : List (String × String)}
    (algorithmOnce :
      valuesOf "X-Amz-Algorithm" pairs = ["AWS4-HMAC-SHA256"])
    (credentialOnce :
      valuesOf "X-Amz-Credential" pairs = [credential credentials scope])
    (dateOnce : valuesOf "X-Amz-Date" pairs = [scope.timeStamp])
    (headersOnce : valuesOf "X-Amz-SignedHeaders" pairs = ["host"]) :
    signatureOfPairs? credentials.secretAccessKey host path pairs =
      some (ofRequest credentials scope
        (linkRequest host path (ofPairs (signedPairs pairs)))) := by
  simp only [signatureOfPairs?, only?, algorithmOnce, credentialOnce, dateOnce,
    headersOnce, scopeParts?_credential credentials regionPlain servicePlain,
    Option.bind_eq_bind, Option.bind_some]
  rw [if_pos ⟨trivial, rfl⟩, ofRequest_linkRequest]

/-! ## Verification -/

/-- The query of every signed link is read by a verifier as it was meant, and
the verifier computes its signature. -/
theorem linkQuery_verifies
    (credentials : Credentials)
    (scope : Scope)
    (host path : String)
    (validity : Duration)
    (regionPlain : '/' ∉ scope.region.toList)
    (servicePlain : '/' ∉ scope.service.toList) :
    ∃ pairs signature,
      Verifies credentials scope host path validity
        (linkQuery credentials scope host path validity) pairs signature := by
  let meant := linkPairs credentials scope validity
  let signature :=
    ofRequest credentials scope (linkRequest host path (ofPairs meant))
  let pairs := arranged meant ++ [("X-Amz-Signature", signature)]
  have queryWritten : linkQuery credentials scope host path validity =
      written pairs := linkQuery_eq_written credentials scope host path validity
  have signedAgain : signedPairs pairs = arranged meant := by
    have kept := signedPairs_arranged_linkPairs credentials scope validity
    rw [signedPairs] at kept
    rw [signedPairs, List.filter_append, kept]
    simp [meant]
  have canonical : ofPairs (signedPairs pairs) = ofPairs meant := by
    rw [signedAgain]
    exact ofPairs_eq_of_perm (perm_arranged meant)
  have value {name : String} (differs : "X-Amz-Signature" ≠ name) :
      valuesOf name pairs = (meant.lookup name).toList :=
    valuesOf_arranged_concat credentials scope validity signature differs
  have algorithmOnce : valuesOf "X-Amz-Algorithm" pairs =
      ["AWS4-HMAC-SHA256"] := value (by decide)
  have credentialOnce : valuesOf "X-Amz-Credential" pairs =
      [credential credentials scope] := value (by decide)
  have dateOnce : valuesOf "X-Amz-Date" pairs = [scope.timeStamp] :=
    value (by decide)
  have headersOnce : valuesOf "X-Amz-SignedHeaders" pairs = ["host"] :=
    value (by decide)
  have signatureOnce : valuesOf "X-Amz-Signature" pairs = [signature] := by
    rw [valuesOf_append, valuesOf_signature_arranged, List.nil_append]
    rfl
  have recomputed : signatureOfPairs? credentials.secretAccessKey host path
      pairs = some signature := by
    rw [signatureOfPairs?_eq_some credentials scope host path regionPlain
      servicePlain algorithmOnce credentialOnce dateOnce headersOnce, canonical]
  exact ⟨pairs, signature, {
    read := by
      rw [queryWritten]
      exact readPairs?_written (by simp [pairs])
    algorithm := algorithmOnce
    credential := by
      rw [credentialOnce]
      simp [credential, Scope.credentialScope, Scope.terminator,
        String.append_assoc]
    date := dateOnce
    expires := value (by decide)
    signedHeaders := headersOnce
    token := by
      rw [value (by decide)]
      exact lookup_token_linkPairs credentials scope validity
    signatureOnce
    signatureLast := List.getLast?_concat
    signedQuery := canonical
    written := by
      rw [canonical]
      rfl
    recomputed }⟩

/-- A key identity with slashes, and a token with reserved and other
characters. -/
theorem linkQuery_verifies_with_token :
    ∃ pairs signature,
      Verifies ⟨"AK/ID+", "secret", some "to&ken=ü%/"⟩
        ⟨"us-east-1", "s3", ⟨0, 0⟩⟩ "localhost:9000" "/covers/a.png"
        (.ofSeconds 600)
        (linkQuery ⟨"AK/ID+", "secret", some "to&ken=ü%/"⟩
          ⟨"us-east-1", "s3", ⟨0, 0⟩⟩ "localhost:9000" "/covers/a.png"
          (.ofSeconds 600))
        pairs signature :=
  linkQuery_verifies ⟨"AK/ID+", "secret", some "to&ken=ü%/"⟩
    ⟨"us-east-1", "s3", ⟨0, 0⟩⟩ "localhost:9000" "/covers/a.png"
    (.ofSeconds 600) (by decide) (by decide)

end Signature
end BookLookup
