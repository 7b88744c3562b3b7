import BookLookup.Store.Client
import BookLookup.Proofs.Calendar
import BookLookup.Proofs.TextMap
import BookLookup.Proofs.Text.Utf8

/-!
# Requests that can be sent

Whether requests can be sent does not depend on the page that is asked for or on
the time: what a client writes into the headers of its own accord is printable,
so that the endpoint, the region, the key identity and the token decide.
-/

namespace BookLookup
namespace StoreClient

/-! ## Header values -/

@[simp] theorem isHeaderValue_append (front back : String) :
    isHeaderValue (front ++ back) =
      (isHeaderValue front && isHeaderValue back) := by
  simp [isHeaderValue, Utf8.octets, Utf8.encode_append]

theorem isHeaderOctet_of_printable :
    ∀ code < 0x7F, 0x20 ≤ code -> isHeaderOctet (UInt8.ofNat code) := by
  decide

/-- A text of printable ASCII characters may be the value of a header. -/
theorem isHeaderValue_of_printable
    {text : String}
    (printable : ∀ symbol ∈ text.toList,
      0x20 ≤ symbol.toNat ∧ symbol.toNat < 0x7F) :
    isHeaderValue text := by
  rw [isHeaderValue, Utf8.octets, List.all_eq_true]
  intro octet member
  rw [Utf8.encode, List.mem_flatMap] at member
  obtain ⟨symbol, inText, written⟩ := member
  obtain ⟨atLeast, below⟩ := printable symbol inText
  rw [Utf8.encodeChar_of_lt (by omega), List.mem_singleton] at written
  rw [written]
  exact isHeaderOctet_of_printable symbol.toNat below atLeast

/-- A digit is printable. -/
theorem printable_of_isDigit
    {symbol : Char}
    (digit : symbol.isDigit) :
    0x20 ≤ symbol.toNat ∧ symbol.toNat < 0x7F := by
  simp only [Char.isDigit, Bool.and_eq_true, decide_eq_true_eq,
    UInt32.le_iff_toNat_le] at digit
  change 48 ≤ symbol.toNat ∧ symbol.toNat ≤ 57 at digit
  omega

/-- A text of digits and of some printable marks may be the value of a
header. -/
theorem isHeaderValue_of_digits_or_marks
    {text : String}
    {marks : List Char}
    (printable : ∀ mark ∈ marks, 0x20 ≤ mark.toNat ∧ mark.toNat < 0x7F)
    (each : ∀ symbol ∈ text.toList, symbol.isDigit ∨ symbol ∈ marks) :
    isHeaderValue text := by
  apply isHeaderValue_of_printable
  intro symbol member
  rcases each symbol member with digit | mark
  · exact printable_of_isDigit digit
  · exact printable symbol mark

theorem isHeaderValue_dateStamp (instant : Instant) :
    isHeaderValue instant.dateStamp := by
  apply isHeaderValue_of_digits_or_marks _
    fun symbol member => Instant.mem_dateStamp member
  simp

theorem isHeaderValue_timeStamp (instant : Instant) :
    isHeaderValue instant.timeStamp := by
  apply isHeaderValue_of_digits_or_marks _
    fun symbol member => Instant.mem_timeStamp member
  simp

/-- Octets in digits may be a header value. -/
theorem isHeaderValue_hexText (octets : List UInt8) :
    isHeaderValue (Hex.text octets) := by
  have digits : ∀ value < 16, 0x20 ≤ (Hex.lowerDigit value).toNat ∧
      (Hex.lowerDigit value).toNat < 0x7F := by
    decide
  apply isHeaderValue_of_printable
  intro symbol member
  obtain ⟨value, below, rfl⟩ := Hex.exists_digit_of_mem_text member
  exact digits value below

/-- Header values with a header value between them are a header value. -/
theorem isHeaderValue_intercalate
    {separator : String}
    {parts : List String}
    (between : isHeaderValue separator)
    (each : ∀ part ∈ parts, isHeaderValue part) :
    isHeaderValue (separator.intercalate parts) := by
  induction parts with
  | nil => rw [String.intercalate_nil]; rfl
  | cons first others inductionHypothesis =>
      have firstAllowed := each first List.mem_cons_self
      have othersAllowed := inductionHypothesis fun part member =>
        each part (List.mem_cons_of_mem _ member)
      cases others with
      | nil => simpa using firstAllowed
      | cons second more =>
          rw [String.intercalate_cons_cons]
          simp [firstAllowed, between, othersAllowed]

/-! ## The headers of a request -/

/-- What decides whether the requests of a client can be sent. -/
structure Reaches (client : StoreClient) : Prop where
  /-- The endpoint is one of the web. -/
  scheme : client.endpoint.scheme = "http" ∨ client.endpoint.scheme = "https"
  /-- The region may stand in a header. -/
  region : isHeaderValue client.region
  /-- The key identity may stand in a header. -/
  accessKeyId : isHeaderValue client.credentials.accessKeyId
  /-- The token, if there is one, may stand in a header. -/
  sessionToken :
    ∀ token ∈ client.credentials.sessionToken, isHeaderValue token

instance (client : StoreClient) : Decidable client.Reaches :=
  decidable_of_iff
    ((client.endpoint.scheme = "http" ∨ client.endpoint.scheme = "https") ∧
      isHeaderValue client.region ∧
      isHeaderValue client.credentials.accessKeyId ∧
      ∀ token ∈ client.credentials.sessionToken, isHeaderValue token)
    ⟨fun ⟨scheme, region, accessKeyId, sessionToken⟩ =>
        ⟨scheme, region, accessKeyId, sessionToken⟩,
      fun reaches =>
        ⟨reaches.scheme, reaches.region, reaches.accessKeyId,
          reaches.sessionToken⟩⟩

/-- The names of the signed headers. -/
theorem mem_keys_signedHeaders
    {client : StoreClient}
    {time : Instant}
    {name : String}
    (member : name ∈ (client.signedHeaders time).keys) :
    name ∈ ["content-type", "host", "x-amz-date", "x-amz-target",
      "x-amz-security-token"] := by
  rw [signedHeaders, TextMap.mem_keys_ofPairs] at member
  cases token : client.credentials.sessionToken with
  | none =>
      rw [token] at member
      exact List.mem_append_left ["x-amz-security-token"] member
  | some text =>
      rw [token] at member
      exact member

/-- The names of the signed headers may be a header value. -/
theorem isHeaderValue_signedHeaders
    (client : StoreClient)
    (time : Instant)
    (body : String) :
    isHeaderValue (client.canonicalRequest time body).signedHeaders := by
  have names : ∀ name ∈ ["content-type", "host", "x-amz-date", "x-amz-target",
      "x-amz-security-token"], isHeaderValue name := by
    decide
  apply isHeaderValue_intercalate (by decide)
  intro name member
  exact names name (mem_keys_signedHeaders member)

/-- The authorization can be sent if the region and the key identity can. -/
theorem isHeaderValue_authorization_iff
    (client : StoreClient)
    (time : Instant)
    (body : String) :
    isHeaderValue (Signature.authorization client.credentials
        (client.scope time) (client.canonicalRequest time body)) ↔
      isHeaderValue client.region ∧
        isHeaderValue client.credentials.accessKeyId := by
  have constants :
      isHeaderValue Signature.algorithm ∧ isHeaderValue " Credential=" ∧
        isHeaderValue "/" ∧ isHeaderValue StoreClient.service ∧
        isHeaderValue Scope.terminator ∧ isHeaderValue ", SignedHeaders=" ∧
        isHeaderValue ", Signature=" := by
    decide
  obtain ⟨algorithm, credential, slash, serviceName, terminator, headers,
    signature⟩ := constants
  have digits (request : CanonicalRequest) : isHeaderValue
      (Signature.ofRequest client.credentials ⟨client.region, service, time⟩
        request) := by
    unfold Signature.ofRequest
    exact isHeaderValue_hexText _
  simp only [Signature.authorization, Signature.credential,
    Scope.credentialScope, Scope.date, scope, isHeaderValue_append, algorithm,
    credential, slash, serviceName, terminator, headers, signature, digits,
    isHeaderValue_dateStamp, isHeaderValue_signedHeaders, Bool.true_and,
    Bool.and_true, Bool.and_eq_true]
  exact And.comm

/-- A header of a request is found under its name. -/
theorem get?_headers_pageRequest
    (client : StoreClient)
    (mode : ScanMode)
    (startKey : Option Item)
    (time : Instant)
    (name : String) :
    (client.pageRequest mode startKey time).headers.get? name =
      if name = "authorization" then
        some (Signature.authorization client.credentials (client.scope time)
          (client.canonicalRequest time
            (client.pageBody mode startKey).render))
      else if name = "x-amz-security-token" ∧
          client.credentials.sessionToken.isSome then
        client.credentials.sessionToken
      else if name = "x-amz-target" then some scanTarget
      else if name = "x-amz-date" then some (client.scope time).timeStamp
      else if name = "host" then some client.host
      else if name = "content-type" then some contentType
      else none := by
  rw [pageRequest, TextMap.get?_insert, signedHeaders, TextMap.ofPairs]
  cases token : client.credentials.sessionToken with
  | none => simp
  | some text => simp

/-- Whether a request can be sent depends on the client alone. -/
theorem canSend_pageRequest_iff
    (client : StoreClient)
    (mode : ScanMode)
    (startKey : Option Item)
    (time : Instant) :
    client.canSend (client.pageRequest mode startKey time) ↔
      client.Reaches := by
  have headers := client.get?_headers_pageRequest mode startKey time
  have authorization := client.isHeaderValue_authorization_iff time
    (client.pageBody mode startKey).render
  rw [canSend, Bool.and_eq_true, Bool.or_eq_true, beq_iff_eq, beq_iff_eq,
    List.all_eq_true]
  constructor
  · rintro ⟨scheme, allowed⟩
    have carried {name value : String}
        (found : (client.pageRequest mode startKey time).headers.get? name =
          some value)
        (differs : name ≠ "host") : isHeaderValue value := by
      have either := allowed (name, value) (TextMap.mem_entries_iff.mpr found)
      simpa [differs] using either
    obtain ⟨region, accessKeyId⟩ := authorization.mp
      (carried ((headers "authorization").trans (if_pos rfl)) (by decide))
    refine ⟨scheme, region, accessKeyId, ?_⟩
    intro token present
    rw [Option.mem_def] at present
    refine carried ((headers "x-amz-security-token").trans ?_) (by decide)
    simp [present]
  · intro reaches
    refine ⟨reaches.scheme, ?_⟩
    rintro ⟨name, value⟩ member
    have found := TextMap.mem_entries_iff.mp member
    rw [headers] at found
    rw [Bool.or_eq_true, beq_iff_eq]
    split at found
    · rw [← Option.some.inj found]
      exact .inr (authorization.mpr ⟨reaches.region, reaches.accessKeyId⟩)
    · split at found
      · exact .inr (reaches.sessionToken value found)
      · split at found
        · rw [← Option.some.inj found]
          exact .inr (by decide)
        · split at found
          · rw [← Option.some.inj found]
            exact .inr (isHeaderValue_timeStamp time)
          · split at found
            · rename_i isHost
              exact .inl isHost
            · split at found
              · rw [← Option.some.inj found]
                exact .inr (by decide)
              · cases found

end StoreClient
end BookLookup
