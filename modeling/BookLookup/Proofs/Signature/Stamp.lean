import BookLookup.Proofs.Calendar.DateTime
import BookLookup.Proofs.Store.Sending

/-!
# The day of a signature

Requests and links carry the instant of their signature to the second, and the
signature is made with its day: the scope that is signed names the day, and the
key is derived from it. The day is written on its own, but it is always the
front of the stamp that the verifier is sent.
-/

namespace BookLookup

namespace Scope

/-- The day that stands in front of a stamp. -/
def dayOf (stamp : String) : String :=
  String.ofList (stamp.toList.take 8)

/-- The signatures in a scope are made with the day of a stamp. -/
structure BoundTo (scope : Scope) (stamp : String) : Prop where
  /-- The scope that is signed names the day. -/
  named : scope.credentialScope =
    dayOf stamp ++ "/" ++ scope.region ++ "/" ++ scope.service ++
      "/aws4_request"
  /-- The key is derived from the day. -/
  keyed : ∀ secret, scope.signingKey secret =
    keyOf secret (dayOf stamp) scope.region scope.service
  /-- The stamp is signed with the scope, under the key. -/
  signed : ∀ credentials request, Signature.ofRequest credentials scope request =
    Hex.text (Hmac.code
      (keyOf credentials.secretAccessKey (dayOf stamp) scope.region
        scope.service)
      (Utf8.octets ("\n".intercalate [Signature.algorithm, stamp,
        dayOf stamp ++ "/" ++ scope.region ++ "/" ++ scope.service ++
          "/aws4_request",
        Signature.digest request.render])))

/-- A scope whose day is that of its stamp is bound to the stamp. -/
theorem boundTo_timeStamp
    {scope : Scope}
    (sameDay : scope.date = dayOf scope.timeStamp) :
    scope.BoundTo scope.timeStamp := by
  have named : scope.credentialScope =
      dayOf scope.timeStamp ++ "/" ++ scope.region ++ "/" ++ scope.service ++
        "/aws4_request" := by
    rw [credentialScope, sameDay, terminator, String.append_assoc]
    rfl
  have keyed (secret : String) : scope.signingKey secret =
      keyOf secret (dayOf scope.timeStamp) scope.region scope.service := by
    rw [signingKey, sameDay]
  refine ⟨named, keyed, fun credentials request => ?_⟩
  rw [Signature.ofRequest, Signature.stringToSign, keyed, named]

end Scope

namespace Instant

/-- The stamp of an instant of the years from zero to 9999 has sixteen
characters that are read back as a date of the calendar and a time of day, which
are the instant to the second. Requests and links carry it, and are signed with
the day in front of it. A later second has a later stamp. -/
theorem stamps_are_exact_and_ordered
    {instant : Instant}
    (isOrdinary : instant.IsOrdinary) :
    (instant.timeStamp.length = 16 ∧
      ∃ time, DateTime.ofStamp? instant.timeStamp.toList = some time ∧
        time.IsValid ∧ time.seconds = instant.seconds) ∧
    (instant.dateStamp = Scope.dayOf instant.timeStamp ∧
      (∀ scope : Scope, scope.time = instant ->
        scope.BoundTo instant.timeStamp) ∧
      (∀ client mode startKey,
        (StoreClient.pageRequest client mode startKey instant).headers.get?
          "x-amz-date" = some instant.timeStamp) ∧
      ∀ credentials region service validity,
        ("X-Amz-Date", instant.timeStamp) ∈ Signature.linkPairs credentials
          ⟨region, service, instant⟩ validity) ∧
    ∀ later : Instant, later.IsOrdinary -> instant.seconds < later.seconds ->
      instant.timeStamp < later.timeStamp := by
  have fits := isOrdinary.fits_dateTime
  refine ⟨⟨?_, instant.dateTime, ?_, isOrdinary.isValid_dateTime,
      isOrdinary.seconds_dateTime⟩,
    ⟨isOrdinary.dateStamp_eq, ?_, ?_, ?_⟩,
    fun later laterOrdinary => isOrdinary.timeStamp_lt laterOrdinary⟩
  · rw [← String.length_toList, isOrdinary.toList_timeStamp]
    exact fits.length_stamp
  · rw [isOrdinary.toList_timeStamp]
    exact fits.ofStamp?_stamp
  · rintro scope rfl
    exact Scope.boundTo_timeStamp isOrdinary.dateStamp_eq
  · intro client mode startKey
    rw [StoreClient.get?_headers_pageRequest]
    simp [StoreClient.scope, Scope.timeStamp]
  · intro credentials region service validity
    simp [Signature.linkPairs, Scope.timeStamp]

/-- The last second of 1969, with a part of the next, and a leap day. -/
theorem stamps_around_epoch :
    (⟨-1, 5⟩ : Instant).timeStamp = "19691231T235959Z" ∧
      (⟨951782400, 0⟩ : Instant).timeStamp = "20000229T000000Z" ∧
      (⟨-1, 5⟩ : Instant).dateStamp = "19691231" ∧
      (⟨-1, 5⟩ : Instant).timeStamp < (⟨951782400, 0⟩ : Instant).timeStamp := by
  have epoch := Gregorian.daysBeforeYear_epoch
  have last : (Gregorian.daysBeforeYear 10000 : Int) = 3652425 := by
    rw [Gregorian.daysBeforeYear_eq]
    rfl
  have zero : (Gregorian.daysBeforeYear 0 : Int) = 0 := rfl
  have first : (⟨-1, 5⟩ : Instant).IsOrdinary := by
    constructor <;> simp only [epoch, last, zero] <;> decide
  have leapDay : (⟨951782400, 0⟩ : Instant).IsOrdinary := by
    constructor <;> simp only [epoch, last, zero] <;> decide
  obtain ⟨-, ⟨sameDay, -⟩, ordered⟩ := stamps_are_exact_and_ordered first
  have stamp : (⟨-1, 5⟩ : Instant).timeStamp = "19691231T235959Z" := by decide
  refine ⟨stamp, by decide, ?_, ordered ⟨951782400, 0⟩ leapDay (by decide)⟩
  rw [sameDay, stamp]
  decide

end Instant
end BookLookup
