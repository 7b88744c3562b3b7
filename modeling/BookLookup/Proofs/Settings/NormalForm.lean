import BookLookup.Proofs.Settings.Described

/-!
# Values without what does not count

Only some keys are looked at, and of their values only what stands between the
white space around them. Values in normal form have nothing else: no other key,
no outer white space and no blank value. They give the same settings, or the
same fault, as the values that they were made of.
-/

namespace BookLookup

namespace Settings

/-! ## The normal form -/

/-- The keys that are looked at. -/
def knownKeys : List String :=
  ["CATALOG_BIND_ADDR", "CATALOG_AWS_REGION", "AWS_REGION",
    "CATALOG_TABLE_NAME", "CATALOG_ASSET_BUCKET", "CATALOG_STORE_ENDPOINT",
    "CATALOG_ASSET_ENDPOINT", "CATALOG_ASSET_PATH_STYLE",
    "CATALOG_STORE_TIMEOUT_MS", "CATALOG_REQUEST_TIMEOUT_MS",
    "CATALOG_STORE_PAGE_LIMIT", "AWS_ACCESS_KEY_ID", "AWS_SECRET_ACCESS_KEY",
    "AWS_SESSION_TOKEN"]

/-- Values with only the keys that are looked at, trimmed, and without those of
which nothing is left. -/
def normalForm (values : TextMap String) : TextMap String :=
  ((values.filter fun key _ => key ∈ knownKeys).mapValues
    fun _ text => trimmed text).filter fun _ text => text ≠ ""

/-- What is left at a key that is looked at is its value. -/
theorem get?_normalForm
    (values : TextMap String)
    (key : String) :
    (normalForm values).get? key =
      if key ∈ knownKeys then value? values key else none := by
  rw [normalForm, value?, TextMap.get?_filter, TextMap.get?_mapValues,
    TextMap.get?_filter]
  cases values.get? key with
  | none => simp
  | some text =>
      by_cases known : key ∈ knownKeys
      · by_cases blank : trimmed text = "" <;> simp [known, nonBlank?, blank]
      · simp [known]

/-- A value is not trimmed again. -/
theorem bind_nonBlank?_value?
    (values : TextMap String)
    (key : String) :
    (value? values key).bind nonBlank? = value? values key := by
  cases given : value? values key with
  | none => rfl
  | some core =>
      obtain ⟨text, -, isCore⟩ := Option.bind_eq_some_iff.mp given
      obtain ⟨nonempty, isCore⟩ := nonBlank?_eq_some_iff.mp isCore
      refine nonBlank?_eq_some_iff.mpr ⟨nonempty, ?_, isCore.first, isCore.last⟩
      exact ⟨[], [], by simp, nofun, nofun⟩

theorem value?_normalForm
    (values : TextMap String)
    {key : String}
    (known : key ∈ knownKeys) :
    value? (normalForm values) key = value? values key := by
  rw [value?, get?_normalForm, if_pos known, bind_nonBlank?_value?]

/-! ## Readers look at values only -/

section SameValue

variable {values others : TextMap String} {key : String}

/-- A reader of one value looks at nothing else. -/
theorem readOr_congr
    {α : Type}
    (same : value? values key = value? others key)
    (read? : String -> Option α)
    (fault : SettingsFault)
    (absent : α) :
    readOr values key read? fault absent =
      readOr others key read? fault absent := by
  unfold readOr
  rw [same]

theorem readEndpoint_congr
    (same : value? values key = value? others key) :
    readEndpoint values key = readEndpoint others key := by
  funext service region
  unfold readEndpoint
  rw [same]

theorem readTimeout_congr
    (same : value? values key = value? others key)
    (absent : Nat) :
    readTimeout values key absent = readTimeout others key absent := by
  unfold readTimeout
  rw [readOr_congr same]

theorem readRequired_congr
    (same : value? values key = value? others key) :
    readRequired values key = readRequired others key := by
  unfold readRequired
  rw [same]

end SameValue

/-- Values that are the same at all keys that are looked at give the same
settings, or the same fault. -/
theorem ofValues_congr
    {values others : TextMap String}
    (same : ∀ key ∈ knownKeys, value? values key = value? others key) :
    ofValues values = ofValues others := by
  have region : readRegion values = readRegion others := by
    unfold readRegion
    rw [same "CATALOG_AWS_REGION" (by decide), same "AWS_REGION" (by decide)]
  have credentials : readCredentials values = readCredentials others := by
    unfold readCredentials
    rw [readRequired_congr (same "AWS_ACCESS_KEY_ID" (by decide)),
      readRequired_congr (same "AWS_SECRET_ACCESS_KEY" (by decide)),
      same "AWS_SESSION_TOKEN" (by decide)]
  unfold ofValues readBindAddress readPathStyle readPageLimit
  rw [region, credentials,
    readOr_congr (same "CATALOG_BIND_ADDR" (by decide)),
    readEndpoint_congr (same "CATALOG_STORE_ENDPOINT" (by decide)),
    readEndpoint_congr (same "CATALOG_ASSET_ENDPOINT" (by decide)),
    readOr_congr (same "CATALOG_ASSET_PATH_STYLE" (by decide)),
    readTimeout_congr (same "CATALOG_STORE_TIMEOUT_MS" (by decide)),
    readTimeout_congr (same "CATALOG_REQUEST_TIMEOUT_MS" (by decide)),
    readOr_congr (same "CATALOG_STORE_PAGE_LIMIT" (by decide)),
    same "CATALOG_TABLE_NAME" (by decide),
    same "CATALOG_ASSET_BUCKET" (by decide)]

/-! ## Every key counts -/

/-- Values that give both parts of the key and short endpoints. -/
def fewValues : TextMap String :=
  .ofPairs [("AWS_ACCESS_KEY_ID", "AKIDTEST"),
    ("AWS_SECRET_ACCESS_KEY", "secret"), ("CATALOG_ASSET_ENDPOINT", "http://a"),
    ("CATALOG_STORE_ENDPOINT", "http://s")]

/-- The texts of settings that no check is made of. -/
def freeTexts (settings : Settings) : List (Option String) :=
  [some settings.region, some settings.tableName, some settings.assetBucket,
    some settings.credentials.accessKeyId,
    some settings.credentials.secretAccessKey,
    settings.credentials.sessionToken]

/-- A bracket is refused at every key that is checked, and is found again at
every other one. -/
theorem ofValues_insert_ne
    {key : String}
    (known : key ∈ knownKeys) :
    ofValues (fewValues.insert key "[") ≠ ofValues fewValues := by
  have plain : (ofValues fewValues).map freeTexts =
      .ok [some "us-west-1", some "books", some "bookstore-images-bucket",
        some "AKIDTEST", some "secret", none] := by
    decide +kernel
  have differ : ∀ key ∈ knownKeys,
      (ofValues (fewValues.insert key "[")).map freeTexts ≠
        .ok [some "us-west-1", some "books", some "bookstore-images-bucket",
          some "AKIDTEST", some "secret", none] := by
    decide +kernel
  intro same
  refine differ key known ?_
  rw [same, plain]

/-- Only the keys that are looked at count, and of their values only what is not
blank, without the white space around it: values and their normal form, in which
nothing else is left, give the same settings or the same fault. Each of these
keys counts, for its value alone can make a difference. -/
theorem only_trimmed_values_of_known_keys_count (values : TextMap String) :
    (∀ key text, (normalForm values).get? key = some text ↔
      key ∈ knownKeys ∧ Gives values key (some text)) ∧
    ofValues (normalForm values) = ofValues values ∧
    ∀ key ∈ knownKeys, ∃ first second : TextMap String,
      first.AgreeBut [key] second ∧ ofValues first ≠ ofValues second := by
  refine ⟨fun key text => ?_, ?_, fun key known => ?_⟩
  · rw [get?_normalForm, gives_iff]
    split
    · rename_i known
      exact (and_iff_right known).symm
    · rename_i unknown
      exact ⟨nofun, fun ⟨known, _⟩ => absurd known unknown⟩
  · exact ofValues_congr fun _ known => value?_normalForm values known
  · refine ⟨fewValues.insert key "[", fewValues, ?_, ofValues_insert_ne known⟩
    intro other notMember
    rw [TextMap.get?_insert, if_neg (by simpa using notMember)]

/-- Values with white space around them, a blank value and a key that is not
looked at. -/
def paddedValues : TextMap String :=
  .ofPairs [("HOME", "/root"), ("CATALOG_AWS_REGION", " \t\n"),
    ("AWS_REGION", "\u3000eu-west-1\r\n"), ("AWS_ACCESS_KEY_ID", " AKIDTEST"),
    ("AWS_SECRET_ACCESS_KEY", "secret\u00a0"),
    ("CATALOG_ASSET_ENDPOINT", "\nhttp://a"),
    ("CATALOG_STORE_ENDPOINT", "http://s ")]

/-- They give the same settings as the values without them, and the region
among these can make a difference. -/
theorem padded_values_give_same_settings :
    ofValues (fewValues.insert "AWS_REGION" "eu-west-1") =
        ofValues paddedValues ∧
      "AWS_REGION" ∈ knownKeys ∧
      ∃ first second : TextMap String,
        first.AgreeBut ["AWS_REGION"] second ∧
          ofValues first ≠ ofValues second := by
  obtain ⟨-, sameSettings, everyCounts⟩ :=
    only_trimmed_values_of_known_keys_count paddedValues
  have normal : normalForm paddedValues =
      fewValues.insert "AWS_REGION" "eu-west-1" :=
    (TextMap.mk.injEq ..).mpr (by decide)
  have known : "AWS_REGION" ∈ knownKeys := by decide
  exact ⟨normal ▸ sameSettings, known, everyCounts "AWS_REGION" known⟩

end Settings
end BookLookup
