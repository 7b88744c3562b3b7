import BookLookup.Proofs.Elementwise
import BookLookup.Proofs.TextMap
import BookLookup.Settings.Environment

/-!
# How settings are read

Settings are read from values field by field, each by its reader. The fields of
the credentials are the values of their keys, so that values that agree at all
other keys give the same settings but for these fields.
-/

namespace BookLookup

/-! ## The values of keys -/

/-- Values agree but at some keys. -/
def TextMap.AgreeBut
    (keys : List String)
    (values others : TextMap String) : Prop :=
  ∀ key ∉ keys, values.get? key = others.get? key

theorem TextMap.AgreeBut.refl
    (keys : List String)
    (values : TextMap String) :
    AgreeBut keys values values :=
  fun _ _ => rfl

theorem TextMap.AgreeBut.mono
    {keys more : List String}
    (included : keys ⊆ more)
    {values others : TextMap String}
    (agree : AgreeBut keys values others) :
    AgreeBut more values others :=
  fun key notMember => agree key fun member => notMember (included member)

/-- Any values may be put in at one of these keys. -/
theorem TextMap.AgreeBut.insert
    {keys : List String}
    {values others : TextMap String}
    (agree : AgreeBut keys values others)
    {key : String}
    (member : key ∈ keys)
    (value other : String) :
    AgreeBut keys (values.insert key value) (others.insert key other) := by
  intro wanted notMember
  have differs : wanted ≠ key := fun same => notMember (same ▸ member)
  rw [get?_insert, get?_insert, if_neg differs, if_neg differs,
    agree wanted notMember]

namespace Settings

/-- At the keys where values agree, the same is read. -/
theorem value?_congr
    {keys : List String}
    {values others : TextMap String}
    (agree : values.AgreeBut keys others)
    {key : String}
    (notMember : key ∉ keys) :
    value? values key = value? others key := by
  rw [value?, value?, agree key notMember]

/-! ## Fields -/

/-- Credentials are read if both of their keys have a value, and the token is
the value of its key. -/
theorem readCredentials_eq_ok_iff
    {values : TextMap String}
    {credentials : Credentials} :
    readCredentials values = .ok credentials ↔
      value? values "AWS_ACCESS_KEY_ID" = some credentials.accessKeyId ∧
        value? values "AWS_SECRET_ACCESS_KEY" =
          some credentials.secretAccessKey ∧
        value? values "AWS_SESSION_TOKEN" = credentials.sessionToken := by
  obtain ⟨accessKeyId, secretAccessKey, sessionToken⟩ := credentials
  unfold readCredentials readRequired
  cases value? values "AWS_ACCESS_KEY_ID" with
  | none => simp [bind, Except.bind]
  | some foundId =>
      cases value? values "AWS_SECRET_ACCESS_KEY" with
      | none => simp [bind, Except.bind]
      | some foundSecret => simp [bind, Except.bind, pure, Except.pure]

/-- Settings are read from values. -/
structure ReadFrom (values : TextMap String) (settings : Settings) : Prop where
  /-- The address to listen at. -/
  bindAddress : readBindAddress values = .ok settings.bindAddress
  /-- The region. -/
  region : readRegion values = settings.region
  /-- The table of the books. -/
  tableName : (value? values "CATALOG_TABLE_NAME").getD "books" =
    settings.tableName
  /-- The bucket of the images. -/
  assetBucket : (value? values "CATALOG_ASSET_BUCKET").getD
    "bookstore-images-bucket" = settings.assetBucket
  /-- The URL of the store. -/
  storeEndpoint :
    readEndpoint values "CATALOG_STORE_ENDPOINT" "dynamodb" settings.region =
      .ok settings.storeEndpoint
  /-- The URL of the service that keeps the images. -/
  assetEndpoint :
    readEndpoint values "CATALOG_ASSET_ENDPOINT" "s3" settings.region =
      .ok settings.assetEndpoint
  /-- Whether links name the bucket in the path. -/
  assetPathStyle : readPathStyle values = .ok settings.assetPathStyle
  /-- How long an answer of the store may take. -/
  storeTimeout : readTimeout values "CATALOG_STORE_TIMEOUT_MS" 2000 =
    .ok settings.storeTimeout
  /-- How long a lookup may take. -/
  requestTimeout : readTimeout values "CATALOG_REQUEST_TIMEOUT_MS" 10000 =
    .ok settings.requestTimeout
  /-- How many items a page looks at. -/
  storePageLimit : readPageLimit values = .ok settings.storePageLimit
  /-- What requests and links are signed with. -/
  credentials : readCredentials values = .ok settings.credentials

/-- Settings are accepted exactly if they are read field by field. -/
theorem ofValues_eq_ok_iff
    {values : TextMap String}
    {settings : Settings} :
    ofValues values = .ok settings ↔ ReadFrom values settings := by
  constructor
  · intro accepted
    obtain ⟨bindAddress, bindAddressRead, accepted⟩ :=
      exists_of_bind_eq_ok accepted
    obtain ⟨storeEndpoint, storeEndpointRead, accepted⟩ :=
      exists_of_bind_eq_ok accepted
    obtain ⟨assetEndpoint, assetEndpointRead, accepted⟩ :=
      exists_of_bind_eq_ok accepted
    obtain ⟨assetPathStyle, pathStyleRead, accepted⟩ :=
      exists_of_bind_eq_ok accepted
    obtain ⟨storeTimeout, storeTimeoutRead, accepted⟩ :=
      exists_of_bind_eq_ok accepted
    obtain ⟨requestTimeout, requestTimeoutRead, accepted⟩ :=
      exists_of_bind_eq_ok accepted
    obtain ⟨storePageLimit, pageLimitRead, accepted⟩ :=
      exists_of_bind_eq_ok accepted
    obtain ⟨credentials, credentialsRead, accepted⟩ :=
      exists_of_bind_eq_ok accepted
    obtain rfl := Except.ok.inj accepted
    exact ⟨bindAddressRead, rfl, rfl, rfl, storeEndpointRead,
      assetEndpointRead, pathStyleRead, storeTimeoutRead, requestTimeoutRead,
      pageLimitRead, credentialsRead⟩
  · rintro ⟨bindAddress, region, tableName, assetBucket, storeEndpoint,
      assetEndpoint, assetPathStyle, storeTimeout, requestTimeout,
      storePageLimit, credentials⟩
    rw [ofValues, bindAddress, region, tableName, assetBucket]
    dsimp only [bind, Except.bind]
    rw [storeEndpoint, assetEndpoint, assetPathStyle, storeTimeout,
      requestTimeout, storePageLimit, credentials]
    rfl

end Settings

/-! ## Environments -/

/-- The values that an environment gives: those of its file, replaced by its
own. -/
def Environment.merged
    (environment : Environment) : Except SettingsFault (TextMap String) :=
  environment.fileValues.map fun fileValues =>
    override fileValues environment.values

/-- The settings of an environment are those of its values. -/
theorem Environment.settings_of_merged
    {environment : Environment}
    {values : TextMap String}
    (merged : environment.merged = .ok values) :
    environment.settings = Settings.ofValues values := by
  unfold Environment.merged at merged
  unfold Environment.settings
  cases fileRead : environment.fileValues with
  | error fault =>
      rw [fileRead] at merged
      cases merged
  | ok fileValues =>
      rw [fileRead] at merged
      obtain rfl := Except.ok.inj merged
      rfl

/-- Without a file, an environment gives its own values. -/
theorem Environment.merged_of_no_file
    {environment : Environment}
    (noFile : environment.settingsPath? = none) :
    environment.merged = .ok environment.values := by
  have overridden : override .empty environment.values = environment.values :=
    TextMap.ofPairs_entries environment.values
  rw [merged, fileValues, noFile]
  exact congrArg Except.ok overridden

end BookLookup
