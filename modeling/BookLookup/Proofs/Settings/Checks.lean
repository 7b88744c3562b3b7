import BookLookup.Proofs.Settings.Described

/-!
# Which fault of the settings is reported

Values pass nine checks in a fixed order: the address, the two endpoints, the
style of links, the two time limits, the limit of a page, and the two parts of
the key. Settings are accepted exactly if every check is passed, and otherwise
refused with the fault of the first check that is not.
-/

namespace BookLookup
namespace Settings

/-! ## Checks -/

/-- What is checked of the value of a key. -/
inductive Check where
  /-- It is an address, if it is given. -/
  | address (key : String)
  /-- It is a URL of the web, or that of a service in the region is. -/
  | endpoint (key service : String)
  /-- It is a word for yes or no, if it is given. -/
  | switch (key : String)
  /-- It is a positive number of 64 bits, if it is given. -/
  | timeout (key : String)
  /-- It is a positive number of 32 bits, if it is given. -/
  | limit (key : String)
  /-- It is given. -/
  | required (key : String)

namespace Check

/-- The checks in their order. -/
def inOrder : List Check :=
  [.address "CATALOG_BIND_ADDR",
    .endpoint "CATALOG_STORE_ENDPOINT" "dynamodb",
    .endpoint "CATALOG_ASSET_ENDPOINT" "s3",
    .switch "CATALOG_ASSET_PATH_STYLE",
    .timeout "CATALOG_STORE_TIMEOUT_MS",
    .timeout "CATALOG_REQUEST_TIMEOUT_MS",
    .limit "CATALOG_STORE_PAGE_LIMIT",
    .required "AWS_ACCESS_KEY_ID",
    .required "AWS_SECRET_ACCESS_KEY"]

/-- The code of the fault if a check is not passed. -/
def code : Check -> String
  | required _ => "ERR_MISSING_CONFIG"
  | _ => "ERR_INVALID_CONFIG"

/-- Some values pass a check. -/
def Passes (values : TextMap String) : Check -> Prop
  | address key =>
      ∀ text, Gives values key (some text) -> ∃ address, IsAddress text address
  | endpoint key service =>
      ∃ region endpoint, GivesRegion values region ∧
        Takes values key Eq (endpointIn service region) endpoint ∧
        IsWebAddress endpoint
  | switch key =>
      ∀ text, Gives values key (some text) -> ∃ value, IsSwitch text value
  | timeout key =>
      ∀ text, Gives values key (some text) ->
        ∃ number, IsPositive (Nat.pow 2 64) text number
  | limit key =>
      ∀ text, Gives values key (some text) ->
        ∃ number, IsPositive (Nat.pow 2 32) text number
  | required key => ∃ text, Gives values key (some text)

/-- A check refuses some values with a fault. -/
inductive Refuses (values : TextMap String) : Check -> SettingsFault -> Prop
  /-- What is given is no address. -/
  | noAddress
      {key text : String}
      (gives : Gives values key (some text))
      (noAddress : ∀ address, ¬ IsAddress text address) :
      Refuses values (.address key) (.invalidAddress key)
  /-- The endpoint that is given, or that of the region, is no URL of the
  web. -/
  | notOnWeb
      {key service region endpoint : String}
      (givesRegion : GivesRegion values region)
      (takes : Takes values key Eq (endpointIn service region) endpoint)
      (notOnWeb : ¬ IsWebAddress endpoint) :
      Refuses values (.endpoint key service) (.invalidUrl key)
  /-- What is given is neither a word for yes nor one for no. -/
  | noSwitch
      {key text : String}
      (gives : Gives values key (some text))
      (noSwitch : ∀ value, ¬ IsSwitch text value) :
      Refuses values (.switch key) (.invalidSwitch key)
  /-- What is given writes no number of 64 bits. -/
  | noNumber
      {key text : String}
      (gives : Gives values key (some text))
      (noNumber : ∀ number < Nat.pow 2 64, ¬ Decimal.Writes text.toList number) :
      Refuses values (.timeout key) (.invalidInteger key)
  /-- What is given writes zero. -/
  | zero
      {key text : String}
      (gives : Gives values key (some text))
      (isZero : Decimal.Writes text.toList 0) :
      Refuses values (.timeout key) (.zero key)
  /-- What is given writes no positive number of 32 bits. -/
  | noLimit
      {key text : String}
      (gives : Gives values key (some text))
      (noLimit : ∀ number, ¬ IsPositive (Nat.pow 2 32) text number) :
      Refuses values (.limit key) (.invalidLimit key)
  /-- Nothing is given. -/
  | missing
      {key : String}
      (notGiven : Gives values key none) :
      Refuses values (.required key) (.missing key)

theorem Refuses.code_eq
    {values : TextMap String}
    {check : Check}
    {fault : SettingsFault}
    (refuses : check.Refuses values fault) :
    fault.code = check.code := by
  cases refuses <;> rfl

/-! ## How checks are made -/

/-- What is read for a check, apart from its content. -/
def read (values : TextMap String) : Check -> Except SettingsFault Unit
  | address key =>
      (readOr values key (SocketAddress.read? ·.toList) (.invalidAddress key)
        defaultBindAddress).map fun _ => ()
  | endpoint key service =>
      (readEndpoint values key service (readRegion values)).map fun _ => ()
  | switch key =>
      (readOr values key switch? (.invalidSwitch key) false).map fun _ => ()
  | timeout key => (readTimeout values key 1).map fun _ => ()
  | limit key =>
      (readOr values key (fun text => (pageLimit? text).map some)
        (.invalidLimit key) none).map fun _ => ()
  | required key => (readRequired values key).map fun _ => ()

/-- Something is taken for a key exactly if each text that is given stands for
something. -/
theorem exists_takes_iff
    {α : Type}
    {values : TextMap String}
    {key : String}
    {StandsFor : String -> α -> Prop}
    {absent : α} :
    (∃ value, Takes values key StandsFor absent value) ↔
      ∀ text, Gives values key (some text) -> ∃ value, StandsFor text value := by
  constructor
  · rintro ⟨value, takes⟩ text givesText
    cases takes with
    | given gives standsFor =>
        obtain rfl := Option.some.inj (givesText.unique gives)
        exact ⟨value, standsFor⟩
    | absent gives => cases givesText.unique gives
  · intro everyStands
    cases given : value? values key with
    | none => exact ⟨absent, .absent (gives_iff.mpr given)⟩
    | some text =>
        obtain ⟨value, standsFor⟩ := everyStands text (gives_iff.mpr given)
        exact ⟨value, .given (gives_iff.mpr given) standsFor⟩

/-- An endpoint is refused if it is no URL of the web. -/
theorem readEndpoint_eq_error_iff
    {values : TextMap String}
    {key service region : String}
    {fault : SettingsFault} :
    readEndpoint values key service region = .error fault ↔
      fault = .invalidUrl key ∧
        ∃ endpoint, Takes values key Eq (endpointIn service region) endpoint ∧
          ¬ IsWebAddress endpoint := by
  simp only [takes_text_iff, ← isWebUrl_iff, exists_eq_left']
  unfold readEndpoint endpointIn
  dsimp only
  constructor
  · intro refused
    split at refused
    · cases refused
    · rename_i notOnWeb
      obtain rfl := Except.error.inj refused
      exact ⟨rfl, notOnWeb⟩
  · rintro ⟨rfl, notOnWeb⟩
    exact if_neg notOnWeb

/-- A time limit is refused if it is no number of 64 bits, or zero. -/
theorem readTimeout_eq_error_iff
    {values : TextMap String}
    {key : String}
    {absent : Nat}
    (positive : 1 ≤ absent)
    {fault : SettingsFault} :
    readTimeout values key absent = .error fault ↔
      Refuses values (.timeout key) fault := by
  unfold readTimeout
  constructor
  · intro refused
    cases isRead : readOr values key
        (Decimal.readBelow? (Nat.pow 2 64) ·.toList) (.invalidInteger key)
        absent with
    | error reported =>
        rw [isRead] at refused
        obtain rfl := Except.error.inj refused
        obtain ⟨rfl, text, gives, noNumber⟩ :=
          (readOr_eq_error_iff fun _ _ => Decimal.readBelow?_eq_some_iff).mp
            isRead
        exact .noNumber gives fun number below writes =>
          noNumber number ⟨writes, below⟩
    | ok number =>
        rw [isRead] at refused
        change (if number = 0 then _ else _) = _ at refused
        split at refused
        · rename_i isZero
          obtain rfl := Except.error.inj refused
          cases (readOr_eq_ok_iff fun _ _ =>
              Decimal.readBelow?_eq_some_iff).mp isRead with
          | absent gives => omega
          | given gives writes => exact .zero gives (isZero ▸ writes.1)
        · cases refused
  · intro refuses
    cases refuses with
    | noNumber gives noNumber =>
        rw [(readOr_eq_error_iff fun _ _ => Decimal.readBelow?_eq_some_iff).mpr
          ⟨rfl, _, gives, fun number writes =>
            noNumber number writes.2 writes.1⟩]
        rfl
    | zero gives isZero =>
        rw [(readOr_eq_ok_iff fun _ _ => Decimal.readBelow?_eq_some_iff).mpr
          (.given gives ⟨isZero, by decide⟩)]
        rfl

theorem readRequired_eq_ok_iff
    {values : TextMap String}
    {key text : String} :
    readRequired values key = .ok text ↔ Gives values key (some text) := by
  rw [gives_iff, readRequired]
  cases value? values key <;> simp

/-- A value that has to be given is refused if it is not given. -/
theorem readRequired_eq_error_iff
    {values : TextMap String}
    {key : String}
    {fault : SettingsFault} :
    readRequired values key = .error fault ↔
      fault = .missing key ∧ Gives values key none := by
  rw [gives_iff, readRequired]
  cases value? values key <;> simp [eq_comm]

/-- What passes a check is read. -/
theorem read_eq_ok_iff {values : TextMap String} {check : Check} :
    check.read values = .ok () ↔ check.Passes values := by
  cases check with
  | address key =>
      simp only [read, map_eq_ok_iff, and_true,
        readOr_eq_ok_iff fun _ _ => Iff.rfl]
      exact exists_takes_iff
  | endpoint key service =>
      simp only [read, map_eq_ok_iff, and_true, Passes, givesRegion_iff,
        exists_and_left, exists_eq_left', readEndpoint_eq_ok_iff]
  | switch key =>
      simp only [read, map_eq_ok_iff, and_true,
        readOr_eq_ok_iff fun _ _ => switch?_eq_some_iff]
      exact exists_takes_iff
  | timeout key =>
      simp only [read, map_eq_ok_iff, and_true,
        readTimeout_eq_ok_iff (Nat.le_refl 1)]
      exact exists_takes_iff
  | limit key =>
      simp only [read, map_eq_ok_iff, and_true,
        readOr_eq_ok_iff fun _ _ => map_pageLimit?_eq_some_iff]
      rw [exists_takes_iff]
      simp only [IsLimit, Passes]
      refine forall₂_congr fun text _ => ?_
      exact ⟨fun ⟨_, number, _, isPositive⟩ => ⟨number, isPositive⟩,
        fun ⟨number, isPositive⟩ => ⟨_, number, rfl, isPositive⟩⟩
  | required key =>
      simp only [read, map_eq_ok_iff, and_true, readRequired_eq_ok_iff, Passes]

/-- What a check refuses is a fault. -/
theorem read_eq_error_iff
    {values : TextMap String}
    {check : Check}
    {fault : SettingsFault} :
    check.read values = .error fault ↔ check.Refuses values fault := by
  cases check with
  | address key =>
      simp only [read, map_eq_error_iff,
        readOr_eq_error_iff fun _ _ => Iff.rfl]
      constructor
      · rintro ⟨rfl, text, gives, noAddress⟩
        exact .noAddress gives noAddress
      · intro refuses
        cases refuses with
        | noAddress gives noAddress => exact ⟨rfl, _, gives, noAddress⟩
  | endpoint key service =>
      simp only [read, map_eq_error_iff, readEndpoint_eq_error_iff]
      constructor
      · rintro ⟨rfl, endpoint, takes, notOnWeb⟩
        exact .notOnWeb (givesRegion_iff.mpr rfl) takes notOnWeb
      · intro refuses
        cases refuses with
        | notOnWeb givesRegion takes notOnWeb =>
            obtain rfl := givesRegion_iff.mp givesRegion
            exact ⟨rfl, _, takes, notOnWeb⟩
  | switch key =>
      simp only [read, map_eq_error_iff,
        readOr_eq_error_iff fun _ _ => switch?_eq_some_iff]
      constructor
      · rintro ⟨rfl, text, gives, noSwitch⟩
        exact .noSwitch gives noSwitch
      · intro refuses
        cases refuses with
        | noSwitch gives noSwitch => exact ⟨rfl, _, gives, noSwitch⟩
  | timeout key =>
      rw [read, map_eq_error_iff, readTimeout_eq_error_iff (Nat.le_refl 1)]
  | limit key =>
      simp only [read, map_eq_error_iff,
        readOr_eq_error_iff fun _ _ => map_pageLimit?_eq_some_iff]
      constructor
      · rintro ⟨rfl, text, gives, noLimit⟩
        exact .noLimit gives fun number isPositive =>
          noLimit (some number) ⟨number, rfl, isPositive⟩
      · intro refuses
        cases refuses with
        | noLimit gives noLimit =>
            exact ⟨rfl, _, gives, fun _ ⟨number, _, isPositive⟩ =>
              noLimit number isPositive⟩
  | required key =>
      rw [read, map_eq_error_iff, readRequired_eq_error_iff]
      constructor
      · rintro ⟨rfl, notGiven⟩
        exact .missing notGiven
      · intro refuses
        cases refuses with
        | missing notGiven => exact ⟨rfl, notGiven⟩

/-- What is given at a time limit is checked alike whatever stands in for it. -/
theorem read_timeout
    {values : TextMap String}
    {key : String}
    {absent : Nat}
    (positive : 1 ≤ absent) :
    (Check.timeout key).read values =
      (readTimeout values key absent).map fun _ => () := by
  rw [read]
  cases isRead : readTimeout values key absent with
  | error fault =>
      have refuses := (readTimeout_eq_error_iff positive).mp isRead
      rw [(readTimeout_eq_error_iff (Nat.le_refl 1)).mpr refuses]
  | ok limit =>
      have passes := exists_takes_iff.mp
        ⟨limit, (readTimeout_eq_ok_iff positive).mp isRead⟩
      exact (@read_eq_ok_iff values (.timeout key)).mpr passes

theorem not_passes_iff {values : TextMap String} {check : Check} :
    ¬ check.Passes values ↔ ∃ fault, check.Refuses values fault := by
  rw [← read_eq_ok_iff]
  simp only [← read_eq_error_iff]
  cases check.read values with
  | error fault => simp
  | ok done => simp

end Check

/-! ## All checks -/

/-- Settings are refused with the fault of the first check that fails. -/
theorem ofValues_eq_error_iff_of_checks
    {values : TextMap String}
    {fault : SettingsFault} :
    ofValues values = .error fault ↔
      Check.inOrder.mapM (Check.read values) = .error fault := by
  unfold ofValues Check.inOrder
  -- Each step of the reading is the next check.
  refine Elementwise.bind_eq_error_iff_of_check rfl fun _ => ?_
  refine Elementwise.bind_eq_error_iff_of_check rfl fun _ => ?_
  refine Elementwise.bind_eq_error_iff_of_check rfl fun _ => ?_
  refine Elementwise.bind_eq_error_iff_of_check rfl fun _ => ?_
  refine Elementwise.bind_eq_error_iff_of_check
    (Check.read_timeout (by decide)) fun _ => ?_
  refine Elementwise.bind_eq_error_iff_of_check
    (Check.read_timeout (by decide)) fun _ => ?_
  refine Elementwise.bind_eq_error_iff_of_check rfl fun _ => ?_
  -- The last two are steps of one reading.
  unfold readCredentials
  rw [bind_assoc]
  refine Elementwise.bind_eq_error_iff_of_check rfl fun _ => ?_
  rw [bind_assoc]
  refine Elementwise.bind_eq_error_iff_of_check rfl fun _ => ?_
  exact ⟨nofun, nofun⟩

theorem exists_ofValues_eq_ok_iff {values : TextMap String} :
    (∃ settings, ofValues values = .ok settings) ↔
      ∀ check ∈ Check.inOrder, check.Passes values := by
  rw [Elementwise.exists_eq_ok_iff_of_checks fun _ =>
    ofValues_eq_error_iff_of_checks]
  exact forall₂_congr fun _ _ => Check.read_eq_ok_iff

/-- Settings are refused with the fault of the first check that is not
passed. -/
theorem ofValues_eq_error_iff
    {values : TextMap String}
    {fault : SettingsFault} :
    ofValues values = .error fault ↔
      ∃ front check rest, Check.inOrder = front ++ check :: rest ∧
        (∀ earlier ∈ front, earlier.Passes values) ∧
        check.Refuses values fault := by
  rw [ofValues_eq_error_iff_of_checks, Elementwise.mapM_eq_error_iff]
  simp only [Check.read_eq_error_iff]
  have passed (check : Check) :
      (∃ result, check.read values = .ok result) ↔ check.Passes values := by
    rw [← Check.read_eq_ok_iff]
    exact ⟨fun ⟨_, isRead⟩ => isRead, fun isRead => ⟨(), isRead⟩⟩
  simp only [passed]

/-! ## What accepted settings are -/

/-- No text of some settings is empty. -/
structure Filled (settings : Settings) : Prop where
  /-- The region is not empty. -/
  region : settings.region ≠ ""
  /-- The name of the table is not empty. -/
  tableName : settings.tableName ≠ ""
  /-- The name of the bucket is not empty. -/
  assetBucket : settings.assetBucket ≠ ""
  /-- The endpoint of the store is not empty. -/
  storeEndpoint : settings.storeEndpoint ≠ ""
  /-- The endpoint of the images is not empty. -/
  assetEndpoint : settings.assetEndpoint ≠ ""
  /-- The identity of the key is not empty. -/
  accessKeyId : settings.credentials.accessKeyId ≠ ""
  /-- The secret is not empty. -/
  secretAccessKey : settings.credentials.secretAccessKey ≠ ""
  /-- The token, if there is one, is not empty. -/
  sessionToken : settings.credentials.sessionToken ≠ some ""

/-- A text that is taken is not empty if what stands in for it is not. -/
theorem Takes.ne_empty
    {values : TextMap String}
    {key absent text : String}
    (notEmpty : absent ≠ "")
    (takes : Takes values key Eq absent text) :
    text ≠ "" := by
  cases takes with
  | given gives standsFor => exact standsFor ▸ gives.ne_empty
  | absent gives => exact notEmpty

/-- A region is not empty. -/
theorem GivesRegion.ne_empty
    {values : TextMap String}
    {region : String}
    (givesRegion : GivesRegion values region) :
    region ≠ "" := by
  cases givesRegion with
  | own gives => exact gives.ne_empty
  | general notOwn gives => exact gives.ne_empty
  | absent notOwn notGeneral => decide

theorem endpointIn_ne_empty (service region : String) :
    endpointIn service region ≠ "" := by
  simp [endpointIn]

/-- Settings that are described have no empty text. -/
theorem Describes.filled
    {values : TextMap String}
    {settings : Settings}
    (describes : Describes values settings) :
    settings.Filled where
  region := describes.region.ne_empty
  tableName := describes.tableName.ne_empty (by decide)
  assetBucket := describes.assetBucket.ne_empty (by decide)
  storeEndpoint := describes.storeEndpoint.ne_empty (endpointIn_ne_empty _ _)
  assetEndpoint := describes.assetEndpoint.ne_empty (endpointIn_ne_empty _ _)
  accessKeyId := describes.accessKeyId.ne_empty
  secretAccessKey := describes.secretAccessKey.ne_empty
  sessionToken := by
    intro isEmpty
    exact (isEmpty ▸ describes.sessionToken).ne_empty rfl

/-- The store and the links are set up with the settings as they stand. -/
structure PassesOn (settings : Settings) : Prop where
  /-- The store is asked at its endpoint, for the table, within its time limit
  and with the limit of a page. -/
  store : settings.store = {
    endpoint := settings.storeEndpoint
    region := settings.region
    tableName := settings.tableName
    credentials := settings.credentials
    timeout := .ofMilliseconds settings.storeTimeout
    pageLimit := settings.storePageLimit }
  /-- Links lead to the bucket at its endpoint. -/
  assets : settings.assets = {
    bucket := settings.assetBucket
    region := settings.region
    endpoint := settings.assetEndpoint
    pathStyle := settings.assetPathStyle
    credentials := settings.credentials }
  /-- A lookup ends within its time limit. -/
  lookupLimit : settings.lookupLimit = .ofMilliseconds settings.requestTimeout

/-- Values are accepted exactly if every check is passed, and otherwise refused
with the fault of the first check that is not. A check that is not passed has a
fault with its code, and only such a check has one. Accepted values give the
settings that they describe. No text of them is empty, and the store and the
links are set up with them. -/
theorem accepted_exactly_if_every_check_passes (values : TextMap String) :
    ((∃ settings, ofValues values = .ok settings) ↔
      ∀ check ∈ Check.inOrder, check.Passes values) ∧
    (∀ fault, ofValues values = .error fault ↔
      ∃ front check rest, Check.inOrder = front ++ check :: rest ∧
        (∀ earlier ∈ front, earlier.Passes values) ∧
        check.Refuses values fault) ∧
    (∀ check : Check,
      (¬ check.Passes values ↔ ∃ fault, check.Refuses values fault) ∧
      ∀ fault, check.Refuses values fault -> fault.code = check.code) ∧
    ∀ settings, (ofValues values = .ok settings ↔ Describes values settings) ∧
      (ofValues values = .ok settings -> settings.Filled ∧ settings.PassesOn) := by
  refine ⟨exists_ofValues_eq_ok_iff, fun _ => ofValues_eq_error_iff,
    fun check => ⟨Check.not_passes_iff, fun _ refuses => refuses.code_eq⟩,
    fun settings => ⟨ofValues_eq_ok_iff_describes, fun accepted => ?_⟩⟩
  have describes := ofValues_eq_ok_iff_describes.mp accepted
  exact ⟨describes.filled, rfl, rfl, rfl⟩

/-- Both parts of the key are enough. A wrong address is reported before a time
limit of zero, though the key is missing, too. -/
theorem key_suffices_and_address_is_reported_first :
    (∃ settings, ofValues (.ofPairs [("AWS_ACCESS_KEY_ID", "AKID"),
      ("AWS_SECRET_ACCESS_KEY", " secret "), ("CATALOG_AWS_REGION", " "),
      ("CATALOG_STORE_TIMEOUT_MS", " +0250 ")]) = .ok settings) ∧
    ofValues (.ofPairs [("CATALOG_BIND_ADDR", "nowhere"),
      ("CATALOG_STORE_TIMEOUT_MS", "0")]) =
        .error (.invalidAddress "CATALOG_BIND_ADDR") := by
  constructor
  · refine (accepted_exactly_if_every_check_passes _).1.mpr ?_
    intro check member
    refine Check.read_eq_ok_iff.mp ?_
    revert check
    decide +kernel
  · refine ((accepted_exactly_if_every_check_passes _).2.1 _).mpr
      ⟨[], _, _, rfl, nofun, Check.read_eq_error_iff.mp ?_⟩
    decide

end Settings
end BookLookup
