import BookLookup.Proofs.Settings.Reading
import BookLookup.Proofs.Text.Blank
import BookLookup.Proofs.Text.Decimal

/-!
# Which settings values describe

A value counts without the white space around it, and not at all if there is
nothing else. The settings that values describe are what is written for their
keys, or what stands in for a key that is absent or blank. Values are accepted
exactly if they describe settings, and give the settings that they describe.
-/

namespace BookLookup
namespace Settings

/-! ## What keys give -/

/-- What some values give for a key: a text without the white space around it,
and nothing if the text is absent or blank. -/
inductive Gives (values : TextMap String) (key : String) :
    Option String -> Prop where
  | absent (notFound : values.get? key = none) : Gives values key none
  /-- There is nothing but white space. -/
  | blank
      {text : String}
      (found : values.get? key = some text)
      (allBlank : ∀ symbol ∈ text.toList, isBlank symbol) :
      Gives values key none
  /-- There is a text with something between the white space. -/
  | text
      {text core : String}
      (found : values.get? key = some text)
      (nonempty : core ≠ "")
      (isCore : IsCore core.toList text.toList) :
      Gives values key (some core)

/-- The value of a key is what is given for it. -/
theorem gives_iff
    {values : TextMap String}
    {key : String}
    {given : Option String} :
    Gives values key given ↔ value? values key = given := by
  unfold value?
  constructor
  · intro gives
    cases gives with
    | absent notFound => rw [notFound, Option.bind_none]
    | blank found allBlank =>
        rw [found, Option.bind_some, nonBlank?_eq_none_iff.mpr allBlank]
    | text found nonempty isCore =>
        rw [found, Option.bind_some,
          nonBlank?_eq_some_iff.mpr ⟨nonempty, isCore⟩]
  · intro isValue
    cases found : values.get? key with
    | none =>
        rw [found, Option.bind_none] at isValue
        exact isValue ▸ .absent found
    | some text =>
        rw [found, Option.bind_some] at isValue
        cases given with
        | none => exact .blank found (nonBlank?_eq_none_iff.mp isValue)
        | some core =>
            obtain ⟨nonempty, isCore⟩ := nonBlank?_eq_some_iff.mp isValue
            exact .text found nonempty isCore

/-- Only one thing is given for a key. -/
theorem Gives.unique
    {values : TextMap String}
    {key : String}
    {given other : Option String}
    (gives : Gives values key given)
    (givesOther : Gives values key other) :
    given = other :=
  (gives_iff.mp gives).symm.trans (gives_iff.mp givesOther)

theorem Gives.ne_empty
    {values : TextMap String}
    {key core : String}
    (gives : Gives values key (some core)) :
    core ≠ "" := by
  cases gives with
  | text found nonempty isCore => exact nonempty

/-- A value is what a text that is given for a key stands for, or stands in for
the text if there is none. -/
inductive Takes
    {α : Type}
    (values : TextMap String)
    (key : String)
    (StandsFor : String -> α -> Prop)
    (absent : α) : α -> Prop where
  | given
      {text : String}
      {value : α}
      (gives : Gives values key (some text))
      (standsFor : StandsFor text value) :
      Takes values key StandsFor absent value
  | absent (gives : Gives values key none) :
      Takes values key StandsFor absent absent

/-! ## What texts stand for -/

/-- A text is an address to listen at. -/
def IsAddress (text : String) (address : SocketAddress) : Prop :=
  SocketAddress.read? text.toList = some address

/-- A text is a URL of the web with a host. -/
def IsWebAddress (text : String) : Prop :=
  ∃ url, Url.read text = .ok url ∧
    (url.scheme = "http" ∨ url.scheme = "https") ∧ url.host ≠ none

/-- A text is one of five words for yes or of five for no. -/
inductive IsSwitch : String -> Bool -> Prop where
  | yes
      {word : String}
      (member : word ∈ ["1", "true", "TRUE", "yes", "YES"]) :
      IsSwitch word true
  | no
      {word : String}
      (member : word ∈ ["0", "false", "FALSE", "no", "NO"]) :
      IsSwitch word false

/-- A text writes a positive number below a bound. -/
def IsPositive (bound : Nat) (text : String) (number : Nat) : Prop :=
  Decimal.Writes text.toList number ∧ 1 ≤ number ∧ number < bound

/-- A text writes how many items a page looks at. -/
def IsLimit (text : String) (limit : Option Nat) : Prop :=
  ∃ number, limit = some number ∧ IsPositive (Nat.pow 2 32) text number

/-! ## What is read -/

/-- What is read for a key is what is taken for it. -/
theorem readOr_eq_ok_iff
    {α : Type}
    {values : TextMap String}
    {key : String}
    {read? : String -> Option α}
    {StandsFor : String -> α -> Prop}
    (reads : ∀ text value, read? text = some value ↔ StandsFor text value)
    {fault : SettingsFault}
    {absent value : α} :
    readOr values key read? fault absent = .ok value ↔
      Takes values key StandsFor absent value := by
  unfold readOr
  constructor
  · intro isRead
    split at isRead
    · rename_i notGiven
      obtain rfl := Except.ok.inj isRead
      exact .absent (gives_iff.mpr notGiven)
    · rename_i text isGiven
      split at isRead
      · rename_i found textRead
        obtain rfl := Except.ok.inj isRead
        exact .given (gives_iff.mpr isGiven) ((reads text found).mp textRead)
      · cases isRead
  · intro takes
    cases takes with
    | absent gives => rw [gives_iff.mp gives]
    | given gives standsFor =>
        rw [gives_iff.mp gives]
        simp only [(reads _ _).mpr standsFor]

/-- A text that stands for nothing is the fault. -/
theorem readOr_eq_error_iff
    {α : Type}
    {values : TextMap String}
    {key : String}
    {read? : String -> Option α}
    {StandsFor : String -> α -> Prop}
    (reads : ∀ text value, read? text = some value ↔ StandsFor text value)
    {fault reported : SettingsFault}
    {absent : α} :
    readOr values key read? fault absent = .error reported ↔
      reported = fault ∧
        ∃ text, Gives values key (some text) ∧
          ∀ value, ¬ StandsFor text value := by
  simp only [← reads, ← ne_eq, ← Option.eq_none_iff_forall_ne_some]
  unfold readOr
  constructor
  · intro refused
    split at refused
    · cases refused
    · rename_i text isGiven
      split at refused
      · cases refused
      · rename_i notRead
        obtain rfl := Except.error.inj refused
        exact ⟨rfl, text, gives_iff.mpr isGiven, notRead⟩
  · rintro ⟨rfl, text, gives, notRead⟩
    rw [gives_iff.mp gives]
    simp only [notRead]

/-- The text that is taken for a key. -/
theorem takes_text_iff
    {values : TextMap String}
    {key absent text : String} :
    Takes values key Eq absent text ↔
      (value? values key).getD absent = text := by
  constructor
  · intro takes
    cases takes with
    | given gives standsFor =>
        rw [gives_iff.mp gives, Option.getD_some, standsFor]
    | absent gives => rw [gives_iff.mp gives, Option.getD_none]
  · rintro rfl
    cases given : value? values key with
    | none => exact .absent (gives_iff.mpr given)
    | some text => exact .given (gives_iff.mpr given) rfl

/-- If no text is given, what stands in for it is taken. -/
theorem Takes.eq_absent
    {α : Type}
    {values : TextMap String}
    {key : String}
    {StandsFor : String -> α -> Prop}
    {absent value : α}
    (takes : Takes values key StandsFor absent value)
    (notGiven : Gives values key none) :
    value = absent := by
  cases takes with
  | given gives standsFor => cases gives.unique notGiven
  | absent gives => rfl

theorem isWebUrl_iff {text : String} :
    isWebUrl text ↔ IsWebAddress text := by
  unfold isWebUrl IsWebAddress
  cases Url.read text with
  | error fault => simp
  | ok url => simp [Option.isSome_iff_ne_none]

/-- Which words are switches. -/
theorem switch?_eq_some_iff {word : String} {value : Bool} :
    switch? word = some value ↔ IsSwitch word value := by
  unfold switch?
  constructor
  · intro isRead
    split at isRead
    · rename_i isYes
      obtain rfl := Option.some.inj isRead
      exact .yes (by simpa using isYes)
    · split at isRead
      · rename_i isNo
        obtain rfl := Option.some.inj isRead
        exact .no (by simpa using isNo)
      · cases isRead
  · intro isSwitch
    cases isSwitch with
    | yes member => exact if_pos (by simpa using member)
    | no member =>
        have noYes : ∀ word ∈ ["0", "false", "FALSE", "no", "NO"],
            ["1", "true", "TRUE", "yes", "YES"].contains word = false := by
          decide
        rw [noYes word member, if_neg Bool.false_ne_true]
        exact if_pos (by simpa using member)

/-- Which texts are limits of a page. -/
theorem map_pageLimit?_eq_some_iff {text : String} {limit : Option Nat} :
    (pageLimit? text).map some = some limit ↔ IsLimit text limit := by
  unfold pageLimit? IsLimit IsPositive
  rw [Option.map_eq_some_iff]
  refine exists_congr fun number => ?_
  rw [Option.filter_eq_some_iff, Decimal.readBelow?_eq_some_iff,
    decide_eq_true_eq]
  constructor
  · rintro ⟨⟨⟨writes, below⟩, positive⟩, rfl⟩
    exact ⟨rfl, writes, positive, below⟩
  · rintro ⟨rfl, writes, positive, below⟩
    exact ⟨⟨⟨writes, below⟩, positive⟩, rfl⟩

/-! ## Settings that are described -/

/-- The region that some values give: the one that is given for this program, or
else the general one. -/
inductive GivesRegion (values : TextMap String) : String -> Prop where
  /-- A region is given for this program. -/
  | own
      {region : String}
      (gives : Gives values "CATALOG_AWS_REGION" (some region)) :
      GivesRegion values region
  /-- Only a general region is given. -/
  | general
      {region : String}
      (notOwn : Gives values "CATALOG_AWS_REGION" none)
      (gives : Gives values "AWS_REGION" (some region)) :
      GivesRegion values region
  /-- No region is given. -/
  | absent
      (notOwn : Gives values "CATALOG_AWS_REGION" none)
      (notGeneral : Gives values "AWS_REGION" none) :
      GivesRegion values "us-west-1"

/-- The region that is read is the one that is given. -/
theorem givesRegion_iff {values : TextMap String} {region : String} :
    GivesRegion values region ↔ readRegion values = region := by
  unfold readRegion
  constructor
  · intro givesRegion
    cases givesRegion with
    | own gives =>
        rw [gives_iff.mp gives, Option.some_or, Option.getD_some]
    | general notOwn gives =>
        rw [gives_iff.mp notOwn, gives_iff.mp gives, Option.none_or,
          Option.getD_some]
    | absent notOwn notGeneral =>
        rw [gives_iff.mp notOwn, gives_iff.mp notGeneral, Option.none_or,
          Option.getD_none]
  · rintro rfl
    cases own : value? values "CATALOG_AWS_REGION" with
    | some region => exact .own (gives_iff.mpr own)
    | none =>
        cases general : value? values "AWS_REGION" with
        | some region =>
            exact .general (gives_iff.mpr own) (gives_iff.mpr general)
        | none => exact .absent (gives_iff.mpr own) (gives_iff.mpr general)

/-- The endpoint of a service in a region. -/
def endpointIn (service region : String) : String :=
  "https://" ++ service ++ "." ++ region ++ ".amazonaws.com"

/-- Some values describe settings. -/
structure Describes (values : TextMap String) (settings : Settings) : Prop where
  /-- The address is the one that is written, or that of the own machine. -/
  bindAddress : Takes values "CATALOG_BIND_ADDR" IsAddress
    (.ipv4 0x7F000001 8080) settings.bindAddress
  /-- The region is the one that is given. -/
  region : GivesRegion values settings.region
  /-- The table is the one that is named. -/
  tableName : Takes values "CATALOG_TABLE_NAME" Eq "books" settings.tableName
  /-- The bucket is the one that is named. -/
  assetBucket : Takes values "CATALOG_ASSET_BUCKET" Eq
    "bookstore-images-bucket" settings.assetBucket
  /-- The endpoint of the store is the one that is given, or that in the
  region. -/
  storeEndpoint : Takes values "CATALOG_STORE_ENDPOINT" Eq
    (endpointIn "dynamodb" settings.region) settings.storeEndpoint
  /-- It is a URL of the web. -/
  storeOnWeb : IsWebAddress settings.storeEndpoint
  /-- The endpoint of the images is the one that is given, or that in the
  region. -/
  assetEndpoint : Takes values "CATALOG_ASSET_ENDPOINT" Eq
    (endpointIn "s3" settings.region) settings.assetEndpoint
  /-- It is a URL of the web. -/
  assetOnWeb : IsWebAddress settings.assetEndpoint
  /-- Links name the bucket in the path if a word says so. -/
  assetPathStyle : Takes values "CATALOG_ASSET_PATH_STYLE" IsSwitch false
    settings.assetPathStyle
  /-- The time limit of the store is the number that is written. -/
  storeTimeout : Takes values "CATALOG_STORE_TIMEOUT_MS"
    (IsPositive (Nat.pow 2 64)) 2000 settings.storeTimeout
  /-- The time limit of a lookup is the number that is written. -/
  requestTimeout : Takes values "CATALOG_REQUEST_TIMEOUT_MS"
    (IsPositive (Nat.pow 2 64)) 10000 settings.requestTimeout
  /-- The limit of a page is the number that is written. -/
  storePageLimit : Takes values "CATALOG_STORE_PAGE_LIMIT" IsLimit none
    settings.storePageLimit
  /-- The identity of the key is given. -/
  accessKeyId : Gives values "AWS_ACCESS_KEY_ID"
    (some settings.credentials.accessKeyId)
  /-- The secret is given. -/
  secretAccessKey : Gives values "AWS_SECRET_ACCESS_KEY"
    (some settings.credentials.secretAccessKey)
  /-- The token is given or not. -/
  sessionToken : Gives values "AWS_SESSION_TOKEN"
    settings.credentials.sessionToken

/-- An endpoint is read if it is a URL of the web. -/
theorem readEndpoint_eq_ok_iff
    {values : TextMap String}
    {key service region endpoint : String} :
    readEndpoint values key service region = .ok endpoint ↔
      Takes values key Eq (endpointIn service region) endpoint ∧
        IsWebAddress endpoint := by
  rw [takes_text_iff, ← isWebUrl_iff]
  unfold readEndpoint endpointIn
  dsimp only
  constructor
  · intro isRead
    split at isRead
    · rename_i onWeb
      obtain rfl := Except.ok.inj isRead
      exact ⟨rfl, onWeb⟩
    · cases isRead
  · rintro ⟨rfl, onWeb⟩
    exact if_pos onWeb

/-- A time limit is read if it is a positive number of 64 bits. -/
theorem readTimeout_eq_ok_iff
    {values : TextMap String}
    {key : String}
    {absent limit : Nat}
    (positive : 1 ≤ absent) :
    readTimeout values key absent = .ok limit ↔
      Takes values key (IsPositive (Nat.pow 2 64)) absent limit := by
  have checked : readTimeout values key absent = .ok limit ↔
      readOr values key (Decimal.readBelow? (Nat.pow 2 64) ·.toList)
        (.invalidInteger key) absent = .ok limit ∧ limit ≠ 0 := by
    unfold readTimeout
    constructor
    · intro isRead
      obtain ⟨found, isNumber, notZero⟩ := exists_of_bind_eq_ok isRead
      split at notZero
      · cases notZero
      · rename_i nonzero
        obtain rfl := Except.ok.inj notZero
        exact ⟨isNumber, nonzero⟩
    · rintro ⟨isNumber, nonzero⟩
      rw [isNumber]
      exact if_neg nonzero
  rw [checked, readOr_eq_ok_iff fun _ _ => Decimal.readBelow?_eq_some_iff]
  constructor
  · rintro ⟨takes, nonzero⟩
    cases takes with
    | absent gives => exact .absent gives
    | given gives standsFor =>
        obtain ⟨writes, below⟩ := standsFor
        exact .given gives ⟨writes, by omega, below⟩
  · intro takes
    cases takes with
    | absent gives => exact ⟨.absent gives, by omega⟩
    | given gives standsFor =>
        obtain ⟨writes, atLeast, below⟩ := standsFor
        exact ⟨.given gives ⟨writes, below⟩, by omega⟩

/-- Settings are accepted exactly if the values describe them. -/
theorem ofValues_eq_ok_iff_describes
    {values : TextMap String}
    {settings : Settings} :
    ofValues values = .ok settings ↔ Describes values settings := by
  rw [ofValues_eq_ok_iff]
  constructor
  · intro read
    obtain ⟨storeEndpoint, storeOnWeb⟩ :=
      readEndpoint_eq_ok_iff.mp read.storeEndpoint
    obtain ⟨assetEndpoint, assetOnWeb⟩ :=
      readEndpoint_eq_ok_iff.mp read.assetEndpoint
    obtain ⟨keyId, secret, token⟩ :=
      readCredentials_eq_ok_iff.mp read.credentials
    exact {
      bindAddress := (readOr_eq_ok_iff fun _ _ => Iff.rfl).mp read.bindAddress
      region := givesRegion_iff.mpr read.region
      tableName := takes_text_iff.mpr read.tableName
      assetBucket := takes_text_iff.mpr read.assetBucket
      storeEndpoint
      storeOnWeb
      assetEndpoint
      assetOnWeb
      assetPathStyle := (readOr_eq_ok_iff fun _ _ => switch?_eq_some_iff).mp
        read.assetPathStyle
      storeTimeout := (readTimeout_eq_ok_iff (by decide)).mp read.storeTimeout
      requestTimeout :=
        (readTimeout_eq_ok_iff (by decide)).mp read.requestTimeout
      storePageLimit :=
        (readOr_eq_ok_iff fun _ _ => map_pageLimit?_eq_some_iff).mp
          read.storePageLimit
      accessKeyId := gives_iff.mpr keyId
      secretAccessKey := gives_iff.mpr secret
      sessionToken := gives_iff.mpr token }
  · intro describes
    exact {
      bindAddress := (readOr_eq_ok_iff fun _ _ => Iff.rfl).mpr describes.bindAddress
      region := givesRegion_iff.mp describes.region
      tableName := takes_text_iff.mp describes.tableName
      assetBucket := takes_text_iff.mp describes.assetBucket
      storeEndpoint := readEndpoint_eq_ok_iff.mpr
        ⟨describes.storeEndpoint, describes.storeOnWeb⟩
      assetEndpoint := readEndpoint_eq_ok_iff.mpr
        ⟨describes.assetEndpoint, describes.assetOnWeb⟩
      assetPathStyle := (readOr_eq_ok_iff fun _ _ => switch?_eq_some_iff).mpr
        describes.assetPathStyle
      storeTimeout :=
        (readTimeout_eq_ok_iff (by decide)).mpr describes.storeTimeout
      requestTimeout :=
        (readTimeout_eq_ok_iff (by decide)).mpr describes.requestTimeout
      storePageLimit :=
        (readOr_eq_ok_iff fun _ _ => map_pageLimit?_eq_some_iff).mpr
          describes.storePageLimit
      credentials := readCredentials_eq_ok_iff.mpr
        ⟨gives_iff.mp describes.accessKeyId,
          gives_iff.mp describes.secretAccessKey,
          gives_iff.mp describes.sessionToken⟩ }

end Settings
end BookLookup
