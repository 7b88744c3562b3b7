import BookLookup.Address.Socket
import BookLookup.AssetLink
import BookLookup.Settings.Fault
import BookLookup.Store.Client

/-!
# Settings

Settings are read from values by key. White space around a value does not
count, and a blank value counts as absent. Keys are checked in a fixed order
and the first fault is reported: the address to listen at, the two endpoints,
the style of links, the two time limits, the page limit, and the credentials.

The endpoints that are not given are those of the region.
-/

namespace BookLookup

/-- What the program is told to do. -/
structure Settings where
  /-- Where to listen. -/
  bindAddress : SocketAddress
  /-- The region of all services. -/
  region : String
  /-- The table of the books. -/
  tableName : String
  /-- The bucket of the images. -/
  assetBucket : String
  /-- The URL of the store. -/
  storeEndpoint : String
  /-- The URL of the service that keeps the images. -/
  assetEndpoint : String
  /-- Whether links name the bucket in the path. -/
  assetPathStyle : Bool
  /-- How many milliseconds an answer of the store may take. -/
  storeTimeout : Nat
  /-- How many items a page looks at. -/
  storePageLimit : Option Nat
  /-- How many milliseconds a lookup may take. -/
  requestTimeout : Nat
  /-- What requests and links are signed with. -/
  credentials : Credentials

namespace Settings

/-- The trimmed value of a key, unless it is absent or blank. -/
def value? (values : TextMap String) (key : String) : Option String :=
  (values.get? key).bind nonBlank?

/-- The value of a key read by a reader, or another value if it is absent. -/
def readOr
    {α : Type}
    (values : TextMap String)
    (key : String)
    (read? : String -> Option α)
    (fault : SettingsFault)
    (absent : α) : Except SettingsFault α :=
  match value? values key with
  | none => .ok absent
  | some text =>
      match read? text with
      | some value => .ok value
      | none => .error fault

/-- The address at which to listen if none is given. -/
def defaultBindAddress : SocketAddress :=
  .ipv4 0x7F000001 8080

/-- The address to listen at. -/
def readBindAddress
    (values : TextMap String) : Except SettingsFault SocketAddress :=
  readOr values "CATALOG_BIND_ADDR" (SocketAddress.read? ·.toList)
    (.invalidAddress "CATALOG_BIND_ADDR") defaultBindAddress

/-- The region. -/
def readRegion (values : TextMap String) : String :=
  ((value? values "CATALOG_AWS_REGION").or
    (value? values "AWS_REGION")).getD "us-west-1"

/-- Whether a text is a URL of the web with a host. -/
def isWebUrl (text : String) : Bool :=
  match Url.read text with
  | .ok url =>
      (url.scheme == "http" || url.scheme == "https") && url.host.isSome
  | .error _ => false

/-- The endpoint of a service: the one given, or else that of the region. -/
def readEndpoint
    (values : TextMap String)
    (key service region : String) : Except SettingsFault String :=
  let endpoint :=
    (value? values key).getD
      ("https://" ++ service ++ "." ++ region ++ ".amazonaws.com")
  if isWebUrl endpoint then .ok endpoint else .error (.invalidUrl key)

/-- The truth value that a word stands for. -/
def switch? (word : String) : Option Bool :=
  if ["1", "true", "TRUE", "yes", "YES"].contains word then some true
  else if ["0", "false", "FALSE", "no", "NO"].contains word then some false
  else none

/-- Whether links name the bucket in the path. -/
def readPathStyle (values : TextMap String) : Except SettingsFault Bool :=
  readOr values "CATALOG_ASSET_PATH_STYLE" switch?
    (.invalidSwitch "CATALOG_ASSET_PATH_STYLE") false

/-- A time limit in milliseconds, which is not zero. -/
def readTimeout
    (values : TextMap String)
    (key : String)
    (absent : Nat) : Except SettingsFault Nat := do
  let limit <-
    readOr values key (Decimal.readBelow? (Nat.pow 2 64) ·.toList)
      (.invalidInteger key) absent
  if limit = 0 then throw (.zero key) else return limit

/-- A number of items that a text writes. -/
def pageLimit? (text : String) : Option Nat :=
  (Decimal.readBelow? (Nat.pow 2 32) text.toList).filter (1 ≤ ·)

/-- How many items a page looks at. -/
def readPageLimit
    (values : TextMap String) : Except SettingsFault (Option Nat) :=
  readOr values "CATALOG_STORE_PAGE_LIMIT"
    (fun text => (pageLimit? text).map some)
    (.invalidLimit "CATALOG_STORE_PAGE_LIMIT") none

/-- A value that has to be given. -/
def readRequired
    (values : TextMap String)
    (key : String) : Except SettingsFault String :=
  match value? values key with
  | some value => .ok value
  | none => .error (.missing key)

/-- What requests and links are signed with. -/
def readCredentials
    (values : TextMap String) : Except SettingsFault Credentials := do
  let accessKeyId <- readRequired values "AWS_ACCESS_KEY_ID"
  let secretAccessKey <- readRequired values "AWS_SECRET_ACCESS_KEY"
  return {
    accessKeyId
    secretAccessKey
    sessionToken := value? values "AWS_SESSION_TOKEN" }

/-- The settings that values by key give. -/
def ofValues
    (values : TextMap String) : Except SettingsFault Settings := do
  let bindAddress <- readBindAddress values
  let region := readRegion values
  let storeEndpoint <-
    readEndpoint values "CATALOG_STORE_ENDPOINT" "dynamodb" region
  let assetEndpoint <-
    readEndpoint values "CATALOG_ASSET_ENDPOINT" "s3" region
  let assetPathStyle <- readPathStyle values
  let storeTimeout <- readTimeout values "CATALOG_STORE_TIMEOUT_MS" 2000
  let requestTimeout <-
    readTimeout values "CATALOG_REQUEST_TIMEOUT_MS" 10000
  let storePageLimit <- readPageLimit values
  let credentials <- readCredentials values
  return {
    bindAddress
    region
    tableName := (value? values "CATALOG_TABLE_NAME").getD "books"
    assetBucket :=
      (value? values "CATALOG_ASSET_BUCKET").getD "bookstore-images-bucket"
    storeEndpoint
    assetEndpoint
    assetPathStyle
    storeTimeout
    storePageLimit
    requestTimeout
    credentials }

/-- How the store is asked. -/
def store (settings : Settings) : StoreSettings where
  endpoint := settings.storeEndpoint
  region := settings.region
  tableName := settings.tableName
  credentials := settings.credentials
  timeout := .ofMilliseconds settings.storeTimeout
  pageLimit := settings.storePageLimit

/-- How links to images are made. -/
def assets (settings : Settings) : AssetSettings where
  bucket := settings.assetBucket
  region := settings.region
  endpoint := settings.assetEndpoint
  pathStyle := settings.assetPathStyle
  credentials := settings.credentials

/-- How long a lookup may take. -/
def lookupLimit (settings : Settings) : Duration :=
  .ofMilliseconds settings.requestTimeout

end Settings
end BookLookup
