import BookLookup.Signature.Authorization
import BookLookup.Url.Reader

/-!
# Links to images

An image is an object in a bucket. A link to it may be followed for a while by
anybody, because its query is signed. The bucket is named at the beginning of
the host, or, if the service asks for it, at the beginning of the path.

The endpoint of the service is a URL with a host and nothing after it.
-/

namespace BookLookup

/-- Why no link is made. -/
inductive LinkFault where
  | emptyKey
  | invalidEndpoint (detail : String)
  deriving DecidableEq, Repr

/-- The text of a fault. -/
def LinkFault.message : LinkFault -> String
  | emptyKey => "asset key must not be empty"
  | invalidEndpoint detail => "invalid asset endpoint: " ++ detail

/-- Where images are kept and with what links to them are signed. -/
structure AssetSettings where
  /-- The bucket of the images. -/
  bucket : String
  /-- The region of the service. -/
  region : String
  /-- The URL of the service. -/
  endpoint : String
  /-- Whether the bucket is named in the path. -/
  pathStyle : Bool
  /-- What links are signed with. -/
  credentials : Credentials

/-- A maker of links whose endpoint has been read. -/
structure LinkMaker where
  /-- The bucket of the images. -/
  bucket : String
  /-- The region of the service. -/
  region : String
  /-- The scheme of the links. -/
  scheme : String
  /-- The host of the service, with its port. -/
  endpointHost : String
  /-- Whether the bucket is named in the path. -/
  pathStyle : Bool
  /-- What links are signed with. -/
  credentials : Credentials

namespace LinkMaker

/-- The service that images are kept in. -/
def service : String := "s3"

/-- How long a link may be followed. -/
def validity : Duration := .ofSeconds 600

/-- The scheme and host of an endpoint. Of its faults, the scheme comes before
the path and the query, and these before the host. -/
def endpointParts (url : Url) : Except String (String × String) :=
  if url.scheme ≠ "http" ∧ url.scheme ≠ "https" then
    .error "scheme must be http or https"
  else if url.path ≠ "/" ∨ url.query.isSome then
    .error "endpoint must not carry a path or query"
  else
    match url.authority? with
    | none => .error "missing host"
    | some host => .ok (url.scheme, host)

/-- The scheme and host of an endpoint written as a text. -/
def readEndpoint (endpoint : String) : Except String (String × String) :=
  match Url.read endpoint with
  | .error fault => .error fault.message
  | .ok url => endpointParts url

/-- The maker of the links that some settings ask for. -/
def ofSettings (settings : AssetSettings) : Except LinkFault LinkMaker :=
  match readEndpoint settings.endpoint with
  | .error fault =>
      .error (.invalidEndpoint (settings.endpoint ++ ": " ++ fault))
  | .ok (scheme, endpointHost) =>
      .ok {
        bucket := settings.bucket
        region := settings.region
        scheme
        endpointHost
        pathStyle := settings.pathStyle
        credentials := settings.credentials }

/-- The host of every link. -/
def host (maker : LinkMaker) : String :=
  if maker.pathStyle then maker.endpointHost
  else maker.bucket ++ "." ++ maker.endpointHost

/-- The path of the link to an image. -/
def path (maker : LinkMaker) (key : String) : String :=
  let object := "/" ++ PercentEncoding.encode .kept key
  if maker.pathStyle then
    "/" ++ PercentEncoding.encode .encoded maker.bucket ++ object
  else object

/-- What the links made at an instant are bound to. -/
def scope (maker : LinkMaker) (time : Instant) : Scope :=
  ⟨maker.region, service, time⟩

/-- The link to an image, made at an instant and valid for a while. -/
def link
    (maker : LinkMaker)
    (time : Instant)
    (validity : Duration)
    (key : String) : Except LinkFault String :=
  if key = "" then .error .emptyKey
  else
    .ok (maker.scheme ++ "://" ++ maker.host ++ maker.path key ++ "?" ++
      Signature.linkQuery maker.credentials (maker.scope time) maker.host
        (maker.path key) validity)

end LinkMaker
end BookLookup
