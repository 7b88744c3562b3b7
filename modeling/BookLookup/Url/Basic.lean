import BookLookup.Address.Ipv6

/-!
# Addresses of resources

A URL names a scheme, perhaps a host with a port, a path, and perhaps a query
and a fragment. Scheme and host are in lower case, a port that the scheme
implies is left out, and the path, the query and the fragment are
percent-encoded.
-/

namespace BookLookup

/-- Where a resource is served. -/
inductive Host where
  | domain (name : String)
  | ipv4 (address : Nat)
  | ipv6 (groups : List Nat)
  deriving DecidableEq, Repr

/-- The text of a host. An IPv6 address stands in brackets. -/
def Host.text : Host -> String
  | domain name => name
  | ipv4 address => String.ofList (Ipv4.render address)
  | ipv6 groups => String.ofList ('[' :: (Ipv6.render groups ++ [']']))

/-- The address of a resource. -/
structure Url where
  /-- The scheme in lower case. -/
  scheme : String
  /-- The encoded user name, empty if there is none. -/
  username : String
  /-- The encoded password, empty if there is none. -/
  password : String
  /-- The host, if there is one. -/
  host : Option Host
  /-- The port, unless the scheme implies it. -/
  port : Option Nat
  /-- The encoded path. -/
  path : String
  /-- The encoded query, without its question mark. -/
  query : Option String
  /-- The encoded fragment, without its number sign. -/
  fragment : Option String
  deriving DecidableEq, Repr

/-- The host with its port. -/
def Url.authority? (url : Url) : Option String :=
  url.host.map fun host =>
    match url.port with
    | some port => host.text ++ ":" ++ Decimal.text port
    | none => host.text

/-- Why a text is no URL. -/
inductive UrlFault where
  | relativeWithoutBase
  | emptyHost
  /-- The port is no number below 65536. -/
  | invalidPort
  /-- The host ends in a number and is no IPv4 address. -/
  | invalidIpv4
  /-- The host is in brackets and is no IPv6 address. -/
  | invalidIpv6
  /-- The host is no domain name. -/
  | invalidDomain
  /-- The host holds a character that no host may hold. -/
  | invalidCharacter
  deriving DecidableEq, Repr

/-- The text of a fault. -/
def UrlFault.message : UrlFault -> String
  | relativeWithoutBase => "relative URL without a base"
  | emptyHost => "empty host"
  | invalidPort => "invalid port number"
  | invalidIpv4 => "invalid IPv4 address"
  | invalidIpv6 => "invalid IPv6 address"
  | invalidDomain => "invalid international domain name"
  | invalidCharacter => "invalid domain character"

/-- How the text of a URL is divided. -/
inductive SchemeKind where
  /-- A scheme of files on some machine. -/
  | file
  /-- A scheme whose URLs all have a host. -/
  | hosted
  /-- Any other scheme. -/
  | other
  deriving DecidableEq, Repr

namespace SchemeKind

/-- The kind of a scheme. -/
def ofScheme (scheme : String) : SchemeKind :=
  if scheme = "file" then file
  else if ["http", "https", "ws", "wss", "ftp"].contains scheme then hosted
  else other

/-- Whether a backslash divides like a slash. -/
def isSpecial : SchemeKind -> Bool
  | other => false
  | _ => true

/-- Whether a character ends the part of a URL that names host and port. -/
def endsAuthority (kind : SchemeKind) (symbol : Char) : Bool :=
  symbol == '/' || symbol == '?' || symbol == '#' ||
    (kind.isSpecial && symbol == '\\')

/-- Whether a character divides a path. -/
def dividesPath (kind : SchemeKind) (symbol : Char) : Bool :=
  symbol == '/' || (kind.isSpecial && symbol == '\\')

end SchemeKind

/-- The port that a scheme implies. -/
def defaultPort? (scheme : String) : Option Nat :=
  if scheme = "http" ∨ scheme = "ws" then some 80
  else if scheme = "https" ∨ scheme = "wss" then some 443
  else if scheme = "ftp" then some 21
  else none

end BookLookup
