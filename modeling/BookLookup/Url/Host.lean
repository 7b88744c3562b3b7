import BookLookup.PercentEncoding
import BookLookup.Url.Basic
import BookLookup.Url.Domain
import BookLookup.Url.NumericHost

/-!
# Reading the host of a URL

A host in brackets is an IPv6 address. Under a scheme whose URLs all have a
host, any other host is percent-decoded and read as a domain name, which is an
IPv4 address if its last part is a number. Under other schemes it is kept, with
controls and characters beyond ASCII percent-encoded.
-/

namespace BookLookup
namespace Host

/-- A text in brackets, the first of which has been read. -/
def ofBracketed (inside : List Char) : Except UrlFault Host :=
  if inside.getLast? = some ']' then
    match Ipv6.read? inside.dropLast with
    | some groups => .ok (.ipv6 groups)
    | none => .error .invalidIpv6
  else .error .invalidIpv6

/-- A domain name or an IPv4 address. -/
def ofName (text : List Char) : Except UrlFault Host :=
  match Utf8.decode? (PercentEncoding.decodeOctets (Utf8.encode text)) with
  | none => .error .invalidDomain
  | some name =>
      match Domain.ascii? name with
      | none => .error .invalidDomain
      | some [] => .error .emptyHost
      | some ascii =>
          if NumericHost.endsInNumber ascii then
            match NumericHost.read? ascii with
            | some address => .ok (.ipv4 address)
            | none => .error .invalidIpv4
          else .ok (.domain (String.ofList ascii))

/-- The host of a URL whose scheme divides hosts. -/
def ofSpecial : List Char -> Except UrlFault Host
  | '[' :: inside => ofBracketed inside
  | text => ofName text

/-- Whether a character may not stand in a host that is kept. -/
def isForbidden (symbol : Char) : Bool :=
  symbol.toNat == 0 || symbol == '\t' || symbol == '\n' || symbol == '\r' ||
    " #/:<>?@[\\]^|".toList.contains symbol

/-- Whether an octet is neither a control nor beyond ASCII. -/
def isPlain (octet : UInt8) : Bool :=
  0x20 ≤ octet.toNat && octet.toNat ≤ 0x7E

/-- The host of a URL of another scheme. -/
def ofOpaque : List Char -> Except UrlFault Host
  | '[' :: inside => ofBracketed inside
  | text =>
      if text.any isForbidden then .error .invalidCharacter
      else
        .ok (.domain (String.ofList (PercentEncoding.encodeWhere isPlain text)))

end Host
end BookLookup
