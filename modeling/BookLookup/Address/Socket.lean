import BookLookup.Address.Ipv6

/-!
# Addresses to listen at

An address is an IPv4 address, or an IPv6 address in brackets, with a port. An
IPv6 address may name its zone by a number after a percent sign; the zone zero
is not written. An IPv6 address that stands for an IPv4 address is written with
the latter at its end.
-/

namespace BookLookup

/-- An address with a port. -/
inductive SocketAddress where
  | ipv4 (address port : Nat)
  /-- An IPv6 address by its groups, with its zone. -/
  | ipv6 (groups : List Nat) (zone port : Nat)
  deriving DecidableEq, Repr

namespace SocketAddress

/-- The port that a text writes. -/
def port? (text : List Char) : Option Nat :=
  (Decimal.read? text).filter (· < 0x10000)

/-- The zone that a text writes. -/
def zone? (text : List Char) : Option Nat :=
  (Decimal.read? text).filter (· < 0x100000000)

/-- The IPv6 address and the zone between brackets. -/
def bracketed? (inside : List Char) : Option (List Nat × Nat) :=
  match Split.atFirst? '%' inside with
  | none => (Ipv6.read? inside).map fun groups => (groups, 0)
  | some (address, zone) => do
      let groups <- Ipv6.read? address
      let zone <- zone? zone
      return (groups, zone)

/-- The address that a text writes. -/
def read? : List Char -> Option SocketAddress
  | '[' :: rest =>
      match Split.atFirst? ']' rest with
      | some (inside, ':' :: port) => do
          let (groups, zone) <- bracketed? inside
          let port <- port? port
          return .ipv6 groups zone port
      | _ => none
  | text =>
      match Split.atFirst? ':' text with
      | some (address, port) => do
          let address <- Ipv4.read? address
          let port <- port? port
          return .ipv4 address port
      | none => none

/-- The IPv4 address that an IPv6 address stands for. -/
def mapped? : List Nat -> Option Nat
  | [0, 0, 0, 0, 0, 0xFFFF, high, low] => some (0x10000 * high + low)
  | _ => none

/-- The text of an IPv6 address. -/
def ipv6Text (groups : List Nat) : List Char :=
  match mapped? groups with
  | some address => "::ffff:".toList ++ Ipv4.render address
  | none => Ipv6.render groups

/-- The characters of an address. -/
def render : SocketAddress -> List Char
  | ipv4 address port => Ipv4.render address ++ ':' :: Decimal.digits port
  | ipv6 groups zone port =>
      '[' :: (ipv6Text groups ++
        (if zone = 0 then [] else '%' :: Decimal.digits zone) ++
        ']' :: ':' :: Decimal.digits port)

/-- The text of an address. -/
def text (address : SocketAddress) : String :=
  String.ofList address.render

end SocketAddress
end BookLookup
