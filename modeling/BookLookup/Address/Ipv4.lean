import BookLookup.Text.Decimal
import BookLookup.Text.Split

/-!
# IPv4 addresses

An address is a number below 2^32. Its text is four numbers up to 255, in
decimal without leading zeros, with points between them.
-/

namespace BookLookup
namespace Ipv4

/-- The octet written by a piece between points. -/
def octet? (piece : List Char) : Option Nat :=
  if 3 < piece.length ∨ (1 < piece.length ∧ piece.head? = some '0') then none
  else (Decimal.read? piece).filter (· < 256)

/-- The address that a text writes. -/
def read? (text : List Char) : Option Nat :=
  match (Split.pieces '.' text).mapM octet? with
  | some [first, second, third, fourth] =>
      some (0x1000000 * first + 0x10000 * second + 0x100 * third + fourth)
  | _ => none

/-- The text of an address. -/
def render (address : Nat) : List Char :=
  Decimal.digits (address / 0x1000000) ++ '.' ::
    Decimal.digits (address / 0x10000 % 0x100) ++ '.' ::
    Decimal.digits (address / 0x100 % 0x100) ++ '.' ::
    Decimal.digits (address % 0x100)

end Ipv4
end BookLookup
