import BookLookup.Text.Hex
import BookLookup.Text.Split

/-!
# Hosts that are numbers

A host whose last part is a number is an IPv4 address. It has up to four parts
between points, each decimal, octal after a zero or hexadecimal after `0x`; the
last part gives all the octets that the others leave.
-/

namespace BookLookup
namespace NumericHost

/-- The digits of a part and their base. -/
def digitsAndBase (part : List Char) : List Char × Nat :=
  match part with
  | '0' :: 'x' :: digits => (digits, 16)
  | '0' :: 'X' :: digits => (digits, 16)
  | '0' :: first :: others => (first :: others, 8)
  | digits => (digits, 10)

/-- The number written by digits of a base. No digits write zero. -/
def value? (base : Nat) (digits : List Char) : Option Nat :=
  digits.foldlM (fun value symbol =>
    ((Hex.digitValue? symbol).filter (· < base)).map fun digit =>
      base * value + digit) 0

/-- The number written by a part, which is not empty. -/
def part? (part : List Char) : Option Nat :=
  if part.isEmpty then none
  else
    let (digits, base) := digitsAndBase part
    value? base digits

/-- The parts of a host between points, without an empty last one. -/
def parts (host : List Char) : List (List Char) :=
  let pieces := Split.pieces '.' host
  if pieces.getLast? = some [] then pieces.dropLast else pieces

/-- Whether the last part of a host is a number. -/
def endsInNumber (host : List Char) : Bool :=
  match (parts host).getLast? with
  | none => false
  | some last =>
      (!last.isEmpty && last.all Char.isDigit) || (part? last).isSome

/-- The address of numbers, of which the last gives the octets that the others
leave. -/
def address? (numbers : List Nat) : Option Nat :=
  match numbers.getLast? with
  | none => none
  | some last =>
      let front := numbers.dropLast
      if 3 < front.length ∨ front.any (255 < ·) ∨
          Nat.pow 256 (4 - front.length) ≤ last then none
      else
        some (front.zipIdx.foldl (fun total (number, index) =>
          total + number * Nat.pow 256 (3 - index)) last)

/-- The address that a host writes. -/
def read? (host : List Char) : Option Nat :=
  ((parts host).mapM part?).bind address?

end NumericHost
end BookLookup
