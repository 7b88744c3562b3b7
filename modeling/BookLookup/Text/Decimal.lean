/-!
# Natural numbers in decimal

Writing a number without leading zeros or with a least width, and reading one
back. A reader takes ASCII digits only, any number of leading zeros, and
refuses the empty text.
-/

namespace BookLookup
namespace Decimal

/-- A number in decimal, without leading zeros. -/
def digits (number : Nat) : List Char :=
  Nat.toDigits 10 number

/-- A number in decimal, filled with zeros on the left up to a width. -/
def padded (width number : Nat) : List Char :=
  List.replicate (width - (digits number).length) '0' ++ digits number

/-- A number in decimal, as a string. -/
def text (number : Nat) : String :=
  String.ofList (digits number)

/-- The value of an ASCII digit. -/
def digitValue? (symbol : Char) : Option Nat :=
  if '0' ≤ symbol ∧ symbol ≤ '9' then some (symbol.toNat - '0'.toNat) else none

/-- The number written by a sequence of digits after a part already read. -/
def readFrom (value : Nat) : List Char -> Option Nat
  | [] => some value
  | symbol :: rest =>
      match digitValue? symbol with
      | some digit => readFrom (10 * value + digit) rest
      | none => none

/-- The number written by a non-empty sequence of digits. -/
def read? : List Char -> Option Nat
  | [] => none
  | symbol :: rest => readFrom 0 (symbol :: rest)

/-- A number below a bound, written with an optional plus sign. -/
def readBelow? (bound : Nat) (text : List Char) : Option Nat :=
  let unsigned :=
    match text with
    | '+' :: rest => rest
    | other => other
  (read? unsigned).filter (· < bound)

end Decimal
end BookLookup
