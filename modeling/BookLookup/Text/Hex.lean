/-!
# Hexadecimal digits

Octets are written as two digits, in lower or in upper case; digits of either
case are read.
-/

namespace BookLookup
namespace Hex

/-- The lower-case digit of a value below sixteen. -/
def lowerDigit (value : Nat) : Char :=
  if value < 10 then Char.ofNat (0x30 + value) else Char.ofNat (0x57 + value)

/-- The upper-case digit of a value below sixteen. -/
def upperDigit (value : Nat) : Char :=
  if value < 10 then Char.ofNat (0x30 + value) else Char.ofNat (0x37 + value)

/-- The value of a digit in either case. -/
def digitValue? (symbol : Char) : Option Nat :=
  let code := symbol.toNat
  if 0x30 ≤ code ∧ code ≤ 0x39 then some (code - 0x30)
  else if 0x61 ≤ code ∧ code ≤ 0x66 then some (code - 0x57)
  else if 0x41 ≤ code ∧ code ≤ 0x46 then some (code - 0x37)
  else none

/-- Two lower-case digits for each octet. -/
def lower (octets : List UInt8) : List Char :=
  octets.flatMap fun octet =>
    [lowerDigit (octet.toNat / 16), lowerDigit (octet.toNat % 16)]

/-- Two upper-case digits for one octet. -/
def upperPair (octet : UInt8) : List Char :=
  [upperDigit (octet.toNat / 16), upperDigit (octet.toNat % 16)]

@[simp] theorem length_lower (octets : List UInt8) :
    (lower octets).length = 2 * octets.length := by
  induction octets with
  | nil => rfl
  | cons octet rest hypothesis =>
      simp only [lower, List.flatMap_cons, List.length_append] at hypothesis ⊢
      simp [hypothesis]; omega

/-- Octets in lower-case digits, as a string. -/
def text (octets : List UInt8) : String :=
  String.ofList (lower octets)

/-- Every symbol of written octets is a digit. -/
theorem exists_digit_of_mem_text
    {octets : List UInt8}
    {symbol : Char}
    (member : symbol ∈ (text octets).toList) :
    ∃ value < 16, symbol = lowerDigit value := by
  rw [text, String.toList_ofList] at member
  obtain ⟨octet, -, digit⟩ := List.mem_flatMap.mp member
  have below := octet.toNat_lt
  rw [List.mem_cons, List.mem_singleton] at digit
  rcases digit with high | low
  · exact ⟨_, by omega, high⟩
  · exact ⟨_, by omega, low⟩

/-- A number in hexadecimal, lower case, without leading zeros. -/
def digits (number : Nat) : List Char :=
  Nat.toDigits 16 number

/-- The octets written by pairs of digits. -/
def read? : List Char -> Option (List UInt8)
  | [] => some []
  | [_] => none
  | high :: low :: rest =>
      match digitValue? high, digitValue? low, read? rest with
      | some first, some second, some others =>
          some (UInt8.ofNat (16 * first + second) :: others)
      | _, _, _ => none

end Hex
end BookLookup
