import BookLookup.Text.Hex
import BookLookup.Text.Utf8

/-!
# Percent encoding

A text is written octet by octet. Letters, digits and the four marks `-`, `_`,
`.`, `~` stand for themselves, a slash does so where it separates the parts of
a path, and every other octet is a percent sign with two upper-case digits.
Reading replaces every percent sign that two digits of either case follow and
keeps everything else.
-/

namespace BookLookup
namespace PercentEncoding

/-- What becomes of a slash. -/
inductive Slash where
  /-- It stands for itself. -/
  | kept
  /-- It is written as an octet. -/
  | encoded
  deriving DecidableEq, Repr

/-- Whether an octet stands for itself wherever it occurs. -/
def isUnreserved (octet : UInt8) : Bool :=
  let code := octet.toNat
  (0x41 ≤ code && code ≤ 0x5A) || (0x61 ≤ code && code ≤ 0x7A) ||
    (0x30 ≤ code && code ≤ 0x39) || code == 0x2D || code == 0x5F ||
    code == 0x2E || code == 0x7E

/-- Whether an octet stands for itself. -/
def isKept (slash : Slash) (octet : UInt8) : Bool :=
  isUnreserved octet || (slash == .kept && octet == 0x2F)

/-- An octet as a percent sign and two digits. -/
def escapeOctet (octet : UInt8) : List Char :=
  '%' :: Hex.upperPair octet

/-- How an octet is written when some octets stand for themselves. -/
def encodeOctet (keeps : UInt8 -> Bool) (octet : UInt8) : List Char :=
  if keeps octet then [Char.ofNat octet.toNat] else escapeOctet octet

/-- How a text is written when some octets stand for themselves. -/
def encodeWhere (keeps : UInt8 -> Bool) (text : List Char) : List Char :=
  (Utf8.encode text).flatMap (encodeOctet keeps)

/-- How the characters of a text are written. -/
def encodeChars (slash : Slash) (text : List Char) : List Char :=
  encodeWhere (isKept slash) text

@[simp] theorem encodeChars_nil (slash : Slash) :
    encodeChars slash [] = [] := rfl

@[simp] theorem encodeChars_append
    (slash : Slash)
    (front back : List Char) :
    encodeChars slash (front ++ back) =
      encodeChars slash front ++ encodeChars slash back := by
  simp [encodeChars, encodeWhere]

/-- How a text is written. -/
def encode (slash : Slash) (text : String) : String :=
  String.ofList (encodeChars slash text.toList)

/-- The octet of two digits. -/
def octetOfDigits? (high low : UInt8) : Option UInt8 := do
  let high <- Hex.digitValue? (Char.ofNat high.toNat)
  let low <- Hex.digitValue? (Char.ofNat low.toNat)
  return UInt8.ofNat (16 * high + low)

/-- The octets that percent-encoded octets stand for. -/
def decodeOctets : List UInt8 -> List UInt8
  | [] => []
  | first :: rest =>
      if first = 0x25 then
        match rest with
        | high :: low :: others =>
            match octetOfDigits? high low with
            | some octet => octet :: decodeOctets others
            | none => first :: decodeOctets (high :: low :: others)
        | short => first :: short
      else first :: decodeOctets rest

end PercentEncoding
end BookLookup
