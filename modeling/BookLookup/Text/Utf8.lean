/-!
# UTF-8

A character is written as one to four octets. Reading cuts a sequence of
octets into units: a unit is a character, or a stretch that begins no
character. Such a stretch is one octet that can begin nothing, or the longest
start of a character that the octets after it do not continue. Strict reading
refuses such a stretch and lenient reading puts U+FFFD in its place.
-/

namespace BookLookup
namespace Utf8

/-- The octets of one character. -/
def encodeChar (symbol : Char) : List UInt8 :=
  let code := symbol.toNat
  if code < 0x80 then [UInt8.ofNat code]
  else if code < 0x800 then
    [UInt8.ofNat (0xC0 + code / 0x40), UInt8.ofNat (0x80 + code % 0x40)]
  else if code < 0x10000 then
    [UInt8.ofNat (0xE0 + code / 0x1000),
      UInt8.ofNat (0x80 + code / 0x40 % 0x40),
      UInt8.ofNat (0x80 + code % 0x40)]
  else
    [UInt8.ofNat (0xF0 + code / 0x40000),
      UInt8.ofNat (0x80 + code / 0x1000 % 0x40),
      UInt8.ofNat (0x80 + code / 0x40 % 0x40),
      UInt8.ofNat (0x80 + code % 0x40)]

/-- The octets of a text. -/
def encode (text : List Char) : List UInt8 :=
  text.flatMap encodeChar

@[simp] theorem encode_nil : encode [] = [] := rfl

@[simp] theorem encode_cons
    (symbol : Char)
    (rest : List Char) :
    encode (symbol :: rest) = encodeChar symbol ++ encode rest := rfl

@[simp] theorem encode_append (front back : List Char) :
    encode (front ++ back) = encode front ++ encode back := by
  simp [encode]

/-- What a first octet announces: how many octets follow it, between which
bounds the second one lies, and the leading bits of the code point. -/
structure Lead where
  /-- Number of octets that follow. -/
  tails : Nat
  /-- Least second octet. -/
  low : Nat
  /-- Greatest second octet. -/
  high : Nat
  /-- The bits that the first octet gives to the code point. -/
  bits : Nat

/-- What an octet announces when it stands first, if it can. -/
def lead? (octet : UInt8) : Option Lead :=
  let code := octet.toNat
  if code < 0x80 then some ⟨0, 0x80, 0xBF, code⟩
  else if code < 0xC2 then none
  else if code < 0xE0 then some ⟨1, 0x80, 0xBF, code - 0xC0⟩
  else if code = 0xE0 then some ⟨2, 0xA0, 0xBF, 0⟩
  else if code = 0xED then some ⟨2, 0x80, 0x9F, 0x0D⟩
  else if code < 0xF0 then some ⟨2, 0x80, 0xBF, code - 0xE0⟩
  else if code = 0xF0 then some ⟨3, 0x90, 0xBF, 0⟩
  else if code < 0xF4 then some ⟨3, 0x80, 0xBF, code - 0xF0⟩
  else if code = 0xF4 then some ⟨3, 0x80, 0x8F, 4⟩
  else none

/-- The code point completed by a number of further octets, if they continue
it, and the octets that were not used. -/
def readTails
    (count low high bits : Nat) : List UInt8 -> Option Nat × List UInt8
  | octets =>
      match count, octets with
      | 0, rest => (some bits, rest)
      | _ + 1, [] => (none, [])
      | remaining + 1, octet :: rest =>
          if low ≤ octet.toNat ∧ octet.toNat ≤ high then
            readTails remaining 0x80 0xBF (0x40 * bits + (octet.toNat - 0x80))
              rest
          else (none, octet :: rest)

/-- Completing a character never adds octets. -/
theorem length_readTails_le
    (count low high bits : Nat)
    (octets : List UInt8) :
    (readTails count low high bits octets).2.length ≤ octets.length := by
  induction count generalizing low high bits octets with
  | zero => simp [readTails]
  | succ remaining hypothesis =>
      cases octets with
      | nil => simp [readTails]
      | cons octet rest =>
          rw [readTails]
          split
          · exact Nat.le_succ_of_le (hypothesis _ _ _ _)
          · simp

/-- The first unit of a non-empty sequence and the octets after it. -/
def firstUnit (octet : UInt8) (rest : List UInt8) : Option Char × List UInt8 :=
  match lead? octet with
  | none => (none, rest)
  | some lead =>
      let (code?, others) := readTails lead.tails lead.low lead.high lead.bits rest
      (code?.map Char.ofNat, others)

theorem length_firstUnit_le
    (octet : UInt8)
    (rest : List UInt8) :
    (firstUnit octet rest).2.length ≤ rest.length := by
  unfold firstUnit
  split
  · simp
  · exact length_readTails_le _ _ _ _ _

/-- The units of a sequence of octets: characters, and none for a stretch that
begins no character. -/
def units : List UInt8 -> List (Option Char)
  | [] => []
  | octet :: rest =>
      (firstUnit octet rest).1 :: units (firstUnit octet rest).2
termination_by octets => octets.length
decreasing_by
  exact Nat.lt_succ_of_le (length_firstUnit_le octet rest)

/-- The text of a sequence of units, if all of them are characters. -/
def allChars : List (Option Char) -> Option (List Char)
  | [] => some []
  | none :: _ => none
  | some symbol :: rest => (allChars rest).map (symbol :: ·)

/-- The text that octets write, if they write one. -/
def decode? (octets : List UInt8) : Option (List Char) :=
  allChars (units octets)

/-- The text that octets write, with U+FFFD for every stretch that begins no
character. -/
def decodeLossy (octets : List UInt8) : List Char :=
  (units octets).map (·.getD (Char.ofNat 0xFFFD))

/-- The octets of a string. -/
def octets (text : String) : List UInt8 :=
  encode text.toList

end Utf8
end BookLookup
