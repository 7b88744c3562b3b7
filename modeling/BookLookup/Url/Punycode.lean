/-!
# Labels beyond ASCII

A label is written in ASCII as its ASCII characters, a hyphen if there are any,
and one number for each other character, in increasing order of code points. A
number tells how many states, that is pairs of a code point and a place, are
passed over before the character is put in. Its digits have a base that adapts
to the numbers before it.
-/

namespace BookLookup
namespace Punycode

/-- The digit of a value below thirty-six: a letter, or a decimal digit. -/
def digit (value : Nat) : Char :=
  if value < 26 then Char.ofNat (0x61 + value)
  else Char.ofNat (0x30 + (value - 26))

/-- The value of a digit in either case. -/
def digitValue? (symbol : Char) : Option Nat :=
  let code := symbol.toNat
  if 0x61 ≤ code ∧ code ≤ 0x7A then some (code - 0x61)
  else if 0x41 ≤ code ∧ code ≤ 0x5A then some (code - 0x41)
  else if 0x30 ≤ code ∧ code ≤ 0x39 then some (code - 0x30 + 26)
  else none

/-- The bound below which a digit at a place ends a number: how far the place
is beyond the bias, but at least one and at most twenty-six. -/
def threshold (place bias : Nat) : Nat :=
  min 26 (max 1 (place - bias))

/-- A number can always end, and no digit is out of reach. -/
theorem threshold_mem_range (place bias : Nat) :
    0 < threshold place bias ∧ threshold place bias ≤ 26 := by
  unfold threshold
  omega

/-- The bias for the next number, from a number scaled down. -/
def settle (number bias : Nat) : Nat :=
  if 455 < number then settle (number / 35) (bias + 36)
  else bias + 36 * number / (number + 38)
termination_by number
decreasing_by omega

/-- The bias after a number, with the count of characters put in so far. -/
def adapt (number count : Nat) (first : Bool) : Nat :=
  let scaled := if first then number / 700 else number / 2
  settle (scaled + scaled / count) 0

/-- The digits of a number from a place on. -/
def numberDigits (bias place number : Nat) : List Char :=
  let bound := threshold place bias
  if number < bound then [digit number]
  else
    digit (bound + (number - bound) % (36 - bound)) ::
      numberDigits bias (place + 36) ((number - bound) / (36 - bound))
termination_by number
decreasing_by
  have bounds := threshold_mem_range place bias
  have quotient := Nat.div_le_self (number - threshold place bias)
    (36 - threshold place bias)
  omega

/-- The state of writing the numbers of a label. -/
structure Writing where
  /-- The digits so far. -/
  output : List Char
  /-- The states passed over since the last character. -/
  passed : Nat
  /-- The bias of the next number. -/
  bias : Nat
  /-- The characters put in so far. -/
  count : Nat

/-- Go past one character of the label while characters of a code point are
put in. -/
def Writing.step
    (basicCount code : Nat)
    (writing : Writing)
    (symbol : Char) : Writing :=
  if symbol.toNat < code then { writing with passed := writing.passed + 1 }
  else if symbol.toNat = code then
    { output := writing.output ++ numberDigits writing.bias 36 writing.passed
      passed := 0
      bias := adapt writing.passed (writing.count + 1)
        (writing.count = basicCount)
      count := writing.count + 1 }
  else writing

/-- Put in the characters of increasing code points. -/
def writeCodes
    (label : List Char)
    (basicCount : Nat) : List Nat -> Nat -> Writing -> Writing
  | [], _, writing => writing
  | code :: others, reached, writing =>
      let ahead :=
        { writing with
          passed := writing.passed + (code - reached) * (writing.count + 1) }
      let behind := label.foldl (Writing.step basicCount code) ahead
      writeCodes label basicCount others (code + 1)
        { behind with passed := behind.passed + 1 }

/-- The ASCII form of a label. -/
def encode (label : List Char) : List Char :=
  let basic := label.filter (·.toNat < 0x80)
  let codes :=
    (((label.filter (0x80 ≤ ·.toNat)).map Char.toNat).mergeSort).eraseDups
  basic ++ (if basic.isEmpty then [] else ['-']) ++
    (writeCodes label basic.length codes 0x80
      ⟨[], 0, 72, basic.length⟩).output

/-- The bound below which numbers and the weights of their digits have to
stay. -/
def limit : Nat := Nat.pow 2 32

/-- The number at the beginning of some digits, added to a number, and the
digits after it. -/
def readNumber?
    (bias place weight number : Nat) : List Char -> Option (Nat × List Char)
  | [] => none
  | symbol :: rest =>
      match digitValue? symbol with
      | none => none
      | some value =>
          let bound := threshold place bias
          let sum := number + value * weight
          let nextWeight := weight * (36 - bound)
          if limit ≤ sum then none
          else if value < bound then some (sum, rest)
          else if limit ≤ nextWeight then none
          else readNumber? bias (place + 36) nextWeight sum rest

/-- Put in the characters of the numbers that some digits write, within a
number of steps. -/
def readCodes? : Nat -> Nat -> Nat -> Nat -> List Char -> List Char ->
    Option (List Char)
  | _, _, _, _, output, [] => some output
  | 0, _, _, _, _, _ :: _ => none
  | steps + 1, bias, reached, place, output, digits =>
      match readNumber? bias 36 1 place digits with
      | none => none
      | some (number, rest) =>
          let count := output.length + 1
          let code := reached + number / count
          let index := number % count
          if code < 0xD800 ∨ (0xDFFF < code ∧ code < 0x110000) then
            readCodes? steps (adapt (number - place) count (place = 0)) code
              (index + 1) (output.insertIdx index (Char.ofNat code)) rest
          else none

/-- The label of an ASCII form. A hyphen that no character goes before is not a
digit. -/
def decode? (text : List Char) : Option (List Char) :=
  let digits := (text.reverse.takeWhile (· ≠ '-')).reverse
  let before := text.take (text.length - digits.length)
  let basic := before.dropLast
  if text.any (0x80 ≤ ·.toNat) || before == ['-'] then none
  else readCodes? digits.length 72 0x80 0 basic digits

end Punycode
end BookLookup
