import BookLookup.Json.Basic
import BookLookup.Text.Utf8

/-!
# Reading JSON text

Text is read as a sequence of units: characters, and stretches of octets that
are no character. The grammar is the standard one: white space is space, tab,
line feed and carriage return, a control below U+0020 may not stand in a
string, and nothing but white space may follow the value. How deep values nest
is not bounded here.

A string literal is first read as pieces, one for each unit or escape, and
then put together: two escapes that give a leading and a trailing surrogate
are one character.
-/

namespace BookLookup
namespace Json

/-- A unit of input: a character, or octets that are no character. -/
abbrev InputUnit := Option Char

/-- White space between the parts of a value. -/
def isSpace : InputUnit -> Bool
  | some symbol =>
      symbol == ' ' || symbol == '\n' || symbol == '\t' || symbol == '\r'
  | none => false

/-- The input after the white space at its beginning. -/
def skipSpace (input : List InputUnit) : List InputUnit :=
  input.dropWhile isSpace

/-- What one unit or escape of a string literal gives. -/
inductive Piece where
  | symbol (symbol : Char)
  /-- A sixteen-bit unit written by an escape. -/
  | unit (value : Nat)
  /-- Octets that are no character. -/
  | illFormed

/-- The character of an escape with one letter. -/
def shortEscapeValue? (letter : Char) : Option Char :=
  if letter = '"' then some '"'
  else if letter = '\\' then some '\\'
  else if letter = '/' then some '/'
  else if letter = 'b' then some (Char.ofNat 0x08)
  else if letter = 'f' then some (Char.ofNat 0x0C)
  else if letter = 'n' then some '\n'
  else if letter = 'r' then some '\r'
  else if letter = 't' then some '\t'
  else none

/-- The value of four hexadecimal digits. -/
def unitValue? (first second third fourth : InputUnit) : Option Nat := do
  let first <- Hex.digitValue? (<- first)
  let second <- Hex.digitValue? (<- second)
  let third <- Hex.digitValue? (<- third)
  let fourth <- Hex.digitValue? (<- fourth)
  return 4096 * first + 256 * second + 16 * third + fourth

/-- The pieces of a string literal whose opening mark has been read, and the
input after its closing mark. -/
def literal? : List InputUnit -> Option (List Piece × List InputUnit)
  | [] => none
  | some '"' :: rest => some ([], rest)
  | some '\\' :: some 'u' :: first :: second :: third :: fourth :: rest => do
      let value <- unitValue? first second third fourth
      let (pieces, after) <- literal? rest
      return (.unit value :: pieces, after)
  | some '\\' :: some letter :: rest => do
      let symbol <- shortEscapeValue? letter
      let (pieces, after) <- literal? rest
      return (.symbol symbol :: pieces, after)
  | none :: rest => do
      let (pieces, after) <- literal? rest
      return (.illFormed :: pieces, after)
  | some symbol :: rest =>
      if symbol = '\\' ∨ symbol.toNat < 0x20 then none
      else do
        let (pieces, after) <- literal? rest
        return (.symbol symbol :: pieces, after)

/-- The text that pieces name, if they name one. -/
def textOfPieces? : List Piece -> Option (List Char)
  | [] => some []
  | .symbol symbol :: rest => (textOfPieces? rest).map (symbol :: ·)
  | .unit high :: .unit low :: rest =>
      if 0xD800 ≤ high ∧ high < 0xDC00 then
        if 0xDC00 ≤ low ∧ low < 0xE000 then
          (textOfPieces? rest).map
            (Char.ofNat (0x10000 + 0x400 * (high - 0xD800) + (low - 0xDC00)) :: ·)
        else none
      else if 0xDC00 ≤ high ∧ high < 0xE000 then none
      else (textOfPieces? (.unit low :: rest)).map (Char.ofNat high :: ·)
  | .unit value :: rest =>
      if 0xD800 ≤ value ∧ value < 0xE000 then none
      else (textOfPieces? rest).map (Char.ofNat value :: ·)
  | .illFormed :: _ => none

/-- The string literal whose opening mark has been read: its text, if it names
one, and the input after it. -/
def string? (input : List InputUnit) : Option (Option String × List InputUnit) := do
  let (pieces, after) <- literal? input
  return ((textOfPieces? pieces).map String.ofList, after)

/-- Whether a unit is an ASCII digit. -/
def isDigit : InputUnit -> Bool
  | some symbol => '0' ≤ symbol && symbol ≤ '9'
  | none => false

/-- The digits at the beginning of the input. -/
def leadingDigits (input : List InputUnit) : List Char × List InputUnit :=
  ((input.takeWhile isDigit).filterMap id, input.dropWhile isDigit)

/-- The whole part of a number: zero alone, or digits that begin with another
digit. -/
def wholePart? (input : List InputUnit) : Option (List Char × List InputUnit) :=
  match input with
  | some '0' :: rest =>
      if (rest.head?.map isDigit).getD false then none else some (['0'], rest)
  | other =>
      match leadingDigits other with
      | ([], _) => none
      | (digits, rest) => some (digits, rest)

/-- The fraction of a number, which may be absent. -/
def fraction? (input : List InputUnit) : Option (List Char × List InputUnit) :=
  match input with
  | some '.' :: rest =>
      match leadingDigits rest with
      | ([], _) => none
      | (digits, after) => some ('.' :: digits, after)
  | other => some ([], other)

/-- The sign of an exponent, which may be absent. -/
def exponentSign (input : List InputUnit) : List Char × List InputUnit :=
  match input with
  | some '+' :: rest => (['+'], rest)
  | some '-' :: rest => (['-'], rest)
  | other => ([], other)

/-- The exponent of a number after its letter. -/
def exponentDigits?
    (letter : Char)
    (input : List InputUnit) : Option (List Char × List InputUnit) :=
  let (sign, unsigned) := exponentSign input
  match leadingDigits unsigned with
  | ([], _) => none
  | (digits, after) => some (letter :: sign ++ digits, after)

/-- The exponent of a number, which may be absent. -/
def exponent? (input : List InputUnit) : Option (List Char × List InputUnit) :=
  match input with
  | some 'e' :: rest => exponentDigits? 'e' rest
  | some 'E' :: rest => exponentDigits? 'E' rest
  | other => some ([], other)

/-- The sign of a number, which may be absent. -/
def numberSign (input : List InputUnit) : List Char × List InputUnit :=
  match input with
  | some '-' :: rest => (['-'], rest)
  | other => ([], other)

/-- A number at the beginning of the input. -/
def number? (input : List InputUnit) : Option (Json × List InputUnit) := do
  let (sign, unsigned) := numberSign input
  let (whole, afterWhole) <- wholePart? unsigned
  let (fraction, afterFraction) <- fraction? afterWhole
  let (exponent, rest) <- exponent? afterFraction
  return (.number (String.ofList (sign ++ whole ++ fraction ++ exponent)), rest)

/-- The input after a word at its beginning. -/
def afterWord? : List Char -> List InputUnit -> Option (List InputUnit)
  | [], rest => some rest
  | _ :: _, [] => none
  | letter :: word, unit :: rest =>
      if unit = some letter then afterWord? word rest else none

/-- The object of some members, unless a name of theirs is no text. -/
def ofMembers (members : List (Option String × Json)) : Json :=
  match members.mapM fun member => member.1.map fun name => (name, member.2) with
  | some named => .object named
  | none => .unreadable

mutual

/-- The value at the beginning of the input and what follows it, within a
number of steps. -/
def value? : Nat -> List InputUnit -> Option (Json × List InputUnit)
  | 0, _ => none
  | steps + 1, input =>
      match skipSpace input with
      | some 'n' :: rest =>
          (afterWord? "ull".toList rest).map fun after => (.null, after)
      | some 't' :: rest =>
          (afterWord? "rue".toList rest).map fun after => (.bool true, after)
      | some 'f' :: rest =>
          (afterWord? "alse".toList rest).map fun after => (.bool false, after)
      | some '"' :: rest =>
          (string? rest).map fun (text?, after) =>
            ((text?.map Json.string).getD .unreadable, after)
      | some '[' :: rest =>
          match skipSpace rest with
          | some ']' :: after => some (.array [], after)
          | other =>
              (elements? steps other).map fun (elements, after) =>
                (.array elements, after)
      | some '\x7b' :: rest =>
          match skipSpace rest with
          | some '\x7d' :: after => some (.object [], after)
          | other =>
              (members? steps other).map fun (members, after) =>
                (ofMembers members, after)
      | other => number? other

/-- The elements of an array that has some, and what follows its bracket. -/
def elements? : Nat -> List InputUnit -> Option (List Json × List InputUnit)
  | 0, _ => none
  | steps + 1, input =>
      match value? steps input with
      | none => none
      | some (first, rest) =>
          match skipSpace rest with
          | some ']' :: after => some ([first], after)
          | some ',' :: more =>
              (elements? steps more).map fun (others, after) =>
                (first :: others, after)
          | _ => none

/-- The members of an object that has some, and what follows its brace. -/
def members? : Nat -> List InputUnit -> Option (List (Option String × Json) × List InputUnit)
  | 0, _ => none
  | steps + 1, input =>
      match skipSpace input with
      | some '"' :: nameInput =>
          match string? nameInput with
          | none => none
          | some (name?, afterName) =>
              match skipSpace afterName with
              | some ':' :: valueInput =>
                  match value? steps valueInput with
                  | none => none
                  | some (first, rest) =>
                      match skipSpace rest with
                      | some '\x7d' :: after => some ([(name?, first)], after)
                      | some ',' :: more =>
                          (members? steps more).map fun (others, after) =>
                            ((name?, first) :: others, after)
                      | _ => none
              | _ => none
      | _ => none

end

/-- The value that some input writes, if it writes one. Every step but the last
uses up a unit, or goes from a sequence to its first part. -/
def readUnits? (input : List InputUnit) : Option Json :=
  match value? (2 * input.length + 2) input with
  | some (value, rest) => if skipSpace rest = [] then some value else none
  | none => none

/-- The value that a text writes, if it writes one. -/
def read? (text : String) : Option Json :=
  readUnits? (text.toList.map some)

/-- The value that octets write, if they write one. -/
def readOctets? (octets : List UInt8) : Option Json :=
  readUnits? (Utf8.units octets)

end Json
end BookLookup
