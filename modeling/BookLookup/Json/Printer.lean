import BookLookup.Json.Basic
import BookLookup.Text.Hex

/-!
# Compact JSON text

No white space stands between the parts of a value. In a string, a quotation
mark and a backslash are escaped, five controls have a short escape, the other
controls below U+0020 are written with four lower-case hexadecimal digits, and
every other character is written as it is.
-/

namespace BookLookup
namespace Json

/-- The letter of the short escape of a character that has one. -/
def shortEscape? (symbol : Char) : Option Char :=
  if symbol = '"' then some '"'
  else if symbol = '\\' then some '\\'
  else if symbol.toNat = 0x08 then some 'b'
  else if symbol.toNat = 0x09 then some 't'
  else if symbol.toNat = 0x0A then some 'n'
  else if symbol.toNat = 0x0C then some 'f'
  else if symbol.toNat = 0x0D then some 'r'
  else none

/-- How a character is written between the quotation marks. -/
def escapeChar (symbol : Char) : List Char :=
  match shortEscape? symbol with
  | some letter => ['\\', letter]
  | none =>
      if symbol.toNat < 0x20 then
        ['\\', 'u', '0', '0', Hex.lowerDigit (symbol.toNat / 16),
          Hex.lowerDigit (symbol.toNat % 16)]
      else [symbol]

/-- How the characters of a text are written between the quotation marks. -/
def escape (text : List Char) : List Char :=
  text.flatMap escapeChar

@[simp] theorem escape_nil : escape [] = [] := rfl

@[simp] theorem escape_cons
    (symbol : Char)
    (rest : List Char) :
    escape (symbol :: rest) = escapeChar symbol ++ escape rest := rfl

/-- The literal of a text. -/
def quoted (text : String) : List Char :=
  '"' :: (escape text.toList ++ ['"'])

mutual

/-- The characters of a value. A value that names no text has no literal of its
own and is written as `null`. -/
def chars : Json -> List Char
  | null => "null".toList
  | bool true => "true".toList
  | bool false => "false".toList
  | number literal => literal.toList
  | string text => quoted text
  | array [] => "[]".toList
  | array (first :: others) =>
      '[' :: (chars first ++ moreElements others ++ [']'])
  | object [] => ['\x7b', '\x7d']
  | object ((name, first) :: others) =>
      '\x7b' :: (quoted name ++ ':' :: chars first ++ moreMembers others ++
        ['\x7d'])
  | unreadable => "null".toList

/-- The characters of the elements after the first. -/
def moreElements : List Json -> List Char
  | [] => []
  | next :: others => ',' :: (chars next ++ moreElements others)

/-- The characters of the members after the first. -/
def moreMembers : List (String × Json) -> List Char
  | [] => []
  | (name, next) :: others =>
      ',' :: (quoted name ++ ':' :: chars next ++ moreMembers others)

end

/-- The text of a value. -/
def render (value : Json) : String :=
  String.ofList value.chars

end Json
end BookLookup
