import BookLookup.Text.Hex
import BookLookup.Text.Mark
import BookLookup.Text.Unprintable

/-!
# Texts shown with escapes

A text is shown between quotation marks. Quotation marks and backslashes in it
are escaped, the null character, tab, line feed and carriage return have a
short escape, and any other character that does not print or that extends the
one before it is shown as the hexadecimal digits of its code point in braces.
-/

namespace BookLookup
namespace Escaped

/-- How a character is shown. -/
def showChar (symbol : Char) : List Char :=
  if symbol = '"' then ['\\', '"']
  else if symbol = '\\' then ['\\', '\\']
  else if symbol.toNat = 0 then ['\\', '0']
  else if symbol = '\t' then ['\\', 't']
  else if symbol = '\n' then ['\\', 'n']
  else if symbol = '\r' then ['\\', 'r']
  else if symbol.toNat < 0x20 || Unprintable.isHidden symbol ||
      Unprintable.isFiller symbol || Mark.isExtending symbol then
    ['\\', 'u', '\x7b'] ++ Hex.digits symbol.toNat ++ ['\x7d']
  else [symbol]

/-- How a text is shown. -/
def quoted (text : String) : List Char :=
  '"' :: (text.toList.flatMap showChar ++ ['"'])

end Escaped
end BookLookup
