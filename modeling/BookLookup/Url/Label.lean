import BookLookup.Text.Composed
import BookLookup.Text.Direction
import BookLookup.Text.Joining
import BookLookup.Url.Folding
import BookLookup.Url.Punycode

/-!
# Labels of a domain name

A label in ASCII stands for itself, unless it has the mark `xn--`: then it
stands for a label with other characters, whose ASCII form follows the mark.
That label has to be one that nothing would change. A label with other
characters is written in ASCII behind the mark.
-/

namespace BookLookup

/-- A label of a domain name. -/
structure Label where
  /-- The characters that the label stands for. -/
  symbols : List Char
  /-- The label in ASCII. -/
  ascii : List Char

namespace Label

/-- Whether a character is ASCII. -/
def isAscii (symbol : Char) : Bool :=
  symbol.toNat < 0x80

/-- Whether an ASCII character may not stand in a label. -/
def isForbidden (symbol : Char) : Bool :=
  symbol.toNat ≤ 0x20 || symbol.toNat == 0x7F ||
    "%#/:<>?@[\\]^|".toList.contains symbol

/-- The mark of a label that stands for another one. -/
def asciiMark : List Char := "xn--".toList

/-- The greatest number of characters that a label with the mark stands for. -/
def maxSymbols : Nat := 1000

/-- The greatest number of characters behind the mark of a label. -/
def maxEncoded : Nat := 2000

/-- The simple and composed form of a text. -/
def normal? (text : List Char) : Option (List Char) :=
  (Folding.ofText text).map fun simple =>
    if simple.all isAscii then simple else Composed.ofText simple

/-- Whether some characters may be a label that is not ASCII: they are not too
many, none is forbidden, the first is not a mark, and every joiner has a
meaning. -/
def isWellFormed (symbols : List Char) : Bool :=
  symbols.length ≤ maxSymbols && !symbols.any isForbidden &&
    !symbols.head?.any Mark.isMark && Joining.allMeant symbols

/-- Whether some characters are what a label with the mark may stand for: they
are in normal form, a well-formed label, and not all ASCII. -/
def isEncodable (symbols : List Char) : Bool :=
  Folding.ofText symbols == some symbols && Composed.ofText symbols == symbols &&
    isWellFormed symbols && !symbols.contains '.' && !symbols.all isAscii

/-- The label with the mark before some characters. -/
def ofMarked? (encoded : List Char) : Option Label :=
  if encoded.length ≤ maxEncoded then
    match Punycode.decode? encoded with
    | some symbols =>
        if isEncodable symbols then some ⟨symbols, asciiMark ++ encoded⟩
        else none
    | none => none
  else none

/-- The label of a text in normal form. -/
def ofNormal? (text : List Char) : Option Label :=
  if text.all isAscii then
    if asciiMark.isPrefixOf text then ofMarked? (text.drop asciiMark.length)
    else if text.any isForbidden then none
    else some ⟨text, text⟩
  else if isWellFormed text && !asciiMark.isPrefixOf text then
    some ⟨text, asciiMark ++ Punycode.encode text⟩
  else none

/-- The directions of the characters that a label stands for. -/
def directions (label : Label) : List Direction :=
  label.symbols.map Direction.ofChar

end Label
end BookLookup
