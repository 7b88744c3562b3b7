import BookLookup.Text.Ranges
import BookLookup.Text.Unprintable
import BookLookup.Url.Folding.Shift
import BookLookup.Url.Folding.Spelling

/-!
# Simple forms of the characters of a host name

Characters that readers take for the same become the same in a host name: small
letters for capital ones, plain letters and digits for decorated ones. A few
characters that show nothing are dropped, and others may not stand in a name.
The tables are those of Unicode 17, with the characters added since that are
known to stand in names.
-/

namespace BookLookup
namespace Folding

/-- The ranges of the characters that are dropped. -/
def droppedRanges : List (Nat × Nat) := [
  (0xAD, 0xAD), (0x34F, 0x34F), (0x115F, 0x1160), (0x17B4, 0x17B5),
  (0x180B, 0x180F), (0x200B, 0x200B), (0x2060, 0x2064), (0x206A, 0x206F),
  (0x3164, 0x3164), (0xFE00, 0xFE0F), (0xFEFF, 0xFEFF), (0xFFA0, 0xFFA0),
  (0x1BCA0, 0x1BCA3), (0x1D173, 0x1D17A), (0xE0100, 0xE01EF)]

/-- The ranges of the characters that print and may yet not stand in a name:
those whose simple forms have a space or are mistaken for points between
labels, those that describe other characters, and the signs for a character
that is missing. -/
def refusedRanges : List (Nat × Nat) := [
  (0xA8, 0xA8), (0xAF, 0xAF), (0xB4, 0xB4), (0xB8, 0xB8), (0x2D8, 0x2DD),
  (0x37A, 0x37A), (0x384, 0x385), (0x1FBD, 0x1FBD), (0x1FBF, 0x1FC1),
  (0x1FCD, 0x1FCF), (0x1FDD, 0x1FDF), (0x1FED, 0x1FEE), (0x1FFD, 0x1FFE),
  (0x2017, 0x2017), (0x2024, 0x2026), (0x203E, 0x203E), (0x2488, 0x249B),
  (0x2FF0, 0x2FFF), (0x309B, 0x309C), (0x31EF, 0x31EF), (0x33C2, 0x33C2),
  (0x33C7, 0x33C7), (0x33D8, 0x33D8), (0xFC5E, 0xFC63), (0xFDFA, 0xFDFB),
  (0xFE12, 0xFE12), (0xFE19, 0xFE19), (0xFE30, 0xFE30), (0xFE49, 0xFE4C),
  (0xFE52, 0xFE52), (0xFE70, 0xFE70), (0xFE72, 0xFE72), (0xFE74, 0xFE74),
  (0xFE76, 0xFE76), (0xFE78, 0xFE78), (0xFE7A, 0xFE7A), (0xFE7C, 0xFE7C),
  (0xFE7E, 0xFE7E), (0xFFE3, 0xFFE3), (0xFFFC, 0xFFFD), (0x1F100, 0x1F100)]

/-- The ranges of the characters of later tables that stand in names: a Hebrew
mark, the Jurchen and the seal script. -/
def laterRanges : List (Nat × Nat) := [
  (0x5C8, 0x5C8), (0x18E00, 0x191FF), (0x3D000, 0x3FC3F)]

/-- Whether a character is dropped from a name. -/
def isDropped (symbol : Char) : Bool :=
  Ranges.contains droppedRanges symbol.toNat

/-- Whether a character may not stand in a name. The two joiners, which show
nothing, may. -/
def isRefused (symbol : Char) : Bool :=
  let code := symbol.toNat
  Ranges.contains refusedRanges code ||
    (Unprintable.isHidden symbol && !Ranges.contains laterRanges code &&
      code != 0x200C && code != 0x200D)

/-- The simple form of a character, or nothing if it may not stand in a
name. -/
def ofChar (symbol : Char) : Option (List Char) :=
  let code := symbol.toNat
  if code < 0x80 then some [symbol.toLower]
  else if isDropped symbol then some []
  else
    match shifts.findSome? (·.simple? code) with
    | some simple => some [simple]
    | none =>
        match spellings.findSome? (·.simple? code) with
        | some simple => some simple
        | none => if isRefused symbol then none else some [symbol]

/-- The simple forms of the characters of a text. -/
def ofText (text : List Char) : Option (List Char) :=
  (text.mapM ofChar).map List.flatten

end Folding
end BookLookup
