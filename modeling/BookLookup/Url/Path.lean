import BookLookup.PercentEncoding
import BookLookup.Text.Split
import BookLookup.Url.Basic

/-!
# Encoding the parts of a URL

A path is a sequence of segments, each after a slash. A segment of one point
stands for the place where it is and a segment of two for the place above; the
points may be percent-encoded. Such segments are resolved and not kept.
-/

namespace BookLookup
namespace Url

/-- Whether an octet is neither a control nor beyond ASCII, and none of some
characters. -/
def keepsExcept (encoded : List Char) (octet : UInt8) : Bool :=
  0x20 ≤ octet.toNat && octet.toNat ≤ 0x7E &&
    !encoded.contains (Char.ofNat octet.toNat)

/-- The octets that stand for themselves in a fragment. -/
def keptInFragment : UInt8 -> Bool :=
  keepsExcept [' ', '"', '<', '>', '\x60']

/-- The octets that stand for themselves in a path. -/
def keptInPath : UInt8 -> Bool :=
  keepsExcept [' ', '"', '<', '>', '\x60', '#', '?', '^', '\x7b', '\x7d']

/-- The octets that stand for themselves in a user name or a password. -/
def keptInUserInfo : UInt8 -> Bool :=
  keepsExcept [' ', '"', '<', '>', '\x60', '#', '?', '^', '\x7b', '\x7d', '/',
    ':', ';', '=', '@', '[', '\\', ']', '|']

/-- The octets that stand for themselves in a query. -/
def keptInQuery (kind : SchemeKind) : UInt8 -> Bool :=
  if kind.isSpecial then keepsExcept [' ', '"', '#', '<', '>', '\'']
  else keepsExcept [' ', '"', '#', '<', '>']

/-- A segment with its encoded points written as points. -/
def plainPoints : List Char -> List Char
  | '%' :: '2' :: 'e' :: rest => '.' :: plainPoints rest
  | '%' :: '2' :: 'E' :: rest => '.' :: plainPoints rest
  | symbol :: rest => symbol :: plainPoints rest
  | [] => []

/-- Whether a segment stands for the place where it is. -/
def isHere (segment : List Char) : Bool :=
  plainPoints segment == ['.']

/-- Whether a segment stands for the place above. -/
def isAbove (segment : List Char) : Bool :=
  plainPoints segment == ['.', '.']

/-- Segments after those before them, resolved. A segment of points at the end
leaves an empty one. -/
def resolve (before : List (List Char)) : List (List Char) -> List (List Char)
  | [] => before
  | [last] =>
      if isAbove last then before.dropLast ++ [[]]
      else if isHere last then before ++ [[]]
      else before ++ [last]
  | segment :: others =>
      if isAbove segment then resolve before.dropLast others
      else if isHere segment then resolve before others
      else resolve (before ++ [segment]) others

/-- A path with one kind of divider. -/
def withSlashes (kind : SchemeKind) (path : List Char) : List Char :=
  path.map fun symbol => if kind.dividesPath symbol then '/' else symbol

/-- The path that a text writes, the slash before its first segment left
out. -/
def segmentedPath (kind : SchemeKind) (text : List Char) : List Char :=
  ((resolve [] (Split.pieces '/' (withSlashes kind text))).map fun segment =>
    '/' :: PercentEncoding.encodeWhere keptInPath segment).flatten

/-- A text without a divider at its beginning. -/
def dropDivider (kind : SchemeKind) (text : List Char) : List Char :=
  match text with
  | symbol :: rest => if kind.dividesPath symbol then rest else symbol :: rest
  | [] => []

/-- The path of a URL with a host. -/
def hostedPath (kind : SchemeKind) (text : List Char) : List Char :=
  if text.isEmpty && !kind.isSpecial then []
  else segmentedPath kind (dropDivider kind text)

/-- The path of a URL without a host, which has no segments unless it begins
with a slash. -/
def hostlessPath (kind : SchemeKind) : List Char -> List Char
  | '/' :: rest => segmentedPath kind rest
  | text => PercentEncoding.encodeWhere (keepsExcept []) text

end Url
end BookLookup
