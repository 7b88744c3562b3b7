import BookLookup.Text.Blank
import BookLookup.Text.Utf8

/-!
# Identities of requests

A caller may name a request by a header. Of the first such header the letters,
digits and the marks `-`, `_` and `.` are kept, at most sixty-four of them. If
the header is absent, is not plain text or holds no such character, the request
is named by an identifier made for it: a number of 128 bits, written in
twenty-six digits to the base thirty-two.

The values of headers are octets, which need not write a text.
-/

namespace BookLookup

/-- The headers of a request in order: names and octets. -/
def HttpHeaders : Type := List (String × List UInt8)

namespace HttpHeaders

/-- The headers with some texts as their values. -/
def ofTexts (headers : List (String × String)) : HttpHeaders :=
  headers.map fun (name, value) => (name, Utf8.octets value)

instance : Coe (List (String × String)) HttpHeaders := ⟨ofTexts⟩

end HttpHeaders

/-- Where the identity of a request comes from. -/
inductive RequestId where
  | given (text : String)
  | generated (number : Nat)
  deriving DecidableEq, Repr

namespace RequestId

/-- The name of the header that carries the identity. -/
def header : String := "x-catalog-request-id"

/-- The greatest number of characters that are kept. -/
def maxLength : Nat := 64

/-- The digits to the base thirty-two: no letter that looks like another. -/
def digits : List Char :=
  "0123456789ABCDEFGHJKMNPQRSTVWXYZ".toList

/-- A number in twenty-six digits. -/
def generatedText (number : Nat) : String :=
  String.ofList ((List.range 26).reverse.map fun place =>
    digits.getD (number / Nat.pow 32 place % 32) '0')

/-- The text of an identity. -/
def text : RequestId -> String
  | given text => text
  | generated number => generatedText number

/-- Whether a character may stand in an identity. -/
def isSafe (symbol : Char) : Bool :=
  symbol.isAlphanum || symbol == '-' || symbol == '_' || symbol == '.'

/-- The characters of a text that are kept. -/
def safePart (text : String) : List Char :=
  (text.toList.filter isSafe).take maxLength

/-- Whether an octet is plain text in a header. -/
def isPlain (octet : UInt8) : Bool :=
  octet == 0x09 || (0x20 ≤ octet && octet < 0x7F)

/-- The text of a header value that is plain text. -/
def plainText? (value : List UInt8) : Option String :=
  if value.all isPlain then
    some (String.ofList (value.map fun octet => Char.ofNat octet.toNat))
  else none

/-- The identity that a text gives. -/
def ofText? (text : String) : Option RequestId :=
  match safePart text with
  | [] => none
  | safe => some (.given (String.ofList safe))

/-- The identity that a header value gives. White space at its ends does not
count. -/
def ofValue? (value : List UInt8) : Option RequestId :=
  ((plainText? value).bind nonBlank?).bind ofText?

/-- Whether a header has the name of the one that carries the identity, without
regard to letter case. -/
def isNamed (pair : String × List UInt8) : Bool :=
  pair.1.toList.map Char.toLower == header.toList

/-- The first value given under the name. -/
def firstValue? (headers : HttpHeaders) : Option (List UInt8) :=
  (headers.find? isNamed).map Prod.snd

/-- The identity of a request with some headers, for which a number has been
drawn. -/
def ofHeaders (headers : HttpHeaders) (fresh : Nat) : RequestId :=
  ((firstValue? headers).bind ofValue?).getD (.generated fresh)

end RequestId
end BookLookup
