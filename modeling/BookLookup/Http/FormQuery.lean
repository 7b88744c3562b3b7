import BookLookup.PercentEncoding
import BookLookup.Text.Split

/-!
# Queries of forms

A query is a sequence of pairs between ampersands. Empty parts are skipped, a
pair is cut at its first equals sign, and a part without one has an empty
value. A plus sign stands for a space and percent-encoded octets are replaced;
stretches of the octets that are no character become U+FFFD.
-/

namespace BookLookup
namespace FormQuery

/-- The octet for a space is written as a plus sign. -/
def plusToSpace (octet : UInt8) : UInt8 :=
  if octet = 0x2B then 0x20 else octet

/-- The text that a name or a value stands for. -/
def decode (octets : List UInt8) : String :=
  String.ofList (Utf8.decodeLossy
    (PercentEncoding.decodeOctets (octets.map plusToSpace)))

/-- The pair that a part stands for. -/
def pair (part : List UInt8) : String × String :=
  match Split.atFirst? 0x3D part with
  | some (name, value) => (decode name, decode value)
  | none => (decode part, "")

/-- The pairs of a query in order. -/
def pairs (query : String) : List (String × String) :=
  ((Split.pieces 0x26 (Utf8.octets query)).filter (!·.isEmpty)).map pair

end FormQuery
end BookLookup
