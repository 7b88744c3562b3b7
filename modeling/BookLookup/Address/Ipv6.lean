import BookLookup.Address.Ipv4
import BookLookup.Text.Hex

/-!
# IPv6 addresses

An address is eight groups of sixteen bits. Its text has the groups in
hexadecimal with colons between them; a double colon stands once for a run of
zero groups, and the last two groups may be written as an IPv4 address. The
text printed has lower-case digits without leading zeros and a double colon for
the longest run of two or more zero groups, the first of them if there are
several.
-/

namespace BookLookup
namespace Ipv6

/-- The number of groups. -/
def groupCount : Nat := 8

/-- The number written by some hexadecimal digits. -/
def digitsValue? (digits : List Char) : Option Nat :=
  digits.foldlM (fun value symbol =>
    (Hex.digitValue? symbol).map fun digit => 16 * value + digit) 0

/-- The group written by a piece between colons. -/
def group? (piece : List Char) : Option Nat :=
  if piece.length = 0 ∨ 4 < piece.length then none else digitsValue? piece

/-- The groups written by pieces, the last of which may be an IPv4 address. -/
def groups? : List (List Char) -> Option (List Nat)
  | [] => some []
  | [last] =>
      match group? last with
      | some group => some [group]
      | none => (Ipv4.read? last).map fun address =>
          [address / 0x10000, address % 0x10000]
  | first :: others => do
      let group <- group? first
      let rest <- groups? others
      return group :: rest

/-- The parts before and after the first double colon. -/
def atDoubleColon? : List Char -> Option (List Char × List Char)
  | ':' :: ':' :: rest => some ([], rest)
  | symbol :: rest =>
      (atDoubleColon? rest).map fun (before, after) => (symbol :: before, after)
  | [] => none

/-- The pieces of a part, which may be empty. -/
def partPieces (part : List Char) : List (List Char) :=
  if part.isEmpty then [] else Split.pieces ':' part

/-- The address that a text writes. A double colon stands for at least one
group. -/
def read? (text : List Char) : Option (List Nat) :=
  match atDoubleColon? text with
  | none => (groups? (Split.pieces ':' text)).filter (·.length = groupCount)
  | some (before, after) => do
      let front <- (partPieces before).mapM group?
      let back <- groups? (partPieces after)
      if front.length + back.length < groupCount then
        return front ++
          List.replicate (groupCount - (front.length + back.length)) 0 ++ back
      else none

/-- The length of the run of zeros at the beginning. -/
def zeroRun (groups : List Nat) : Nat :=
  (groups.takeWhile (· == 0)).length

/-- Where the longest run of zeros begins and how long it is. -/
def longestRun (groups : List Nat) : Nat × Nat :=
  (List.range groups.length).foldl (fun best start =>
    let length := zeroRun (groups.drop start)
    if best.2 < length then (start, length) else best) (0, 0)

/-- Groups in hexadecimal with colons between them. -/
def renderGroups (groups : List Nat) : List Char :=
  Split.join ':' (groups.map Hex.digits)

/-- The text of an address. -/
def render (groups : List Nat) : List Char :=
  let (start, length) := longestRun groups
  if length < 2 then renderGroups groups
  else
    renderGroups (groups.take start) ++ ':' :: ':' ::
      renderGroups (groups.drop (start + length))

end Ipv6
end BookLookup
