import BookLookup.Text.Split
import BookLookup.Url.Label

/-!
# Domain names

A domain name is a sequence of labels between points. It is brought into the
normal form of its characters, and its labels into ASCII. If a label has a
character that is written to the left, then every label has to fit the
direction of its first character.
-/

namespace BookLookup
namespace Domain

/-- The labels of a name. -/
def labels? (name : List Char) : Option (List Label) :=
  (Label.normal? name).bind fun normal =>
    (Split.pieces '.' normal).mapM Label.ofNormal?

/-- Whether the labels of a name can be told apart however they are shown. -/
def isReadable (labels : List Label) : Bool :=
  !(labels.any (·.directions.any Direction.turns)) ||
    labels.all (Direction.fits ·.directions)

/-- A name in ASCII. -/
def ascii? (name : List Char) : Option (List Char) :=
  (labels? name).bind fun labels =>
    if isReadable labels then some (Split.join '.' (labels.map (·.ascii)))
    else none

end Domain
end BookLookup
