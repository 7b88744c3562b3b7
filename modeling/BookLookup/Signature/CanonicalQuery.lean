import BookLookup.PercentEncoding

/-!
# Canonical queries

The pairs of a query are percent-encoded, put in the order of their encoded
names and, for one name, of their encoded values, and written with equals signs
and ampersands. Two lists of pairs that differ in their order alone have one
canonical query.
-/

namespace BookLookup
namespace CanonicalQuery

/-- A pair with both parts percent-encoded. -/
def encodePair (pair : String × String) : String × String :=
  (PercentEncoding.encode .encoded pair.1,
    PercentEncoding.encode .encoded pair.2)

/-- Whether an encoded pair may stand before another. -/
def inOrder (first second : String × String) : Bool :=
  first.1 < second.1 || (first.1 == second.1 && !(second.2 < first.2))

/-- The pairs of a query encoded and in order. -/
def encodedPairs (pairs : List (String × String)) : List (String × String) :=
  (pairs.map encodePair).mergeSort inOrder

/-- No pair is lost or added by putting the pairs in order. -/
theorem perm_encodedPairs (pairs : List (String × String)) :
    (encodedPairs pairs).Perm (pairs.map encodePair) :=
  List.mergeSort_perm _ _

/-- The text of an encoded pair. -/
def pairText (pair : String × String) : String :=
  pair.1 ++ "=" ++ pair.2

/-- The canonical query of some pairs. -/
def ofPairs (pairs : List (String × String)) : String :=
  "&".intercalate ((encodedPairs pairs).map pairText)

@[simp] theorem ofPairs_nil : ofPairs [] = "" := by
  simp [ofPairs, encodedPairs]

end CanonicalQuery
end BookLookup
