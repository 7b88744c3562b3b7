import BookLookup.Text.Ranges
import Mathlib.Data.Nat.Bitwise

/-!
# Sets of code points

A set of code points is a number whose bits tell the members. Whether the
members of long tables lie in such a set can be computed quickly, if the set is
cut off behind the code points that are asked for.
-/

namespace BookLookup
namespace CodeSet

/-- The code points of a closed range. -/
def ofRange (first last : Nat) : Nat :=
  (2 ^ (last + 1 - first) - 1) <<< first

/-- The code points of some ranges. -/
def ofRanges (ranges : List (Nat × Nat)) : Nat :=
  ranges.foldl (fun found range => found ||| ofRange range.1 range.2) 0

/-- Some code points. -/
def ofList (codes : List Nat) : Nat :=
  codes.foldl (fun found code => found ||| 2 ^ code) 0

/-- The members of a set that are not in another one. -/
def without (set other : Nat) : Nat :=
  set ^^^ (set &&& other)

theorem testBit_ofRange (first last code : Nat) :
    (ofRange first last).testBit code =
      decide (first ≤ code ∧ code ≤ last) := by
  rw [ofRange, Nat.testBit_shiftLeft, Nat.testBit_two_pow_sub_one,
    Bool.eq_iff_iff]
  simp only [ge_iff_le, Bool.and_eq_true, decide_eq_true_eq]
  omega

/-- The members that have been found and those of further ranges. -/
theorem testBit_foldl_ofRange
    (ranges : List (Nat × Nat))
    (found code : Nat) :
    (ranges.foldl (fun found range => found ||| ofRange range.1 range.2)
        found).testBit code =
      (found.testBit code || Ranges.contains ranges code) := by
  induction ranges generalizing found with
  | nil => simp [Ranges.contains]
  | cons range others inductionHypothesis =>
      rw [List.foldl_cons, inductionHypothesis, Nat.testBit_or, testBit_ofRange,
        Bool.or_assoc, Ranges.contains, Ranges.contains, List.any_cons,
        Bool.decide_and]

/-- The members of some ranges. -/
theorem testBit_ofRanges (ranges : List (Nat × Nat)) (code : Nat) :
    (ofRanges ranges).testBit code = Ranges.contains ranges code := by
  rw [ofRanges, testBit_foldl_ofRange, Nat.zero_testBit, Bool.false_or]

/-- The members that have been found and those of a further list. -/
theorem testBit_foldl_two_pow
    (codes : List Nat)
    (found code : Nat) :
    (codes.foldl (fun found code => found ||| 2 ^ code) found).testBit code =
      (found.testBit code || decide (code ∈ codes)) := by
  induction codes generalizing found with
  | nil => simp
  | cons first others inductionHypothesis =>
      rw [List.foldl_cons, inductionHypothesis, Nat.testBit_or,
        Nat.testBit_two_pow, Bool.or_assoc, ← Bool.decide_or,
        decide_eq_decide.mpr (List.mem_cons.trans (or_congr_left eq_comm)).symm]

/-- The members of a list. -/
theorem testBit_ofList (codes : List Nat) (code : Nat) :
    (ofList codes).testBit code = decide (code ∈ codes) := by
  rw [ofList, testBit_foldl_two_pow, Nat.zero_testBit, Bool.false_or]

theorem testBit_without (set other code : Nat) :
    (without set other).testBit code =
      (set.testBit code && !other.testBit code) := by
  rw [without, Nat.testBit_xor, Nat.testBit_and]
  cases set.testBit code <;> cases other.testBit code <;> rfl

/-- Whether a set has a code point, asked of the members below the first of some
bounds that is greater. -/
def has (set : Nat) : List Nat -> Nat -> Bool
  | [], code => set.testBit code
  | bound :: bounds, code =>
      if code < bound then (set % 2 ^ bound).testBit code
      else has set bounds code

/-- The bounds make no difference. -/
theorem has_eq_testBit
    (set : Nat)
    (bounds : List Nat)
    (code : Nat) :
    has set bounds code = set.testBit code := by
  induction bounds with
  | nil => rfl
  | cons bound others inductionHypothesis =>
      rw [has, inductionHypothesis, Nat.testBit_mod_two_pow]
      by_cases below : code < bound
      · rw [if_pos below, decide_eq_true below, Bool.true_and]
      · rw [if_neg below]

end CodeSet
end BookLookup
