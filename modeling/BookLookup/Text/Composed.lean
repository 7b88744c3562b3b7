import BookLookup.Text.Composite
import BookLookup.Text.MarkClass

/-!
# The composed form of a text

The same letter with marks can be written in several ways: with or without a
composite, and with marks of different classes in any order. In the composed
form every composite has been taken apart, the marks after a letter stand in
the order of their classes, and a letter and a mark are put together wherever
no mark between them is of the same class or a higher one.
-/

namespace BookLookup
namespace Composed

/-- The characters that a character is composed of, taken apart in a number of
steps. -/
def partsWithin : Nat -> Char -> List Char
  | 0, symbol => [symbol]
  | steps + 1, symbol =>
      match Composite.parts? symbol with
      | some (first, second) => partsWithin steps first ++ [second]
      | none => [symbol]

/-- The characters that a character is composed of. Three steps are enough for
every composite. -/
def parts (symbol : Char) : List Char :=
  if symbol.toNat < 0xC0 then [symbol] else partsWithin 3 symbol

/-- Put a character before a text whose marks are in order. A mark goes past
the marks of lower classes. -/
def place (symbol : Char) : List Char -> List Char
  | [] => [symbol]
  | next :: rest =>
      if 0 < MarkClass.ofChar next ∧
          MarkClass.ofChar next < MarkClass.ofChar symbol then
        next :: place symbol rest
      else symbol :: next :: rest

/-- A text with its marks in order. -/
def inOrder (text : List Char) : List Char :=
  text.foldr place []

/-- Placing a character neither loses nor adds one. -/
theorem place_perm (symbol : Char) (text : List Char) :
    (place symbol text).Perm (symbol :: text) := by
  induction text with
  | nil => exact List.Perm.refl _
  | cons next rest inductionHypothesis =>
      simp only [place]
      split
      · exact (inductionHypothesis.cons next).trans (List.Perm.swap _ _ _)
      · exact List.Perm.refl _

theorem inOrder_perm (text : List Char) : (inOrder text).Perm text := by
  induction text with
  | nil => exact List.Perm.refl _
  | cons symbol rest inductionHypothesis =>
      exact (place_perm symbol _).trans (inductionHypothesis.cons symbol)

/-- Put a starting character together with the marks after it as far as
possible. The marks that stay apart are given in order, and the class of the
last of them. -/
def joinFrom (start : Char) (apart : List Char) (last : Nat) :
    List Char -> List Char
  | [] => start :: apart
  | next :: rest =>
      let nextClass := MarkClass.ofChar next
      let reached := apart.isEmpty || last < nextClass
      match if reached then Composite.compose? start next else none with
      | some composite => joinFrom composite apart last rest
      | none =>
          if nextClass = 0 then start :: apart ++ joinFrom next [] 0 rest
          else joinFrom start (apart ++ [next]) nextClass rest

/-- A text in order, with the composites put together. -/
def join : List Char -> List Char
  | [] => []
  | symbol :: rest =>
      if MarkClass.ofChar symbol = 0 then joinFrom symbol [] 0 rest
      else symbol :: join rest

/-- The composed form of a text. -/
def ofText (text : List Char) : List Char :=
  join (inOrder (text.flatMap parts))

end Composed
end BookLookup
