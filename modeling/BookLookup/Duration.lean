import BookLookup.Text.Decimal

/-!
# Spans of time

A span is a whole number of nanoseconds. Its text uses the largest unit of
second, millisecond, microsecond and nanosecond of which it holds a whole one,
and a decimal fraction without zeros at its end.
-/

namespace BookLookup

/-- A span of time. -/
structure Duration where
  /-- The length in nanoseconds. -/
  nanoseconds : Nat
  deriving DecidableEq, Repr

namespace Duration

/-- A number of seconds and nanoseconds. -/
def ofParts (seconds nanoseconds : Nat) : Duration :=
  ⟨1000000000 * seconds + nanoseconds⟩

/-- A number of whole seconds. -/
def ofSeconds (seconds : Nat) : Duration :=
  ofParts seconds 0

/-- A number of milliseconds. -/
def ofMilliseconds (milliseconds : Nat) : Duration :=
  ⟨1000000 * milliseconds⟩

/-- The whole seconds of a span. -/
def seconds (duration : Duration) : Nat :=
  duration.nanoseconds / 1000000000

/-- The fraction of a quotient with a power of ten below it, without zeros at
its end. -/
def fraction (places remainder : Nat) : List Char :=
  let digits :=
    ((Decimal.padded places remainder).reverse.dropWhile (· == '0')).reverse
  if digits.isEmpty then [] else '.' :: digits

/-- A number of nanoseconds in a unit of a power of ten of them. -/
def inUnit (places nanoseconds : Nat) (name : String) : String :=
  String.ofList (Decimal.digits (nanoseconds / Nat.pow 10 places) ++
    fraction places (nanoseconds % Nat.pow 10 places)) ++ name

/-- The text of a span. -/
def text (duration : Duration) : String :=
  let length := duration.nanoseconds
  if 1000000000 ≤ length then inUnit 9 length "s"
  else if 1000000 ≤ length then inUnit 6 length "ms"
  else if 1000 ≤ length then inUnit 3 length "µs"
  else inUnit 0 length "ns"

end Duration
end BookLookup
