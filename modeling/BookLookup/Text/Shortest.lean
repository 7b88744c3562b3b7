import BookLookup.Text.Decimal

/-!
# The shortest decimal of a floating-point number

A positive finite number is a whole multiple of a power of two. The decimals
that read back as it are those between the middles to its two neighbours; the
middles belong to them if the multiple is even. Of these decimals the one with
the fewest digits is written, and of several the nearest to the number, without
an exponent.
-/

namespace BookLookup
namespace Shortest

/-- A positive number and the decimals that read back as it, over one
denominator. -/
structure Interval where
  /-- The numerator of the least point. -/
  low : Nat
  /-- The numerator of the number. -/
  value : Nat
  /-- The numerator of the greatest point. -/
  high : Nat
  /-- The denominator. -/
  denominator : Nat
  /-- Whether the ends belong to the decimals. -/
  closed : Bool

/-- The interval of a multiple of a power of two, of which the exponent is
given plus 1076. The lower neighbour is nearer if the number is a power of two
and not the least of its kind. -/
def Interval.ofParts (multiple shifted : Nat) (nearer : Bool) : Interval :=
  let up := Nat.pow 2 (shifted - 1076)
  { low := (4 * multiple - (if nearer then 1 else 2)) * up
    value := 4 * multiple * up
    high := (4 * multiple + 2) * up
    denominator := 4 * Nat.pow 2 (1076 - shifted)
    closed := multiple % 2 == 0 }

/-- The interval of a positive finite number from its bits. -/
def Interval.ofBits (bits : Nat) : Interval :=
  let exponent := bits / Nat.pow 2 52 % Nat.pow 2 11
  let fraction := bits % Nat.pow 2 52
  if exponent = 0 then .ofParts fraction 2 false
  else .ofParts (Nat.pow 2 52 + fraction) (exponent + 1)
    (fraction = 0 && 1 < exponent)

/-- Whether a decimal, as a fraction, is in an interval. -/
def Interval.contains
    (interval : Interval)
    (numerator denominator : Nat) : Bool :=
  let scaled := numerator * interval.denominator
  let low := interval.low * denominator
  let high := interval.high * denominator
  if interval.closed then low ≤ scaled && scaled ≤ high
  else low < scaled && scaled < high

/-- A point of a decimal grid: a whole number of units, each ten to the power of
one number over ten to the power of another. -/
structure GridPoint where
  /-- The number of units. -/
  digits : Nat
  /-- The power of ten by which a unit is more. -/
  up : Nat
  /-- The power of ten by which a unit is less. -/
  down : Nat

/-- The number of zeros after the point of a fraction below one, within a
bound. -/
def leadingZeros (numerator denominator : Nat) : Nat -> Nat
  | 0 => 0
  | bound + 1 =>
      if denominator ≤ 10 * numerator then 0
      else leadingZeros (10 * numerator) denominator bound + 1

/-- The place of the first digit: counted upwards from the point, or downwards
after it. -/
def Interval.firstPlace (interval : Interval) : Nat × Nat :=
  let whole := interval.value / interval.denominator
  if whole = 0 then (0, leadingZeros interval.value interval.denominator 400)
  else ((Decimal.digits whole).length, 0)

/-- The decimal of a number of digits in an interval that is nearest to the
number, if there is one. Of two that are equally near it is the greater. -/
def Interval.nearest? (interval : Interval) (count : Nat) : Option GridPoint :=
  let (above, below) := interval.firstPlace
  let up := above - count
  let down := below + count - above
  let units := interval.value * Nat.pow 10 down
  let unit := interval.denominator * Nat.pow 10 up
  let lower := units / unit
  let candidate (digits : Nat) : Bool :=
    interval.contains (digits * Nat.pow 10 up) (Nat.pow 10 down)
  let lowerNearer := 2 * (units % unit) < unit
  if candidate lower && (lowerNearer || !candidate (lower + 1)) then
    some ⟨lower, up, down⟩
  else if candidate (lower + 1) then some ⟨lower + 1, up, down⟩
  else none

/-- The shortest decimal in an interval. Seventeen digits always suffice. -/
def Interval.shortest (interval : Interval) : GridPoint :=
  (((List.range 18).drop 1).findSome? interval.nearest?).getD ⟨0, 0, 0⟩

/-- A point as a decimal without an exponent and without zeros at the end of its
fraction. -/
def GridPoint.render (point : GridPoint) : List Char :=
  let digits :=
    Decimal.padded (point.down + 1) (point.digits * Nat.pow 10 point.up)
  let whole := digits.take (digits.length - point.down)
  let fraction :=
    ((digits.drop (digits.length - point.down)).reverse.dropWhile
      (· == '0')).reverse
  if fraction.isEmpty then whole else whole ++ '.' :: fraction

/-- The text of a number that is not negative. -/
def text (number : Float) : String :=
  if number.isNaN then "NaN"
  else if number.isInf then "inf"
  else
    let bits := number.toBits.toNat
    if bits % Nat.pow 2 63 = 0 then "0"
    else String.ofList (Interval.ofBits bits).shortest.render

end Shortest
end BookLookup
