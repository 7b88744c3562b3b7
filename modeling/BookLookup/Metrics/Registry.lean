import BookLookup.Observation
import BookLookup.TextMap

/-!
# Counting events

A counter is kept for every combination of label values that has been
observed, under the values in the order of the names of the labels. For the
time of requests a histogram is kept: the number of requests in each class of
times, the number of all requests and the sum of their seconds.
-/

namespace BookLookup

/-- Values by combinations of label values, in order. -/
abbrev Series (α : Type) := List (List String × α)

/-- The bounds of the classes of times. -/
def timeBounds : List Duration :=
  [5, 10, 25, 50, 100, 250, 500, 1000, 2500, 5000, 10000].map
    Duration.ofMilliseconds

/-- A histogram of times. -/
structure Histogram where
  /-- For every bound, the number of times up to it. -/
  upTo : List Nat
  /-- The number of times. -/
  count : Nat
  /-- The sum of the times in seconds, added in the order of observation. -/
  sum : Float

namespace Histogram

/-- The histogram of no times. -/
def empty : Histogram :=
  ⟨timeBounds.map fun _ => 0, 0, 0.0⟩

/-- A time in seconds. -/
def inSeconds (time : Duration) : Float :=
  (UInt64.ofNat time.seconds).toFloat +
    (UInt64.ofNat (time.nanoseconds % 1000000000)).toFloat / 1000000000.0

/-- The histogram with one time more. -/
def observe (histogram : Histogram) (time : Duration) : Histogram where
  upTo := (timeBounds.zip histogram.upTo).map fun (bound, number) =>
    if time.nanoseconds ≤ bound.nanoseconds then number + 1 else number
  count := histogram.count + 1
  sum := histogram.sum + inSeconds time

end Histogram

/-- All that has been counted. -/
structure Registry where
  /-- Requests by method, route and status. -/
  requests : Series Nat
  /-- Times of requests by method, outcome and route. -/
  times : Series Histogram
  /-- Scans by mode and outcome. -/
  scans : Series Nat
  /-- Attempts to sign a link by outcome. -/
  signedUrls : Series Nat
  /-- Refused filters by reason. -/
  rejections : Series Nat

namespace Registry

/-- Nothing counted yet. -/
def empty : Registry :=
  ⟨[], [], [], [], []⟩

/-- One more of a combination of label values. -/
def increment (labels : List String) (series : Series Nat) : Series Nat :=
  Entries.insert labels ((Entries.find? labels series).getD 0 + 1) series

/-- A time more for a combination of label values. -/
def record
    (labels : List String)
    (time : Duration)
    (series : Series Histogram) : Series Histogram :=
  Entries.insert labels
    (((Entries.find? labels series).getD .empty).observe time) series

/-- The outcome that a status stands for. -/
def outcomeOf (status : Nat) : String :=
  if 200 ≤ status ∧ status < 400 then "success" else "error"

/-- The registry after one event. -/
def observe (registry : Registry) : Observation -> Registry
  | .request route method status elapsed =>
      { registry with
        requests :=
          increment [method, route, Decimal.text status] registry.requests
        times :=
          record [method, outcomeOf status, route] elapsed registry.times }
  | .scan mode outcome =>
      { registry with scans := increment [mode, outcome] registry.scans }
  | .signedUrl outcome =>
      { registry with signedUrls := increment [outcome] registry.signedUrls }
  | .rejection reason =>
      { registry with rejections := increment [reason] registry.rejections }

/-- The registry after some events. -/
def observeAll
    (registry : Registry)
    (observations : List Observation) : Registry :=
  observations.foldl observe registry

@[simp] theorem observeAll_nil (registry : Registry) :
    registry.observeAll [] = registry := rfl

@[simp] theorem observeAll_append
    (registry : Registry)
    (front back : List Observation) :
    registry.observeAll (front ++ back) =
      (registry.observeAll front).observeAll back :=
  List.foldl_append

/-- A counter goes up by one for its own labels and for no others. -/
theorem find?_increment
    (labels wanted : List String)
    (series : Series Nat) :
    Entries.find? wanted (increment labels series) =
      if wanted = labels then
        some ((Entries.find? labels series).getD 0 + 1)
      else Entries.find? wanted series :=
  Entries.find?_insert labels wanted _ series

end Registry
end BookLookup
