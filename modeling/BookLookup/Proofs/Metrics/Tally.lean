import BookLookup.Proofs.Metrics.Registry
import BookLookup.Proofs.TextMap

/-!
# What a registry keeps of some events

Every event adds one to the counter of its label values, and its time to their
histogram. So the counter of some label values is the number of events that have
them, and their histogram that of the times of these events, in the order in
which they were observed. But for the sum of the times a registry does not depend
on that order.
-/

namespace BookLookup

/-! ## Histograms of several times -/

namespace Histogram

/-- The histogram of some times. -/
def ofTimes (times : List Duration) : Histogram :=
  times.foldl observe empty

/-- The numbers of a histogram, without the sum. -/
def numbers (histogram : Histogram) : List Nat :=
  histogram.upTo ++ [histogram.count]

/-- The numbers of times up to every bound, and of all times. -/
def numbersOf (times : List Duration) : List Nat :=
  (timeBounds.map fun bound =>
    times.countP fun time => time.nanoseconds ≤ bound.nanoseconds) ++
    [times.length]

theorem ofTimes_concat (times : List Duration) (time : Duration) :
    ofTimes (times ++ [time]) = (ofTimes times).observe time :=
  List.foldl_append

theorem count_ofTimes (times : List Duration) :
    (ofTimes times).count = times.length := by
  induction times using List.reverseRecOn with
  | nil => rfl
  | append_singleton times time inductionHypothesis =>
      rw [ofTimes_concat, observe, inductionHypothesis, List.length_append,
        List.length_singleton]

/-- For every bound a histogram counts the times up to it. -/
theorem upTo_ofTimes (times : List Duration) :
    (ofTimes times).upTo = timeBounds.map fun bound =>
      times.countP fun time => time.nanoseconds ≤ bound.nanoseconds := by
  induction times using List.reverseRecOn with
  | nil => rfl
  | append_singleton times time inductionHypothesis =>
      have pairs (number : Duration -> Nat) :
          timeBounds.zip (timeBounds.map number) =
            timeBounds.map fun bound => (bound, number bound) := by
        simpa using (List.zip_map' :
          (timeBounds.map id).zip (timeBounds.map number) = _)
      rw [ofTimes_concat, observe, inductionHypothesis, pairs, List.map_map]
      refine List.map_congr_left fun bound _ => ?_
      rw [List.countP_append, List.countP_singleton]
      simp only [Function.comp_apply, decide_eq_true_eq]
      split <;> rfl

theorem numbers_ofTimes (times : List Duration) :
    (ofTimes times).numbers = numbersOf times := by
  rw [numbers, upTo_ofTimes, count_ofTimes, numbersOf]

/-- The numbers do not depend on the order of the times. -/
theorem numbersOf_eq_of_perm
    {times permuted : List Duration}
    (isPermuted : permuted.Perm times) :
    numbersOf permuted = numbersOf times := by
  unfold numbersOf
  rw [isPermuted.length_eq]
  congr 1
  exact List.map_congr_left fun bound _ => isPermuted.countP_eq _

/-- Up to a later bound there are not fewer times, and no more than all. -/
theorem pairwise_numbersOf (times : List Duration) :
    (numbersOf times).Pairwise (· ≤ ·) := by
  have bounds : timeBounds.Pairwise
      fun earlier later => earlier.nanoseconds ≤ later.nanoseconds := by
    decide
  refine List.pairwise_append.mpr ⟨?_, List.pairwise_singleton _ _, ?_⟩
  · refine List.pairwise_map.mpr (bounds.imp fun notLater => ?_)
    refine List.countP_mono_left fun time _ upTo => ?_
    exact decide_eq_true ((of_decide_eq_true upTo).trans notLater)
  · intro number member all isAll
    obtain ⟨bound, -, rfl⟩ := List.mem_map.mp member
    rw [List.mem_singleton.mp isAll]
    exact List.countP_le_length

end Histogram

/-! ## Counters and histograms of label values -/

namespace Observation

/-- The time of an event that is kept under some label values, if it is one. -/
def timeUnder? (labels : List String) : Observation -> Option Duration
  | request route method status elapsed =>
      if [method, Registry.outcomeOf status, route] = labels then some elapsed
      else none
  | _ => none

/-- An event has a time under its own label values only. -/
theorem isSome_timeUnder? (labels : List String) (event : Observation) :
    (event.timeUnder? labels).isSome =
      decide (event.timeLabels? = some labels) := by
  cases event with
  | request route method status elapsed =>
      unfold timeUnder? timeLabels?
      by_cases same : [method, Registry.outcomeOf status, route] = labels
      · simp [same]
      · simp [same]
  | scan mode outcome => rfl
  | signedUrl outcome => rfl
  | rejection reason => rfl

end Observation

namespace Registry

open Observation (timeUnder?)

/-- The registry of some events. -/
def ofEvents (events : List Observation) : Registry :=
  empty.observeAll events

theorem ofEvents_concat (events : List Observation) (event : Observation) :
    ofEvents (events ++ [event]) = (ofEvents events).observe event :=
  observeAll_append empty events [event]

/-- The number of events that a counter counts under some label values. -/
def numberOf
    (events : List Observation)
    (counter : Counter)
    (labels : List String) : Nat :=
  events.countP fun event => event.labels? counter = some labels

/-- The times of the events that are kept under some label values. -/
def timesOf
    (events : List Observation)
    (labels : List String) : List Duration :=
  events.filterMap (timeUnder? labels)

/-- The number of events whose times are kept under some label values: those of
a method and a route whose status falls in an outcome. -/
def timedNumber
    (events : List Observation)
    (labels : List String) : Nat :=
  events.countP fun event => event.timeLabels? = some labels

theorem length_timesOf (events : List Observation) (labels : List String) :
    (timesOf events labels).length = timedNumber events labels := by
  rw [timesOf, List.length_filterMap_eq_countP, timedNumber]
  simp only [Observation.isSome_timeUnder?]

theorem numberOf_pos_iff
    {events : List Observation}
    {counter : Counter}
    {labels : List String} :
    0 < numberOf events counter labels ↔
      ∃ event ∈ events, event.labels? counter = some labels := by
  simp [numberOf, List.countP_pos_iff]

theorem timesOf_ne_nil_iff
    {events : List Observation}
    {labels : List String} :
    timesOf events labels ≠ [] ↔
      ∃ event ∈ events, event.timeLabels? = some labels := by
  rw [← List.length_pos_iff, length_timesOf]
  simp [timedNumber, List.countP_pos_iff]

theorem ordered_ofEvents (events : List Observation) :
    (ofEvents events).Ordered :=
  ordered_empty.observeAll events

/-- What an event does to the histogram of some label values. -/
theorem find?_times_observe
    (registry : Registry)
    (event : Observation)
    (labels : List String) :
    Entries.find? labels (registry.observe event).times =
      match event.timeUnder? labels with
      | some elapsed =>
          some (((Entries.find? labels registry.times).getD .empty).observe
            elapsed)
      | none => Entries.find? labels registry.times := by
  cases event with
  | request route method status elapsed =>
      rw [observe, record, Entries.find?_insert, timeUnder?]
      by_cases same : labels = [method, outcomeOf status, route]
      · rw [if_pos same, if_pos same.symm, same]
      · rw [if_neg same, if_neg (Ne.symm same)]
  | scan mode outcome => rfl
  | signedUrl outcome => rfl
  | rejection reason => rfl

/-- The counter of some label values is the number of their events, and there is
none if there are no such events. -/
theorem find?_series_ofEvents
    (events : List Observation)
    (counter : Counter)
    (labels : List String) :
    Entries.find? labels ((ofEvents events).series counter) =
      if numberOf events counter labels = 0 then none
      else some (numberOf events counter labels) := by
  induction events using List.reverseRecOn with
  | nil => cases counter <;> rfl
  | append_singleton events event inductionHypothesis =>
      have more : numberOf (events ++ [event]) counter labels =
          numberOf events counter labels +
            if event.labels? counter = some labels then 1 else 0 := by
        simp [numberOf, List.countP_append, List.countP_singleton]
      rw [more, ofEvents_concat, series_observe]
      cases own : event.labels? counter with
      | none => simpa using inductionHypothesis
      | some ownLabels =>
          dsimp only
          rw [find?_increment]
          by_cases same : labels = ownLabels
          · rw [← same, inductionHypothesis]
            cases numberOf events counter labels <;> simp
          · simpa [same, Ne.symm same] using inductionHypothesis

/-- The histogram of some label values is that of the times of their events, and
there is none if there are no such events. -/
theorem find?_times_ofEvents
    (events : List Observation)
    (labels : List String) :
    Entries.find? labels (ofEvents events).times =
      if timesOf events labels = [] then none
      else some (.ofTimes (timesOf events labels)) := by
  induction events using List.reverseRecOn with
  | nil => rfl
  | append_singleton events event inductionHypothesis =>
      have more : timesOf (events ++ [event]) labels =
          timesOf events labels ++ (event.timeUnder? labels).toList := by
        rw [timesOf, List.filterMap_append, List.filterMap_cons]
        cases event.timeUnder? labels <;> rfl
      rw [more, ofEvents_concat, find?_times_observe, inductionHypothesis]
      cases event.timeUnder? labels with
      | none => rw [Option.toList_none, List.append_nil]
      | some elapsed =>
          rw [Option.toList_some, if_neg (List.append_ne_nil_of_right_ne_nil _
            (List.cons_ne_nil _ _)), Histogram.ofTimes_concat]
          dsimp only
          split
          · rename_i noTimes
            rw [noTimes]
            rfl
          · rfl

/-- The entries of a counter are the label values with events, each with their
number. -/
theorem mem_series_ofEvents_iff
    {events : List Observation}
    {counter : Counter}
    {labels : List String}
    {number : Nat} :
    (labels, number) ∈ (ofEvents events).series counter ↔
      0 < numberOf events counter labels ∧
        number = numberOf events counter labels := by
  have found : (labels, number) ∈ (ofEvents events).series counter ↔
      Entries.find? labels ((ofEvents events).series counter) = some number :=
    ⟨Entries.find?_of_mem ((ordered_ofEvents events).series counter),
      Entries.mem_of_find?_eq_some⟩
  rw [found, find?_series_ofEvents, Nat.pos_iff_ne_zero]
  split
  · rename_i none
    simp [none]
  · rename_i nonzero
    simp [nonzero, eq_comm]

/-- The entries of the times are the label values with times, each with their
histogram. -/
theorem mem_times_ofEvents_iff
    {events : List Observation}
    {labels : List String}
    {histogram : Histogram} :
    (labels, histogram) ∈ (ofEvents events).times ↔
      timesOf events labels ≠ [] ∧
        histogram = .ofTimes (timesOf events labels) := by
  have found : (labels, histogram) ∈ (ofEvents events).times ↔
      Entries.find? labels (ofEvents events).times = some histogram :=
    ⟨Entries.find?_of_mem (ordered_ofEvents events).times,
      Entries.mem_of_find?_eq_some⟩
  rw [found, find?_times_ofEvents]
  split
  · rename_i none
    simp [none]
  · rename_i nonempty
    simp [nonempty, eq_comm]

/-- A counter is kept if an event goes into it. -/
theorem series_ofEvents_ne_nil_iff
    {events : List Observation}
    {counter : Counter} :
    (ofEvents events).series counter ≠ [] ↔
      ∃ event ∈ events, (event.labels? counter).isSome := by
  constructor
  · intro nonempty
    obtain ⟨entry, member⟩ := List.exists_mem_of_ne_nil _ nonempty
    obtain ⟨event, inEvents, own⟩ :=
      numberOf_pos_iff.mp (mem_series_ofEvents_iff.mp member).1
    exact ⟨event, inEvents, Option.isSome_of_eq_some own⟩
  · rintro ⟨event, inEvents, goesIn⟩
    obtain ⟨labels, own⟩ := Option.isSome_iff_exists.mp goesIn
    exact List.ne_nil_of_mem (mem_series_ofEvents_iff.mpr
      ⟨numberOf_pos_iff.mpr ⟨event, inEvents, own⟩, rfl⟩)

/-- Times are kept if an event has one. -/
theorem times_ofEvents_ne_nil_iff {events : List Observation} :
    (ofEvents events).times ≠ [] ↔
      ∃ event ∈ events, event.timeLabels?.isSome := by
  constructor
  · intro nonempty
    obtain ⟨entry, member⟩ := List.exists_mem_of_ne_nil _ nonempty
    obtain ⟨event, inEvents, own⟩ :=
      timesOf_ne_nil_iff.mp (mem_times_ofEvents_iff.mp member).1
    exact ⟨event, inEvents, Option.isSome_of_eq_some own⟩
  · rintro ⟨event, inEvents, timed⟩
    obtain ⟨labels, own⟩ := Option.isSome_iff_exists.mp timed
    exact List.ne_nil_of_mem (mem_times_ofEvents_iff.mpr
      ⟨timesOf_ne_nil_iff.mpr ⟨event, inEvents, own⟩, rfl⟩)

/-! ## Another order of events -/

/-- The counters do not depend on the order of events. -/
theorem series_ofEvents_eq_of_perm
    {events permuted : List Observation}
    (isPermuted : permuted.Perm events)
    (counter : Counter) :
    (ofEvents permuted).series counter = (ofEvents events).series counter := by
  refine Entries.eq_of_find?_eq ((ordered_ofEvents permuted).series counter)
    ((ordered_ofEvents events).series counter) fun labels => ?_
  have sameNumber : numberOf permuted counter labels =
      numberOf events counter labels :=
    isPermuted.countP_eq _
  rw [find?_series_ofEvents, find?_series_ofEvents, sameNumber]

/-- Nor do the numbers of the histograms. -/
theorem numbers_ofEvents_eq_of_perm
    {events permuted : List Observation}
    (isPermuted : permuted.Perm events) :
    (ofEvents permuted).times.map (Prod.map id Histogram.numbers) =
      (ofEvents events).times.map (Prod.map id Histogram.numbers) := by
  have increase (events : List Observation) :
      ((ofEvents events).times.map (Prod.map id Histogram.numbers)).Pairwise
        fun earlier later => earlier.1 < later.1 :=
    List.pairwise_map.mpr (ordered_ofEvents events).times
  refine Entries.eq_of_find?_eq (increase permuted) (increase events)
    fun labels => ?_
  have sameTimes : (timesOf permuted labels).Perm (timesOf events labels) :=
    isPermuted.filterMap _
  have bothEmpty : timesOf permuted labels = [] ↔ timesOf events labels = [] := by
    rw [← List.length_eq_zero_iff, sameTimes.length_eq, List.length_eq_zero_iff]
  rw [Entries.find?_map, Entries.find?_map, find?_times_ofEvents,
    find?_times_ofEvents]
  by_cases none : timesOf events labels = []
  · rw [if_pos none, if_pos (bothEmpty.mpr none)]
  · rw [if_neg none, if_neg (mt bothEmpty.mp none), Option.map_some,
      Option.map_some, Histogram.numbers_ofTimes, Histogram.numbers_ofTimes,
      Histogram.numbersOf_eq_of_perm sameTimes]

end Registry
end BookLookup
