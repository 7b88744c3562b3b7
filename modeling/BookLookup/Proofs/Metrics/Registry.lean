import BookLookup.Metrics.Registry
import BookLookup.Proofs.Text.Decimal
import Mathlib.Algebra.BigOperators.Group.List.Basic
import Mathlib.Algebra.Ring.Nat
import Mathlib.Data.List.Range

/-!
# Counters add up what has been observed

A selector asks for some labels to have some values. The sum of the counters
that it selects is the number of the observed events that it selects, and the
same holds of the numbers of times.
-/

namespace BookLookup

/-! ## Sums over a series -/

namespace Series

variable {α : Type}

/-- Whether a selector, pairs of names and values, agrees with label values in
the order of their names. -/
def selects
    (names : List String)
    (selector : List (String × String))
    (labels : List String) : Bool :=
  selector.all fun wanted => (names.zip labels).contains wanted

/-- The label values of a series increase strictly. -/
def Ordered (series : Series α) : Prop :=
  series.Pairwise fun earlier later => earlier.1 < later.1

/-- The sum of what the chosen entries of a series weigh. -/
def total
    (weight : α -> Nat)
    (chosen : List String -> Bool)
    (series : Series α) : Nat :=
  ((series.filter fun entry => chosen entry.1).map
    fun entry => weight entry.2).sum

variable {weight : α -> Nat} {chosen : List String -> Bool}

@[simp] theorem total_nil :
    total weight chosen [] = 0 := rfl

theorem total_cons
    (entry : List String × α)
    (rest : Series α) :
    total weight chosen (entry :: rest) =
      (if chosen entry.1 then weight entry.2 else 0) +
        total weight chosen rest := by
  unfold total
  rw [List.filter_cons]
  split
  · rfl
  · rw [Nat.zero_add]

/-- Labels before all others are not found. -/
theorem find?_eq_none_of_forall_lt
    {labels : List String}
    {series : Series α}
    (before : ∀ entry ∈ series, labels < entry.1) :
    Entries.find? labels series = none := by
  induction series with
  | nil => rfl
  | cons entry rest inductionHypothesis =>
      obtain ⟨here, inRest⟩ := List.forall_mem_cons.mp before
      have differs : labels ≠ entry.1 := by
        rintro rfl
        exact Std.lt_irrefl here
      rw [Entries.find?, if_neg differs]
      exact inductionHypothesis inRest

/-- After an insertion the sum has the new value in place of the old one. -/
theorem total_insert
    {series : Series α}
    (ordered : Ordered series)
    (labels : List String)
    (value : α) :
    total weight chosen (Entries.insert labels value series) +
        (if chosen labels then
          ((Entries.find? labels series).map weight).getD 0 else 0) =
      total weight chosen series +
        if chosen labels then weight value else 0 := by
  induction series with
  | nil => simp [Entries.insert, total_cons]
  | cons entry rest inductionHypothesis =>
      obtain ⟨below, restOrdered⟩ := List.pairwise_cons.mp ordered
      rw [Entries.insert]
      split
      · rename_i before
        have absent : Entries.find? labels (entry :: rest) = none := by
          apply find?_eq_none_of_forall_lt
          refine List.forall_mem_cons.mpr ⟨before, ?_⟩
          intro other member
          exact Std.lt_trans before (below other member)
        rw [absent, total_cons]
        simp [Nat.add_comm]
      · split
        · rename_i same
          rw [Entries.find?, if_pos same, total_cons, total_cons, ← same]
          simp only [Option.map_some, Option.getD_some]
          omega
        · rename_i differs
          have inRest := inductionHypothesis restOrdered
          rw [Entries.find?, if_neg differs, total_cons, total_cons]
          omega

/-- A counter that goes up by one adds one to the sums it is part of. -/
theorem total_increment
    {series : Series Nat}
    (ordered : Ordered series)
    (labels : List String) :
    total id chosen (Registry.increment labels series) =
      total id chosen series + if chosen labels then 1 else 0 := by
  have inserted : total id chosen (Registry.increment labels series) +
      (if chosen labels then
        ((Entries.find? labels series).map id).getD 0 else 0) = _ :=
    total_insert ordered labels ((Entries.find? labels series).getD 0 + 1)
  rw [Option.map_id] at inserted
  split
  · rename_i isChosen
    simp only [isChosen, if_true, id_eq] at inserted
    omega
  · rename_i notChosen
    simpa [notChosen] using inserted

/-- A time more adds one to the numbers of times it is part of. -/
theorem total_record
    {series : Series Histogram}
    (ordered : Ordered series)
    (labels : List String)
    (time : Duration) :
    total Histogram.count chosen (Registry.record labels time series) =
      total Histogram.count chosen series + if chosen labels then 1 else 0 := by
  have inserted : total Histogram.count chosen
      (Registry.record labels time series) +
      (if chosen labels then
        ((Entries.find? labels series).map Histogram.count).getD 0 else 0) =
        _ :=
    total_insert ordered labels
      (((Entries.find? labels series).getD .empty).observe time)
  have counted : (((Entries.find? labels series).getD .empty).observe
      time).count =
      ((Entries.find? labels series).map Histogram.count).getD 0 + 1 := by
    cases Entries.find? labels series with
    | none => rfl
    | some histogram => rfl
  rw [counted] at inserted
  split
  · rename_i isChosen
    simp only [isChosen, if_true] at inserted
    omega
  · rename_i notChosen
    simpa [notChosen] using inserted

end Series

/-! ## The counters of a registry -/

/-- The families of counters. -/
inductive Counter where
  | requests
  | scans
  | signedUrls
  | rejections

/-- The names of the labels of a counter, in order. -/
def Counter.labelNames : Counter -> List String
  | requests => ["method", "route", "status"]
  | scans => ["mode", "outcome"]
  | signedUrls => ["outcome"]
  | rejections => ["reason"]

/-- The names of the labels of the times, in order. -/
def timeLabelNames : List String :=
  ["method", "outcome", "route"]

namespace Observation

/-- The label values under which an event goes into a counter, if it does. -/
def labels? : Counter -> Observation -> Option (List String)
  | .requests, request route method status _ =>
      some [method, route, Decimal.text status]
  | .scans, scan mode outcome => some [mode, outcome]
  | .signedUrls, signedUrl outcome => some [outcome]
  | .rejections, rejection reason => some [reason]
  | _, _ => none

/-- The label values under which the time of an event is kept, if it has one. -/
def timeLabels? : Observation -> Option (List String)
  | request route method status _ =>
      some [method, Registry.outcomeOf status, route]
  | _ => none

/-- Whether an event goes into the selected part of a counter. -/
def isCounted
    (counter : Counter)
    (selector : List (String × String))
    (event : Observation) : Bool :=
  (event.labels? counter).any (Series.selects counter.labelNames selector)

/-- Whether the time of an event goes into the selected part of the times. -/
def isTimed
    (selector : List (String × String))
    (event : Observation) : Bool :=
  event.timeLabels?.any (Series.selects timeLabelNames selector)

@[simp] theorem isCounted_scans_mode (wanted mode outcome : String) :
    isCounted .scans [("mode", wanted)] (.scan mode outcome) =
      (mode == wanted) := by
  simp [isCounted, labels?, Series.selects, Counter.labelNames,
    beq_eq_decide, eq_comm]

@[simp] theorem isCounted_scans_outcome (wanted mode outcome : String) :
    isCounted .scans [("outcome", wanted)] (.scan mode outcome) =
      (outcome == wanted) := by
  simp [isCounted, labels?, Series.selects, Counter.labelNames,
    beq_eq_decide, eq_comm]

@[simp] theorem isCounted_signedUrls (wanted outcome : String) :
    isCounted .signedUrls [("outcome", wanted)] (.signedUrl outcome) =
      (outcome == wanted) := by
  simp [isCounted, labels?, Series.selects, Counter.labelNames,
    beq_eq_decide, eq_comm]

end Observation

namespace Registry

/-- The values of a counter. -/
def series (registry : Registry) : Counter -> Series Nat
  | .requests => registry.requests
  | .scans => registry.scans
  | .signedUrls => registry.signedUrls
  | .rejections => registry.rejections

/-- The sum of the selected part of a counter. -/
def sum
    (registry : Registry)
    (counter : Counter)
    (selector : List (String × String)) : Nat :=
  Series.total id (Series.selects counter.labelNames selector)
    (registry.series counter)

/-- The number of times in the selected part of the times. -/
def timeCount
    (registry : Registry)
    (selector : List (String × String)) : Nat :=
  Series.total Histogram.count (Series.selects timeLabelNames selector)
    registry.times

/-- The label values of every family increase strictly. -/
structure Ordered (registry : Registry) : Prop where
  /-- Those of the counters do. -/
  series : ∀ counter, Series.Ordered (registry.series counter)
  /-- Those of the times do. -/
  times : Series.Ordered registry.times

theorem ordered_empty : Ordered .empty := by
  refine ⟨?_, .nil⟩
  intro counter
  cases counter with
  | requests => exact .nil
  | scans => exact .nil
  | signedUrls => exact .nil
  | rejections => exact .nil

/-- What an event does to a counter. -/
theorem series_observe
    (registry : Registry)
    (event : Observation)
    (counter : Counter) :
    (registry.observe event).series counter =
      match event.labels? counter with
      | some labels => increment labels (registry.series counter)
      | none => registry.series counter := by
  cases event <;> cases counter <;> rfl

/-- The value of a counter for some label values, nought if they have not been
observed. -/
def value
    (registry : Registry)
    (counter : Counter)
    (labels : List String) : Nat :=
  (Entries.find? labels (registry.series counter)).getD 0

/-- An event adds one to the value of its labels. -/
theorem value_observe
    (registry : Registry)
    (event : Observation)
    (counter : Counter)
    (labels : List String) :
    (registry.observe event).value counter labels =
      registry.value counter labels +
        if event.labels? counter = some labels then 1 else 0 := by
  unfold value
  rw [series_observe]
  cases event.labels? counter with
  | none => simp
  | some own =>
      dsimp only
      rw [find?_increment]
      by_cases same : labels = own
      · simp [same]
      · simp [same, Ne.symm same]

/-- A value goes up by the number of events with its labels. -/
theorem value_observeAll
    (registry : Registry)
    (events : List Observation)
    (counter : Counter)
    (labels : List String) :
    (registry.observeAll events).value counter labels =
      registry.value counter labels +
        events.countP fun event => event.labels? counter = some labels := by
  induction events generalizing registry with
  | nil => rfl
  | cons event later inductionHypothesis =>
      have onwards := inductionHypothesis (registry.observe event)
      rw [value_observe] at onwards
      rw [List.countP_cons]
      change ((registry.observe event).observeAll later).value _ _ = _
      simp only [decide_eq_true_eq]
      omega

/-- Events that do not go into a counter leave it as it is. -/
theorem series_observeAll_of_forall
    (registry : Registry)
    {events : List Observation}
    {counter : Counter}
    (others : ∀ event ∈ events, event.labels? counter = none) :
    (registry.observeAll events).series counter = registry.series counter := by
  induction events generalizing registry with
  | nil => rfl
  | cons event later inductionHypothesis =>
      obtain ⟨here, onwards⟩ := List.forall_mem_cons.mp others
      have same : (registry.observe event).series counter =
          registry.series counter := by
        rw [series_observe, here]
      rw [← same]
      exact inductionHypothesis (registry.observe event) onwards

/-- What an event does to the times. -/
theorem times_observe
    (registry : Registry)
    (event : Observation) :
    (registry.observe event).times = registry.times ∧
        event.timeLabels? = none ∨
      ∃ labels elapsed, event.timeLabels? = some labels ∧
        (registry.observe event).times =
          record labels elapsed registry.times := by
  cases event with
  | request route method status elapsed => exact .inr ⟨_, elapsed, rfl, rfl⟩
  | scan mode outcome => exact .inl ⟨rfl, rfl⟩
  | signedUrl outcome => exact .inl ⟨rfl, rfl⟩
  | rejection reason => exact .inl ⟨rfl, rfl⟩

/-- Label values stay in order. -/
theorem Ordered.observe
    {registry : Registry}
    (ordered : registry.Ordered)
    (event : Observation) :
    (registry.observe event).Ordered := by
  constructor
  · intro counter
    rw [series_observe]
    split
    · exact Entries.pairwise_insert (ordered.series counter) _ _
    · exact ordered.series counter
  · rcases registry.times_observe event with
      ⟨same, -⟩ | ⟨labels, elapsed, -, recorded⟩
    · rw [same]
      exact ordered.times
    · rw [recorded]
      exact Entries.pairwise_insert ordered.times _ _

/-- Label values stay in order over any events. -/
theorem Ordered.observeAll
    {registry : Registry}
    (ordered : registry.Ordered)
    (events : List Observation) :
    (registry.observeAll events).Ordered := by
  induction events generalizing registry with
  | nil => exact ordered
  | cons event later inductionHypothesis =>
      exact inductionHypothesis (ordered.observe event)

/-- An event adds one to the sums it goes into. -/
theorem sum_observe
    {registry : Registry}
    (ordered : registry.Ordered)
    (event : Observation)
    (counter : Counter)
    (selector : List (String × String)) :
    (registry.observe event).sum counter selector =
      registry.sum counter selector +
        if event.isCounted counter selector then 1 else 0 := by
  unfold sum Observation.isCounted
  rw [series_observe]
  cases event.labels? counter with
  | none => rfl
  | some labels => exact Series.total_increment (ordered.series counter) labels

/-- The time of an event adds one to the numbers of times it goes into. -/
theorem timeCount_observe
    {registry : Registry}
    (ordered : registry.Ordered)
    (event : Observation)
    (selector : List (String × String)) :
    (registry.observe event).timeCount selector =
      registry.timeCount selector +
        if event.isTimed selector then 1 else 0 := by
  unfold timeCount Observation.isTimed
  rcases registry.times_observe event with
    ⟨same, untimed⟩ | ⟨labels, elapsed, timed, recorded⟩
  · rw [same, untimed]
    rfl
  · rw [recorded, timed]
    exact Series.total_record ordered.times labels elapsed

/-- A sum goes up by the number of events that go into it. -/
theorem sum_observeAll
    {registry : Registry}
    (ordered : registry.Ordered)
    (events : List Observation)
    (counter : Counter)
    (selector : List (String × String)) :
    (registry.observeAll events).sum counter selector =
      registry.sum counter selector +
        events.countP (Observation.isCounted counter selector) := by
  induction events generalizing registry with
  | nil => rfl
  | cons event later inductionHypothesis =>
      have onwards := inductionHypothesis (ordered.observe event)
      rw [sum_observe ordered] at onwards
      rw [List.countP_cons]
      change ((registry.observe event).observeAll later).sum _ _ = _
      omega

/-- A number of times goes up by the number of events whose times go into
it. -/
theorem timeCount_observeAll
    {registry : Registry}
    (ordered : registry.Ordered)
    (events : List Observation)
    (selector : List (String × String)) :
    (registry.observeAll events).timeCount selector =
      registry.timeCount selector +
        events.countP (Observation.isTimed selector) := by
  induction events generalizing registry with
  | nil => rfl
  | cons event later inductionHypothesis =>
      have onwards := inductionHypothesis (ordered.observe event)
      rw [timeCount_observe ordered] at onwards
      rw [List.countP_cons]
      change ((registry.observe event).observeAll later).timeCount _ = _
      omega

/-- From nothing counted on, a sum is the number of events that go into it. -/
theorem sum_observeAll_empty
    (events : List Observation)
    (counter : Counter)
    (selector : List (String × String)) :
    (empty.observeAll events).sum counter selector =
      events.countP (Observation.isCounted counter selector) := by
  have nothing : empty.sum counter selector = 0 := by
    cases counter with
    | requests => rfl
    | scans => rfl
    | signedUrls => rfl
    | rejections => rfl
  rw [sum_observeAll ordered_empty, nothing, Nat.zero_add]

theorem timeCount_observeAll_empty
    (events : List Observation)
    (selector : List (String × String)) :
    (empty.observeAll events).timeCount selector =
      events.countP (Observation.isTimed selector) := by
  have nothing : empty.timeCount selector = 0 := rfl
  rw [timeCount_observeAll ordered_empty, nothing, Nat.zero_add]

end Registry

/-! ## Requests and their times -/

/-- What is chosen by exactly one of some choices if at all is counted by
counting for every choice. -/
theorem countP_eq_sum_countP
    {α ι : Type}
    {chosen : α -> Bool}
    {choices : List ι}
    {choose : ι -> α -> Bool}
    (once : ∀ value,
      choices.countP (fun choice => choose choice value) =
        if chosen value then 1 else 0)
    (values : List α) :
    values.countP chosen =
      (choices.map fun choice => values.countP (choose choice)).sum := by
  induction values with
  | nil => simp
  | cons value others inductionHypothesis =>
      have indicated (list : List ι) :
          (list.map fun choice => if choose choice value then 1 else 0).sum =
            list.countP fun choice => choose choice value := by
        induction list with
        | nil => rfl
        | cons first later onwards =>
            rw [List.map_cons, List.sum_cons, onwards, List.countP_cons,
              Nat.add_comm]
      simp only [List.countP_cons]
      rw [List.sum_map_add, indicated, once, inductionHypothesis]

/-- The statuses that stand for success. -/
def successStatuses : List Nat :=
  List.range' 200 200

theorem mem_successStatuses_iff {status : Nat} :
    status ∈ successStatuses ↔ Registry.outcomeOf status = "success" := by
  unfold successStatuses Registry.outcomeOf
  rw [List.mem_range'_1]
  split
  · rename_i success
    exact iff_of_true success rfl
  · rename_i failure
    exact iff_of_false failure (by decide)

namespace Observation

/-- The time of a request on a route is kept if the request is counted. -/
theorem isTimed_route_eq (route : String) :
    isTimed [("route", route)] = isCounted .requests [("route", route)] := by
  funext event
  cases event with
  | request own method status elapsed =>
      simp [isTimed, isCounted, timeLabels?, labels?, Series.selects,
        timeLabelNames, Counter.labelNames]
  | scan mode outcome => rfl
  | signedUrl outcome => rfl
  | rejection reason => rfl

/-- A request whose time is that of a success is counted for one of the statuses
of success, and for no other. -/
theorem countP_isCounted_successStatuses
    (route : String)
    (event : Observation) :
    successStatuses.countP (fun status =>
        event.isCounted .requests
          [("route", route), ("status", Decimal.text status)]) =
      if event.isTimed [("outcome", "success"), ("route", route)]
      then 1 else 0 := by
  cases event with
  | request own method status elapsed =>
      have counted (wanted : Nat) :
          (request own method status elapsed).isCounted .requests
              [("route", route), ("status", Decimal.text wanted)] =
            (decide (route = own) && decide (wanted = status)) := by
        simp only [isCounted, labels?, Option.any_some, Series.selects,
          Counter.labelNames]
        simp [Decimal.text_injective.eq_iff]
      have timed : (request own method status elapsed).isTimed
          [("outcome", "success"), ("route", route)] =
            (decide (route = own) && decide (status ∈ successStatuses)) := by
        simp [isTimed, timeLabels?, Series.selects, timeLabelNames,
          mem_successStatuses_iff, Bool.and_comm, eq_comm]
      have distinct : successStatuses.Nodup := List.nodup_range'
      simp only [counted, timed]
      cases decide (route = own) with
      | false => exact List.countP_eq_zero.mpr fun _ _ => Bool.false_ne_true
      | true =>
          simp only [Bool.true_and, decide_eq_true_eq]
          exact distinct.count
  | scan mode outcome =>
      exact List.countP_eq_zero.mpr fun _ _ => Bool.false_ne_true
  | signedUrl outcome =>
      exact List.countP_eq_zero.mpr fun _ _ => Bool.false_ne_true
  | rejection reason =>
      exact List.countP_eq_zero.mpr fun _ _ => Bool.false_ne_true

end Observation
end BookLookup
