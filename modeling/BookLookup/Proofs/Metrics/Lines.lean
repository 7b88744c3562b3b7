import BookLookup.Metrics.Exposition
import BookLookup.Proofs.Metrics.Tally
import BookLookup.Proofs.Text.Split

/-!
# The lines of the metrics

The text of the metrics is a list of lines. Below the two lines of every family
that has been observed stand its samples, one on a line: the name of a metric,
its labels and a value. No label value can pretend to be a part of the line
around it, so that a line tells its sample.
-/

namespace BookLookup

/-! ## Families and metrics -/

/-- The name of a counter. -/
def Counter.name : Counter -> String
  | requests => "catalog_http_requests_total"
  | scans => "catalog_store_scans_total"
  | signedUrls => "catalog_signed_urls_total"
  | rejections => "catalog_filter_rejections_total"

/-- What a counter means. -/
def Counter.help : Counter -> String
  | requests => "Catalog HTTP request count."
  | scans => "Record store scans by mode and outcome."
  | signedUrls => "Asset URL signing attempts."
  | rejections => "Query parameter sets rejected by the filter compiler."

deriving instance DecidableEq for Counter

/-- The families of metrics: every counter, and the times of requests. -/
inductive Family where
  | counter (which : Counter)
  | times
  deriving DecidableEq

/-- The metrics that have lines with values. The times have three. -/
inductive Metric where
  | counter (which : Counter)
  /-- The number of times up to a bound. -/
  | bucket
  | sum
  | count
  deriving DecidableEq

namespace Family

/-- The families in the order of their names. -/
def all : List Family :=
  [counter .rejections, times, counter .requests, counter .signedUrls,
    counter .scans]

theorem mem_all (family : Family) : family ∈ all := by
  cases family with
  | counter which => cases which <;> decide
  | times => decide

/-- The two lines above the samples of a family. -/
def header : Family -> List String
  | .counter which => Exposition.header which.name which.help "counter"
  | .times => Exposition.header "catalog_http_request_duration_seconds"
      "Catalog HTTP request duration in seconds." "histogram"

/-- Whether an event goes into a family. -/
def observes : Family -> Observation -> Bool
  | .counter which, event => (event.labels? which).isSome
  | .times, event => event.timeLabels?.isSome

/-- A line stands above one family only. -/
theorem eq_of_mem_header
    {family other : Family}
    {line : String}
    (isAbove : line ∈ family.header)
    (isAboveOther : line ∈ other.header) :
    family = other := by
  have apart : ∀ first ∈ all, ∀ second ∈ all, ∀ line ∈ first.header,
      line ∈ second.header -> first = second := by
    decide
  exact apart family family.mem_all other other.mem_all line isAbove isAboveOther

/-- The lines above families are comments without line feeds. -/
theorem comment_of_mem_header
    {family : Family}
    {line : String}
    (isAbove : line ∈ family.header) :
    line.toList.head? = some '#' ∧ '\n' ∉ line.toList := by
  have comments : ∀ line ∈ family.header,
      line.toList.head? = some '#' ∧ '\n' ∉ line.toList := by
    cases family with
    | counter which => cases which <;> decide
    | times => decide
  exact comments line isAbove

end Family

namespace Metric

/-- The name of a metric. -/
def name : Metric -> String
  | .counter which => which.name
  | .bucket => "catalog_http_request_duration_seconds_bucket"
  | .sum => "catalog_http_request_duration_seconds_sum"
  | .count => "catalog_http_request_duration_seconds_count"

/-- The names of the labels of a metric. -/
def labelNames : Metric -> List String
  | .counter which => which.labelNames
  | .bucket => timeLabelNames ++ ["le"]
  | .sum => timeLabelNames
  | .count => timeLabelNames

/-- The metrics. -/
def all : List Metric :=
  [counter .requests, counter .scans, counter .signedUrls, counter .rejections,
    bucket, sum, count]

theorem mem_all (metric : Metric) : metric ∈ all := by
  cases metric with
  | counter which => cases which <;> decide
  | bucket => decide
  | sum => decide
  | count => decide

theorem name_injective : Function.Injective name := by
  have distinct : (all.map name).Nodup := by decide
  intro metric other same
  exact List.inj_on_of_nodup_map distinct metric.mem_all other.mem_all same

theorem head?_name (metric : Metric) :
    metric.name.toList.head? = some 'c' := by
  cases metric with
  | counter which => cases which <;> decide
  | bucket => decide
  | sum => decide
  | count => decide

theorem not_mem_name (metric : Metric) :
    '\x7b' ∉ metric.name.toList ∧ '\n' ∉ metric.name.toList := by
  cases metric with
  | counter which => cases which <;> decide
  | bucket => decide
  | sum => decide
  | count => decide

theorem lineFeed_not_mem_labelNames (metric : Metric) :
    ∀ name ∈ metric.labelNames, '\n' ∉ name.toList := by
  cases metric with
  | counter which => cases which <;> decide
  | bucket => decide
  | sum => decide
  | count => decide

end Metric

/-! ## Samples -/

namespace Exposition

/-- In a written label value there is no line feed. -/
theorem lineFeed_not_mem_escapeChar (symbol : Char) :
    '\n' ∉ escapeChar symbol := by
  unfold escapeChar
  split
  · decide
  · split
    · decide
    · rename_i notFeed
      split
      · decide
      · simpa using Ne.symm notFeed

theorem escapeChar_append_inj
    {symbol other : Char}
    {rest more : List Char}
    (same : escapeChar symbol ++ rest = escapeChar other ++ more) :
    symbol = other ∧ rest = more := by
  unfold escapeChar at same
  grind

theorem quote_cons_ne_escapeChar_append
    (symbol : Char)
    (rest more : List Char) :
    '"' :: rest ≠ escapeChar symbol ++ more := by
  unfold escapeChar
  grind

/-- Two written label values before their quotation marks are told apart, and so
is what follows. -/
theorem escaped_append_quote_inj
    {value other rest more : List Char}
    (same : value.flatMap escapeChar ++ '"' :: rest =
      other.flatMap escapeChar ++ '"' :: more) :
    value = other ∧ rest = more := by
  induction value generalizing other with
  | nil =>
      cases other with
      | nil => exact ⟨rfl, (List.cons.inj same).2⟩
      | cons first others =>
          rw [List.flatMap_cons, List.append_assoc] at same
          exact absurd same (quote_cons_ne_escapeChar_append first _ _)
  | cons symbol symbols inductionHypothesis =>
      cases other with
      | nil =>
          rw [List.flatMap_cons, List.append_assoc] at same
          exact absurd same.symm (quote_cons_ne_escapeChar_append symbol _ _)
      | cons first others =>
          rw [List.flatMap_cons, List.flatMap_cons, List.append_assoc,
            List.append_assoc] at same
          obtain ⟨rfl, sameRest⟩ := escapeChar_append_inj same
          obtain ⟨rfl, onwards⟩ := inductionHypothesis sameRest
          exact ⟨rfl, onwards⟩

/-- Two labels of one name are told apart, and so is what follows. -/
theorem label_append_inj
    {name value other : String}
    {rest more : List Char}
    (same : (label name value).toList ++ rest =
      (label name other).toList ++ more) :
    value = other ∧ rest = more := by
  simp only [label, String.toList_append, String.toList_ofList,
    List.append_assoc] at same
  have values := List.append_cancel_left (List.append_cancel_left same)
  obtain ⟨sameValue, onwards⟩ := escaped_append_quote_inj values
  exact ⟨String.toList_injective sameValue, onwards⟩

/-- Labels of the same names before a closing brace are told apart, and so is
what follows. -/
theorem labelsOf_append_brace_inj
    {names values others : List String}
    {rest more : List Char}
    (fits : values.length = names.length)
    (othersFit : others.length = names.length)
    (same : (",".intercalate (labelsOf names values)).toList ++ '\x7d' :: rest =
      (",".intercalate (labelsOf names others)).toList ++ '\x7d' :: more) :
    values = others ∧ rest = more := by
  induction names generalizing values others with
  | nil =>
      obtain rfl := List.length_eq_zero_iff.mp fits
      obtain rfl := List.length_eq_zero_iff.mp othersFit
      exact ⟨rfl, (List.cons.inj same).2⟩
  | cons name names inductionHypothesis =>
      obtain ⟨value, values, rfl⟩ := List.exists_cons_of_length_eq_add_one fits
      obtain ⟨other, others, rfl⟩ :=
        List.exists_cons_of_length_eq_add_one othersFit
      cases names with
      | nil =>
          obtain rfl := List.length_eq_zero_iff.mp (Nat.succ.inj fits)
          obtain rfl := List.length_eq_zero_iff.mp (Nat.succ.inj othersFit)
          simp only [labelsOf, List.zip_cons_cons, List.zip_nil_left,
            List.map_cons, List.map_nil, String.intercalate_singleton] at same
          obtain ⟨rfl, closed⟩ := label_append_inj same
          exact ⟨rfl, (List.cons.inj closed).2⟩
      | cons second names =>
          obtain ⟨value', values, rfl⟩ :=
            List.exists_cons_of_length_eq_add_one (Nat.succ.inj fits)
          obtain ⟨other', others, rfl⟩ :=
            List.exists_cons_of_length_eq_add_one (Nat.succ.inj othersFit)
          simp only [labelsOf, List.zip_cons_cons, List.map_cons,
            String.intercalate_cons_cons, String.toList_append,
            List.append_assoc] at same
          obtain ⟨rfl, behind⟩ := label_append_inj same
          have onwards := List.append_cancel_left behind
          obtain ⟨sameValues, sameRest⟩ := inductionHypothesis
            (Nat.succ.inj fits) (Nat.succ.inj othersFit) onwards
          exact ⟨congrArg _ sameValues, sameRest⟩

end Exposition

/-- A value of a metric for some label values. -/
structure Sample where
  /-- The metric. -/
  metric : Metric
  /-- The label values in the order of the names of the labels. -/
  labels : List String
  /-- The value as it is written. -/
  value : String

namespace Sample

/-- The line of a sample. -/
def text (sample : Sample) : String :=
  Exposition.metric sample.metric.name
    (Exposition.labelsOf sample.metric.labelNames sample.labels) ++ " " ++
      sample.value

/-- Every label has one value. -/
def Fits (sample : Sample) : Prop :=
  sample.labels.length = sample.metric.labelNames.length

theorem toList_text (sample : Sample) :
    sample.text.toList = sample.metric.name.toList ++ '\x7b' ::
      ((",".intercalate (Exposition.labelsOf sample.metric.labelNames
        sample.labels)).toList ++ '\x7d' :: ' ' :: sample.value.toList) := by
  simp [text, Exposition.metric]

theorem head?_text (sample : Sample) :
    sample.text.toList.head? = some 'c' := by
  obtain ⟨rest, isName⟩ := List.head?_eq_some_iff.mp sample.metric.head?_name
  rw [toList_text, isName]
  rfl

/-- A line tells its sample. -/
theorem text_injective
    {sample other : Sample}
    (fits : sample.Fits)
    (otherFits : other.Fits)
    (same : sample.text = other.text) :
    sample = other := by
  obtain ⟨metric, labels, value⟩ := sample
  obtain ⟨otherMetric, otherLabels, otherValue⟩ := other
  have characters := congrArg String.toList same
  rw [toList_text, toList_text] at characters
  have front (metric : Metric) (rest : List Char) :
      (metric.name.toList ++ '\x7b' :: rest).takeWhile (· != '\x7b') =
        metric.name.toList := by
    rw [List.takeWhile_append_of_pos fun symbol member =>
      bne_iff_ne.mpr (ne_of_mem_of_not_mem member metric.not_mem_name.1)]
    simp
  have sameName := congrArg (List.takeWhile (· != '\x7b')) characters
  rw [front, front] at sameName
  obtain rfl := Metric.name_injective (String.toList_injective sameName)
  obtain ⟨rfl, behind⟩ := Exposition.labelsOf_append_brace_inj fits otherFits
    (List.cons.inj (List.append_cancel_left characters)).2
  exact congrArg (Sample.mk metric labels)
    (String.toList_injective (List.cons.inj behind).2)

end Sample

/-! ## The samples of a registry -/

/-- The bounds of the numbers of times as they are written. -/
def bucketBounds : List String :=
  Exposition.boundTexts ++ ["+Inf"]

/-- The samples of a histogram: its numbers with their bounds, the sum of the
times and their number. -/
def Histogram.samples
    (labels : List String)
    (histogram : Histogram) : List Sample :=
  (bucketBounds.zip histogram.numbers).map (fun (bound, number) =>
      ⟨.bucket, labels ++ [bound], Decimal.text number⟩) ++
    [⟨.sum, labels, Shortest.text histogram.sum⟩,
      ⟨.count, labels, Decimal.text histogram.count⟩]

/-- The samples of a family. -/
def Registry.samples (registry : Registry) : Family -> List Sample
  | .counter which => (registry.series which).map fun (labels, number) =>
      ⟨.counter which, labels, Decimal.text number⟩
  | .times => registry.times.flatMap fun (labels, histogram) =>
      histogram.samples labels

namespace Exposition

/-- The lines of a family with some samples. -/
def familyLines (family : Family) (samples : List Sample) : List String :=
  if samples = [] then [] else family.header ++ samples.map Sample.text

/-- A family whose lines are those of some samples. -/
theorem family_eq
    {α : Type}
    {name help type : String}
    {series : Series α}
    {lines : List String × α -> List String}
    {kind : Family}
    {samples : List Sample}
    (above : header name help type = kind.header)
    (told : series.flatMap lines = samples.map Sample.text)
    (bothEmpty : series = [] ↔ samples = []) :
    family name help type series lines = familyLines kind samples := by
  rw [family, familyLines, above, told]
  by_cases noSamples : samples = []
  · rw [if_pos noSamples, if_pos (List.isEmpty_iff.mpr (bothEmpty.mpr noSamples))]
  · rw [if_neg noSamples, if_neg]
    exact mt List.isEmpty_iff.mp (mt bothEmpty.mp noSamples)

theorem counters_eq (counter : Counter) (registry : Registry) :
    counters counter.name counter.help counter.labelNames
        (registry.series counter) =
      familyLines (.counter counter) (registry.samples (.counter counter)) := by
  refine family_eq rfl ?_ List.map_eq_nil_iff.symm
  rw [Registry.samples, List.map_map, List.map_eq_flatMap]
  rfl

/-- The lines of a histogram are those of its samples. -/
theorem histogram_eq
    {labels : List String}
    {values : Histogram}
    (fits : labels.length = timeLabelNames.length)
    (bounded : values.upTo.length = boundTexts.length) :
    histogram "catalog_http_request_duration_seconds"
        (labelsOf timeLabelNames labels) values =
      (values.samples labels).map Sample.text := by
  have bucket (bound : String) (number : Nat) :
      metric ("catalog_http_request_duration_seconds" ++ "_bucket")
          (labelsOf timeLabelNames labels ++ [label "le" bound]) ++ " " ++
        Decimal.text number =
      (Sample.mk .bucket (labels ++ [bound]) (Decimal.text number)).text := by
    rw [Sample.text, Metric.labelNames, labelsOf, labelsOf,
      List.zip_append fits.symm, List.map_append]
    rfl
  simp only [histogram, bucket, Histogram.samples, bucketBounds,
    Histogram.numbers, List.zip_append bounded.symm, List.map_append,
    List.map_map, List.append_assoc]
  rfl

end Exposition

namespace Registry

/-- The label values of the times of some events are those of one of them. -/
theorem length_of_timesOf_ne_nil
    {events : List Observation}
    {labels : List String}
    (nonempty : timesOf events labels ≠ []) :
    labels.length = timeLabelNames.length := by
  obtain ⟨event, -, own⟩ := timesOf_ne_nil_iff.mp nonempty
  cases event with
  | request route method status elapsed =>
      cases own
      rfl
  | scan mode outcome => cases own
  | signedUrl outcome => cases own
  | rejection reason => cases own

/-- The label values of a counter that have been observed are those of one of
the events. -/
theorem length_of_numberOf_pos
    {events : List Observation}
    {counter : Counter}
    {labels : List String}
    (positive : 0 < numberOf events counter labels) :
    labels.length = counter.labelNames.length := by
  obtain ⟨event, -, own⟩ := numberOf_pos_iff.mp positive
  cases event <;> cases counter <;> cases own <;> rfl

theorem samples_times_eq_nil_iff {registry : Registry} :
    registry.samples .times = [] ↔ registry.times = [] := by
  rw [samples]
  cases registry.times with
  | nil => simp
  | cons entry others => simp [Histogram.samples]

/-- The lines of the metrics are those of the samples of every family. -/
theorem lines_ofEvents (events : List Observation) :
    Exposition.lines (ofEvents events) = Family.all.flatMap fun family =>
      Exposition.familyLines family ((ofEvents events).samples family) := by
  have times : Exposition.family "catalog_http_request_duration_seconds"
      "Catalog HTTP request duration in seconds." "histogram"
      (ofEvents events).times (fun (values, times) =>
        Exposition.histogram "catalog_http_request_duration_seconds"
          (Exposition.labelsOf ["method", "outcome", "route"] values) times) =
      Exposition.familyLines .times ((ofEvents events).samples .times) := by
    refine Exposition.family_eq rfl ?_ ?_
    · rw [samples, List.map_flatMap]
      refine List.flatMap_congr fun (labels, histogram) member => ?_
      obtain ⟨nonempty, rfl⟩ := mem_times_ofEvents_iff.mp member
      refine Exposition.histogram_eq (length_of_timesOf_ne_nil nonempty) ?_
      rw [Histogram.upTo_ofTimes, List.length_map]
      rfl
    · exact samples_times_eq_nil_iff.symm
  have counter (which : Counter) := Exposition.counters_eq which (ofEvents events)
  have rejections := counter .rejections
  have requests := counter .requests
  have signedUrls := counter .signedUrls
  have scans := counter .scans
  dsimp only [Counter.name, Counter.help, Counter.labelNames, series] at *
  rw [Exposition.lines, times, rejections, requests, signedUrls, scans]
  simp [Family.all]

end Registry
end BookLookup
