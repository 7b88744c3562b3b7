import BookLookup.Proofs.Metrics.Lines

/-!
# The text of the metrics tells what was observed

Every line of the text is one of the two above a family that was observed, or
that of a sample. A counter line tells how many events had its label values, and
the lines of a histogram tell how many times there were up to every bound. So the
order of the events shows in the sums of the times alone.
-/

namespace BookLookup

/-! ## Lines without line feeds -/

namespace Shortest

/-- A decimal is made of digits and a point. -/
theorem mem_render
    {point : GridPoint}
    {symbol : Char}
    (member : symbol ∈ point.render) :
    symbol.isDigit ∨ symbol = '.' := by
  unfold GridPoint.render at member
  generalize ofDigits : Decimal.padded (point.down + 1)
    (point.digits * Nat.pow 10 point.up) = digits at member
  have digit {symbol : Char} (inDigits : symbol ∈ digits) : symbol.isDigit :=
    Decimal.isDigit_of_mem_padded (ofDigits ▸ inDigits)
  dsimp only at member
  split at member
  · exact .inl (digit (List.mem_of_mem_take member))
  · rcases List.mem_append.mp member with whole | fraction
    · exact .inl (digit (List.mem_of_mem_take whole))
    · rcases List.mem_cons.mp fraction with point | behind
      · exact .inr point
      · have kept := List.dropWhile_subset _ (List.mem_reverse.mp behind)
        exact .inl (digit (List.mem_of_mem_drop (List.mem_reverse.mp kept)))

/-- In the text of a floating-point number there is no line feed. -/
theorem lineFeed_not_mem_text (number : Float) :
    '\n' ∉ (text number).toList := by
  unfold text
  split
  · decide
  · split
    · decide
    · dsimp only
      split
      · decide
      · rw [String.toList_ofList]
        intro member
        rcases mem_render member with digit | point
        · exact absurd digit (by decide)
        · exact absurd point (by decide)

end Shortest

theorem Decimal.lineFeed_not_mem_text (number : Nat) :
    '\n' ∉ (text number).toList := by
  rw [text, String.toList_ofList]
  intro member
  exact absurd (isDigit_of_mem_digits member) (by decide)

namespace Exposition

/-- In the labels of a line there is no line feed if there is none in their
names. -/
theorem lineFeed_not_mem_labelsOf
    {names : List String}
    (plain : ∀ name ∈ names, '\n' ∉ name.toList)
    (values : List String) :
    '\n' ∉ (",".intercalate (labelsOf names values)).toList := by
  have comma : ",".toList = [','] := rfl
  rw [String.toList_intercalate, comma, ← Split.join_eq_intercalate]
  intro member
  rcases Split.mem_join member with separator | ⟨part, isPart, inPart⟩
  · exact absurd separator (by decide)
  · obtain ⟨line, isLabel, rfl⟩ := List.mem_map.mp isPart
    obtain ⟨⟨name, value⟩, isPair, rfl⟩ := List.mem_map.mp isLabel
    have inValue : '\n' ∉ value.toList.flatMap escapeChar := by
      intro feed
      obtain ⟨symbol, -, written⟩ := List.mem_flatMap.mp feed
      exact lineFeed_not_mem_escapeChar symbol written
    simp [label, plain name (List.of_mem_zip isPair).1, inValue] at inPart

/-- The lines of a text that ends in a line feed. -/
def linesOf (text : String) : List String :=
  ((text.toList.splitOn '\n').map String.ofList).dropLast

/-- Lines that end in line feeds are lines with line feeds between them and behind
the last. -/
theorem toList_join_lines (lines : List String) :
    (String.join (lines.map (· ++ "\n"))).toList =
      ['\n'].intercalate (lines.map String.toList ++ [[]]) := by
  induction lines with
  | nil => rfl
  | cons line others inductionHypothesis =>
      rw [List.map_cons, String.join_cons, String.toList_append,
        inductionHypothesis, List.map_cons, List.cons_append,
        List.intercalate_cons_of_ne_nil
          (List.append_ne_nil_of_right_ne_nil _ (List.cons_ne_nil _ _))]
      simp

/-- Lines without line feeds are found again in their text. -/
theorem linesOf_join
    {lines : List String}
    (noFeeds : ∀ line ∈ lines, '\n' ∉ line.toList) :
    linesOf (String.join (lines.map (· ++ "\n"))) = lines := by
  have absent : ∀ part ∈ lines.map String.toList ++ [[]], '\n' ∉ part := by
    intro part member
    rcases List.mem_append.mp member with isLine | isEmpty
    · obtain ⟨line, inLines, rfl⟩ := List.mem_map.mp isLine
      exact noFeeds line inLines
    · rw [List.mem_singleton.mp isEmpty]
      exact List.not_mem_nil
  rw [linesOf, toList_join_lines, List.splitOn_intercalate '\n' absent
    (List.append_ne_nil_of_right_ne_nil _ (List.cons_ne_nil _ _)),
    List.map_append, List.map_map]
  simp [Function.comp_def]

end Exposition

/-- In the line of a sample there is no line feed if there is none in its
value. -/
theorem Sample.lineFeed_not_mem_text
    {sample : Sample}
    (plain : '\n' ∉ sample.value.toList) :
    '\n' ∉ sample.text.toList := by
  have inName := sample.metric.not_mem_name.2
  have inLabels := Exposition.lineFeed_not_mem_labelsOf
    sample.metric.lineFeed_not_mem_labelNames sample.labels
  rw [toList_text]
  simp [inName, plain, inLabels, -String.toList_intercalate]

/-! ## What is told -/

/-- A sample tells what was observed: how often the label values of a counter
were, how many times there were up to a bound or at all, or their sum in the
order in which they were observed. -/
inductive Sample.IsTrue (events : List Observation) : Sample -> Prop where
  /-- A counter tells the number of the events. -/
  | counter
      {which : Counter}
      {labels : List String}
      (observed : 0 < Registry.numberOf events which labels) :
      IsTrue events ⟨.counter which, labels,
        Decimal.text (Registry.numberOf events which labels)⟩
  /-- A bound tells the number of times up to it. -/
  | bucket
      {labels : List String}
      {bound : String}
      {number : Nat}
      (observed : Registry.timesOf events labels ≠ [])
      (upTo : (bound, number) ∈ bucketBounds.zip
        (Histogram.numbersOf (Registry.timesOf events labels))) :
      IsTrue events ⟨.bucket, labels ++ [bound], Decimal.text number⟩
  | sum
      {labels : List String}
      (observed : Registry.timesOf events labels ≠ []) :
      IsTrue events ⟨.sum, labels, Shortest.text
        (Histogram.ofTimes (Registry.timesOf events labels)).sum⟩
  | count
      {labels : List String}
      (observed : Registry.timesOf events labels ≠ []) :
      IsTrue events ⟨.count, labels,
        Decimal.text (Registry.timesOf events labels).length⟩

namespace Registry

/-- The samples that are written are those that tell what was observed. -/
theorem exists_mem_samples_iff
    {events : List Observation}
    {sample : Sample} :
    (∃ family, sample ∈ (ofEvents events).samples family) ↔
      sample.IsTrue events := by
  constructor
  · rintro ⟨family, member⟩
    cases family with
    | counter which =>
        obtain ⟨⟨labels, number⟩, inSeries, rfl⟩ := List.mem_map.mp member
        obtain ⟨observed, rfl⟩ := mem_series_ofEvents_iff.mp inSeries
        exact .counter observed
    | times =>
        obtain ⟨⟨labels, histogram⟩, inTimes, isSample⟩ :=
          List.mem_flatMap.mp member
        obtain ⟨observed, rfl⟩ := mem_times_ofEvents_iff.mp inTimes
        dsimp only at isSample
        rw [Histogram.samples, Histogram.numbers_ofTimes,
          Histogram.count_ofTimes, List.mem_append] at isSample
        rcases isSample with isBucket | isOther
        · obtain ⟨⟨bound, number⟩, upTo, rfl⟩ := List.mem_map.mp isBucket
          exact .bucket observed upTo
        · rcases List.mem_pair.mp isOther with rfl | rfl
          · exact .sum observed
          · exact .count observed
  · intro isTrue
    have kept {labels : List String} (observed : timesOf events labels ≠ []) :
        ∀ sample ∈ (Histogram.ofTimes (timesOf events labels)).samples labels,
          sample ∈ (ofEvents events).samples .times := fun sample isSample =>
      List.mem_flatMap.mpr
        ⟨(labels, _), mem_times_ofEvents_iff.mpr ⟨observed, rfl⟩, isSample⟩
    cases isTrue with
    | counter observed =>
        exact ⟨.counter _, List.mem_map.mpr
          ⟨(_, _), mem_series_ofEvents_iff.mpr ⟨observed, rfl⟩, rfl⟩⟩
    | bucket observed upTo =>
        refine ⟨.times, kept observed _ (List.mem_append_left _ ?_)⟩
        rw [Histogram.numbers_ofTimes]
        exact List.mem_map.mpr ⟨_, upTo, rfl⟩
    | sum observed =>
        exact ⟨.times, kept observed _ (List.mem_append_right _
          List.mem_cons_self)⟩
    | count observed =>
        refine ⟨.times, kept observed _ (List.mem_append_right _ ?_)⟩
        rw [Histogram.count_ofTimes]
        exact List.mem_cons_of_mem _ List.mem_cons_self

/-- A family has samples if an event has gone into it. -/
theorem samples_ne_nil_iff
    {events : List Observation}
    {family : Family} :
    (ofEvents events).samples family ≠ [] ↔
      ∃ event ∈ events, family.observes event := by
  cases family with
  | counter which =>
      rw [samples, Ne, List.map_eq_nil_iff]
      exact series_ofEvents_ne_nil_iff
  | times =>
      rw [Ne, samples_times_eq_nil_iff]
      exact times_ofEvents_ne_nil_iff

end Registry

namespace Sample

/-- A sample that is true has one value for every label. -/
theorem IsTrue.fits
    {events : List Observation}
    {sample : Sample}
    (isTrue : sample.IsTrue events) :
    sample.Fits := by
  cases isTrue with
  | counter observed => exact Registry.length_of_numberOf_pos observed
  | bucket observed upTo =>
      have length := Registry.length_of_timesOf_ne_nil observed
      rw [Fits, List.length_append, length]
      rfl
  | sum observed => exact Registry.length_of_timesOf_ne_nil observed
  | count observed => exact Registry.length_of_timesOf_ne_nil observed

/-- Its line has no line feed. -/
theorem IsTrue.lineFeed_not_mem_text
    {events : List Observation}
    {sample : Sample}
    (isTrue : sample.IsTrue events) :
    '\n' ∉ sample.text.toList := by
  refine Sample.lineFeed_not_mem_text ?_
  cases isTrue with
  | counter observed => exact Decimal.lineFeed_not_mem_text _
  | bucket observed upTo => exact Decimal.lineFeed_not_mem_text _
  | sum observed => exact Shortest.lineFeed_not_mem_text _
  | count observed => exact Decimal.lineFeed_not_mem_text _

end Sample

namespace Exposition

/-- A line of the metrics stands above a family that was observed, or is that of
a true sample. -/
theorem mem_lines_iff
    {events : List Observation}
    {line : String} :
    line ∈ lines (.ofEvents events) ↔
      (∃ above : Family, line ∈ above.header ∧
        ∃ event ∈ events, above.observes event) ∨
      ∃ sample : Sample, sample.IsTrue events ∧ sample.text = line := by
  have inFamily (family : Family) :
      line ∈ familyLines family ((Registry.ofEvents events).samples family) ↔
        (line ∈ family.header ∧ ∃ event ∈ events, family.observes event) ∨
          ∃ sample ∈ (Registry.ofEvents events).samples family,
            sample.text = line := by
    rw [← Registry.samples_ne_nil_iff, familyLines]
    split
    · rename_i none
      simp [none]
    · rename_i nonempty
      rw [List.mem_append, List.mem_map, and_iff_left nonempty]
  rw [Registry.lines_ofEvents, List.mem_flatMap]
  constructor
  · rintro ⟨family, -, member⟩
    rcases (inFamily family).mp member with above | ⟨sample, isSample, rfl⟩
    · exact .inl ⟨family, above⟩
    · exact .inr ⟨sample,
        Registry.exists_mem_samples_iff.mp ⟨family, isSample⟩, rfl⟩
  · rintro (⟨family, above⟩ | ⟨sample, isTrue, rfl⟩)
    · exact ⟨family, family.mem_all, (inFamily family).mpr (.inl above)⟩
    · obtain ⟨family, isSample⟩ := Registry.exists_mem_samples_iff.mpr isTrue
      exact ⟨family, family.mem_all,
        (inFamily family).mpr (.inr ⟨sample, isSample, rfl⟩)⟩

theorem linesOf_render (events : List Observation) :
    linesOf (render (.ofEvents events)) = lines (.ofEvents events) := by
  refine linesOf_join fun line member => ?_
  rcases mem_lines_iff.mp member with ⟨family, above, -⟩ | ⟨sample, isTrue, rfl⟩
  · exact (Family.comment_of_mem_header above).2
  · exact isTrue.lineFeed_not_mem_text

/-- The line of a sample is written if the sample is true. -/
theorem text_mem_lines_iff
    {events : List Observation}
    {sample : Sample}
    (fits : sample.Fits) :
    sample.text ∈ lines (.ofEvents events) ↔ sample.IsTrue events := by
  rw [mem_lines_iff]
  constructor
  · rintro (⟨family, above, -⟩ | ⟨other, isTrue, same⟩)
    · have comment := (Family.comment_of_mem_header above).1
      rw [Sample.head?_text] at comment
      exact absurd comment (by decide)
    · rwa [Sample.text_injective fits isTrue.fits same.symm]
  · exact fun isTrue => .inr ⟨sample, isTrue, rfl⟩

/-- The lines above a family are written if an event has gone into it. -/
theorem header_mem_lines_iff
    {events : List Observation}
    {family : Family}
    {line : String}
    (above : line ∈ family.header) :
    line ∈ lines (.ofEvents events) ↔
      ∃ event ∈ events, family.observes event := by
  rw [mem_lines_iff]
  constructor
  · rintro (⟨other, aboveOther, observed⟩ | ⟨sample, isTrue, rfl⟩)
    · rwa [Family.eq_of_mem_header above aboveOther]
    · have comment := (Family.comment_of_mem_header above).1
      rw [Sample.head?_text] at comment
      exact absurd comment (by decide)
  · exact fun observed => .inl ⟨family, above, observed⟩

/-! ## Another order of events -/

/-- Two lines are the same, or they tell sums of the times of the same label
values. -/
def SameBesideSum (line other : String) : Prop :=
  line = other ∨ ∃ labels sum otherSum,
    line = (Sample.mk .sum labels sum).text ∧
      other = (Sample.mk .sum labels otherSum).text

instance : Std.Refl SameBesideSum :=
  ⟨fun _ => .inl rfl⟩

/-- Histograms of the same numbers have the same lines but for the sum. -/
theorem forall₂_samples
    {histogram other : Histogram}
    (same : histogram.numbers = other.numbers)
    (labels : List String) :
    List.Forall₂ SameBesideSum ((histogram.samples labels).map Sample.text)
      ((other.samples labels).map Sample.text) := by
  have sameCount : histogram.count = other.count :=
    List.singleton_injective (List.append_inj' same rfl).2
  rw [Histogram.samples, Histogram.samples, List.map_append, List.map_append,
    same, sameCount]
  refine List.rel_append (List.forall₂_refl _) (.cons (.inr ?_) ?_)
  · exact ⟨labels, _, _, rfl, rfl⟩
  · exact List.forall₂_refl _

/-- So have families of such samples. -/
theorem forall₂_familyLines
    (kind : Family)
    {samples others : List Sample}
    (same : List.Forall₂ SameBesideSum (samples.map Sample.text)
      (others.map Sample.text)) :
    List.Forall₂ SameBesideSum (familyLines kind samples)
      (familyLines kind others) := by
  cases samples with
  | nil =>
      cases others with
      | nil => exact .nil
      | cons other more => cases same
  | cons sample rest =>
      cases others with
      | nil => cases same
      | cons other more =>
          rw [familyLines, familyLines, if_neg (List.cons_ne_nil _ _),
            if_neg (List.cons_ne_nil _ _)]
          exact List.rel_append (List.forall₂_refl _) same

/-- In another order of events only the sums of the times are other ones. -/
theorem forall₂_lines_of_perm
    {events permuted : List Observation}
    (isPermuted : permuted.Perm events) :
    List.Forall₂ SameBesideSum (lines (.ofEvents permuted))
      (lines (.ofEvents events)) := by
  have entries : List.Forall₂ (fun entry other : List String × Histogram =>
      entry.1 = other.1 ∧ entry.2.numbers = other.2.numbers)
      (Registry.ofEvents permuted).times (Registry.ofEvents events).times := by
    have same := Registry.numbers_ofEvents_eq_of_perm isPermuted
    rw [← List.forall₂_eq_eq_eq, List.forall₂_map_left_iff,
      List.forall₂_map_right_iff] at same
    exact same.imp fun entry other => Prod.mk.inj
  have times : List.Forall₂ SameBesideSum
      (((Registry.ofEvents permuted).samples .times).map Sample.text)
      (((Registry.ofEvents events).samples .times).map Sample.text) := by
    rw [Registry.samples, Registry.samples, List.map_flatMap, List.map_flatMap]
    refine List.rel_flatMap entries ?_
    rintro ⟨labels, histogram⟩ ⟨others, other⟩ ⟨sameLabels, sameNumbers⟩
    obtain rfl : labels = others := sameLabels
    exact forall₂_samples sameNumbers labels
  have each (kind : Family) : List.Forall₂ SameBesideSum
      (familyLines kind ((Registry.ofEvents permuted).samples kind))
      (familyLines kind ((Registry.ofEvents events).samples kind)) := by
    cases kind with
    | counter which =>
        rw [Registry.samples, Registry.samples,
          Registry.series_ofEvents_eq_of_perm isPermuted]
        exact List.forall₂_refl _
    | times => exact forall₂_familyLines .times times
  have same : List.Forall₂ Eq Family.all Family.all := List.forall₂_refl _
  rw [Registry.lines_ofEvents, Registry.lines_ofEvents]
  exact List.rel_flatMap same fun kind _ isSame => isSame ▸ each kind

/-! ## The text as a whole -/

/-- Some lines tell what was observed: how many events had the label values of a
counter, and for label values of the times how many events had them, and how many
of these took no longer than each bound. -/
structure Tells (events : List Observation) (text : List String) : Prop where
  /-- Every line stands above a family or is that of a sample. -/
  lines : ∀ line ∈ text, (∃ above : Family, line ∈ above.header) ∨
    ∃ sample : Sample, sample.Fits ∧ sample.text = line
  /-- The lines above a family are among them if an event goes into it. -/
  families : ∀ above : Family, ∀ line ∈ above.header,
    line ∈ text ↔ ∃ event ∈ events, above.observes event
  /-- A counter line tells the number of events with its label values. -/
  counters : ∀ counter labels value,
    (Sample.mk (.counter counter) labels value).Fits ->
      ((Sample.mk (.counter counter) labels value).text ∈ text ↔
        0 < Registry.numberOf events counter labels ∧
          value = Decimal.text (Registry.numberOf events counter labels))
  /-- The count of a histogram tells the number of events with its label values:
  those whose status falls in its outcome. -/
  counts : ∀ labels value, (Sample.mk .count labels value).Fits ->
    ((Sample.mk .count labels value).text ∈ text ↔
      0 < Registry.timedNumber events labels ∧
        value = Decimal.text (Registry.timedNumber events labels))
  /-- A bucket line tells the number of times up to its bound. -/
  buckets : ∀ labels bound value,
    (Sample.mk .bucket (labels ++ [bound]) value).Fits ->
      ((Sample.mk .bucket (labels ++ [bound]) value).text ∈ text ↔
        0 < Registry.timedNumber events labels ∧
          ∃ number, (bound, number) ∈ bucketBounds.zip
            (Histogram.numbersOf (Registry.timesOf events labels)) ∧
            value = Decimal.text number)
  /-- The lines of a histogram stand together, the buckets in the order of their
  bounds, followed by the sum and the count. -/
  histograms : ∀ labels, 0 < Registry.timedNumber events labels ->
    ∃ sum, (bucketBounds.zip
        (Histogram.numbersOf (Registry.timesOf events labels))).map
          (fun (bound, number) => (Sample.mk .bucket (labels ++ [bound])
            (Decimal.text number)).text) ++
        [(Sample.mk .sum labels sum).text,
          (Sample.mk .count labels
            (Decimal.text (Registry.timedNumber events labels))).text] <:+: text
  /-- The numbers of the buckets never decrease, and the last is the count. -/
  increase : ∀ labels,
    (Histogram.numbersOf (Registry.timesOf events labels)).Pairwise (· ≤ ·) ∧
      (Histogram.numbersOf (Registry.timesOf events labels)).getLast? =
        some (Registry.timedNumber events labels)

/-- The lines of a histogram stand together. -/
theorem samples_infix_lines
    {events : List Observation}
    {labels : List String}
    {histogram : Histogram}
    (kept : (labels, histogram) ∈ (Registry.ofEvents events).times) :
    (histogram.samples labels).map Sample.text <:+: lines (.ofEvents events) := by
  let samples := (Registry.ofEvents events).samples .times
  have inSamples : histogram.samples labels <:+: samples :=
    List.infix_of_mem_flatten (List.mem_map_of_mem kept)
  have inFamily : samples.map Sample.text <:+: familyLines .times samples := by
    rw [familyLines]
    split
    · rename_i none
      rw [none]
      exact List.infix_rfl
    · exact (List.suffix_append _ _).isInfix
  have inLines : familyLines .times samples <:+: lines (.ofEvents events) := by
    rw [Registry.lines_ofEvents]
    exact List.infix_of_mem_flatten (List.mem_map_of_mem Family.times.mem_all)
  exact ((inSamples.map Sample.text).trans inFamily).trans inLines

/-- The lines of a registry of events tell what was observed. -/
theorem tells_lines (events : List Observation) :
    Tells events (lines (.ofEvents events)) := by
  have timed (labels : List String) :
      Registry.timesOf events labels ≠ [] ↔
        0 < Registry.timedNumber events labels := by
    rw [← List.length_pos_iff, Registry.length_timesOf]
  constructor
  case lines =>
    intro line member
    rcases mem_lines_iff.mp member with ⟨above, isAbove, -⟩ | ⟨sample, isTrue, rfl⟩
    · exact .inl ⟨above, isAbove⟩
    · exact .inr ⟨sample, isTrue.fits, rfl⟩
  case families => exact fun above line isAbove => header_mem_lines_iff isAbove
  case counters =>
    intro counter labels value fits
    rw [text_mem_lines_iff fits]
    constructor
    · intro isTrue
      cases isTrue with
      | counter observed => exact ⟨observed, rfl⟩
    · rintro ⟨observed, rfl⟩
      exact .counter observed
  case counts =>
    intro labels value fits
    rw [text_mem_lines_iff fits, ← timed, ← Registry.length_timesOf]
    constructor
    · intro isTrue
      cases isTrue with
      | count observed => exact ⟨observed, rfl⟩
    · rintro ⟨observed, rfl⟩
      exact .count observed
  case buckets =>
    intro labels bound value fits
    rw [text_mem_lines_iff fits, ← timed]
    constructor
    · intro isTrue
      generalize isLabels : labels ++ [bound] = written at isTrue
      cases isTrue with
      | bucket observed upTo =>
          obtain ⟨rfl, isBound⟩ := List.append_inj' isLabels rfl
          obtain rfl := List.singleton_injective isBound
          exact ⟨observed, _, upTo, rfl⟩
    · rintro ⟨observed, number, upTo, rfl⟩
      exact .bucket observed upTo
  case histograms =>
    intro labels observed
    have block := samples_infix_lines (Registry.mem_times_ofEvents_iff.mpr
      ⟨(timed labels).mpr observed, rfl⟩)
    rw [Histogram.samples, Histogram.numbers_ofTimes, Histogram.count_ofTimes,
      Registry.length_timesOf, List.map_append, List.map_map] at block
    exact ⟨_, block⟩
  case increase =>
    intro labels
    refine ⟨Histogram.pairwise_numbersOf _, ?_⟩
    rw [Histogram.numbersOf, List.getLast?_concat, Registry.length_timesOf]

/-- The text of the metrics is made of lines that end in line feeds. They tell what
was observed, and nothing of the order in which it was observed but in the sums of
the times. -/
theorem text_tells_events_in_any_order
    {events permuted : List Observation}
    (isPermuted : permuted.Perm events) :
    (∀ observed, render (.ofEvents observed) =
      String.join ((linesOf (render (.ofEvents observed))).map (· ++ "\n"))) ∧
    Tells events (linesOf (render (.ofEvents events))) ∧
    List.Forall₂ SameBesideSum (linesOf (render (.ofEvents permuted)))
      (linesOf (render (.ofEvents events))) := by
  refine ⟨fun observed => ?_, ?_, ?_⟩
  · rw [linesOf_render, render]
  · rw [linesOf_render]
    exact tells_lines events
  · rw [linesOf_render, linesOf_render]
    exact forall₂_lines_of_perm isPermuted

/-- Three requests for books, of which two succeed, with a scan and a refusal
between them. -/
def threeRequests : List Observation :=
  [.request "/books" "GET" 200 (.ofMilliseconds 3), .scan "filtered" "ok",
    .request "/books" "GET" 503 (.ofSeconds 20), .rejection "unknown_field",
    .request "/books" "GET" 200 (.ofMilliseconds 7)]

/-- Backwards they have the same lines but for the sums, and two requests are
counted as successes, one of them up to five milliseconds. -/
theorem text_tells_three_requests :
    let text := linesOf (render (.ofEvents threeRequests))
    "catalog_http_requests_total\x7bmethod=\"GET\",route=\"/books\"," ++
        "status=\"200\"\x7d 2" ∈ text ∧
      "catalog_http_request_duration_seconds_bucket\x7bmethod=\"GET\"," ++
        "outcome=\"success\",route=\"/books\",le=\"0.005\"\x7d 1" ∈ text ∧
      List.Forall₂ SameBesideSum
        (linesOf (render (.ofEvents threeRequests.reverse))) text := by
  obtain ⟨-, tells, same⟩ :=
    text_tells_events_in_any_order threeRequests.reverse_perm
  refine ⟨?_, ?_, same⟩
  · exact (tells.counters .requests ["GET", "/books", "200"] "2" rfl).mpr
      ⟨by decide, by decide⟩
  · exact (tells.buckets ["GET", "success", "/books"] "0.005" "1" rfl).mpr
      ⟨by decide, 1, by decide, by decide⟩

end Exposition
end BookLookup
