import BookLookup.Proofs.Calendar.Gregorian
import BookLookup.Proofs.Text.FixedWidth

/-!
# Stamps of instants

The stamp of an instant of the years from zero to 9999 is a date of the calendar
and a time of day, each number filled to its width. It is read back, tells the
instant to the second, and is a later text than the stamps of all seconds
before. Its first eight characters are the day to which signatures are bound.
-/

namespace BookLookup

namespace Gregorian

/-! ## The order of dates -/

/-- A month ends where the next begins. -/
theorem daysBeforeMonth_succ
    (year : Nat)
    {month : Nat}
    (positive : 1 ≤ month) :
    daysBeforeMonth year (month + 1) =
      daysBeforeMonth year month + monthLength year month := by
  obtain ⟨index, rfl⟩ := Nat.exists_eq_add_of_le' positive
  unfold daysBeforeMonth monthLength
  rw [Nat.add_sub_cancel, Nat.add_sub_cancel, List.take_add_one,
    List.sum_append, List.getD_eq_getElem?_getD]
  cases (monthLengths year)[index]? with
  | none => rfl
  | some length => simp

/-- Later months have not fewer days before them. -/
theorem daysBeforeMonth_le_of_le
    (year : Nat)
    {first second : Nat}
    (positive : 1 ≤ first)
    (notLater : first ≤ second) :
    daysBeforeMonth year first ≤ daysBeforeMonth year second := by
  induction second, notLater using Nat.le_induction with
  | base => exact Nat.le_refl _
  | succ second notLater inductionHypothesis =>
      rw [daysBeforeMonth_succ year (positive.trans notLater)]
      omega

theorem monotone_daysBeforeYear : Monotone daysBeforeYear :=
  monotone_nat_of_le_succ fun _ => Nat.le_add_right _ _

theorem daysBeforeYear_succ (year : Nat) :
    daysBeforeYear (year + 1) = daysBeforeYear year + daysBeforeMonth year 13 :=
  rfl

namespace IsDate

variable {year month day : Nat}

theorem day_lt_next_month (isDate : IsDate year month day) :
    daysBeforeMonth year month + (day - 1) < daysBeforeMonth year (month + 1) := by
  have inMonth := isDate.inMonth
  rw [daysBeforeMonth_succ year isDate.inYear.1]
  omega

/-- A date lies in its year. -/
theorem daysBefore_lt_next_year (isDate : IsDate year month day) :
    daysBefore year month day < daysBeforeYear (year + 1) := by
  have inMonth := isDate.day_lt_next_month
  have inYear : daysBeforeMonth year (month + 1) ≤ daysBeforeMonth year 13 :=
    daysBeforeMonth_le_of_le year (Nat.le_add_left 1 month)
      (Nat.succ_le_succ isDate.inYear.2)
  rw [daysBefore, daysBeforeYear_succ]
  omega

/-- A later date has more days before it. -/
theorem daysBefore_lt
    {otherYear otherMonth otherDay : Nat}
    (isDate : IsDate year month day)
    (isOther : IsDate otherYear otherMonth otherDay)
    (earlier : year < otherYear ∨ year = otherYear ∧
      (month < otherMonth ∨ month = otherMonth ∧ day < otherDay)) :
    daysBefore year month day < daysBefore otherYear otherMonth otherDay := by
  rcases earlier with yearLess | ⟨rfl, monthLess | ⟨rfl, dayLess⟩⟩
  · calc
      daysBefore year month day < daysBeforeYear (year + 1) :=
        isDate.daysBefore_lt_next_year
      _ ≤ daysBeforeYear otherYear := monotone_daysBeforeYear yearLess
      _ ≤ daysBefore otherYear otherMonth otherDay := by
        rw [daysBefore]
        omega
  · have inMonth := isDate.day_lt_next_month
    have later := daysBeforeMonth_le_of_le year (Nat.le_add_left 1 month)
      monthLess
    rw [daysBefore, daysBefore]
    omega
  · have begun := isDate.inMonth.1
    rw [daysBefore, daysBefore]
    omega

end IsDate
end Gregorian

/-! ## Dates with a time of day -/

/-- A date and a time of day, to the second. -/
structure DateTime where
  /-- The year. -/
  year : Nat
  /-- The month from one. -/
  month : Nat
  /-- The day of the month from one. -/
  day : Nat
  /-- The hour of the day. -/
  hour : Nat
  /-- The minute of the hour. -/
  minute : Nat
  /-- The second of the minute. -/
  second : Nat

namespace DateTime

/-- There is such a date and such a time of day. -/
structure IsValid (time : DateTime) : Prop where
  /-- The date is one of the calendar. -/
  date : Gregorian.IsDate time.year time.month time.day
  /-- The day has the hour. -/
  hour : time.hour < 24
  /-- The hour has the minute. -/
  minute : time.minute < 60
  /-- The minute has the second. -/
  second : time.second < 60

/-- The whole seconds from the beginning of 1970. -/
def seconds (time : DateTime) : Int :=
  86400 * (Gregorian.daysBefore time.year time.month time.day -
    Gregorian.daysBeforeYear 1970) +
    (3600 * time.hour + 60 * time.minute + time.second : Nat)

/-- One date and time of day is before another. -/
def Before (time other : DateTime) : Prop :=
  time.year < other.year ∨ time.year = other.year ∧
    (time.month < other.month ∨ time.month = other.month ∧
      (time.day < other.day ∨ time.day = other.day ∧
        (time.hour < other.hour ∨ time.hour = other.hour ∧
          (time.minute < other.minute ∨ time.minute = other.minute ∧
            time.second < other.second))))

/-- Before another there are fewer seconds. -/
theorem Before.seconds_lt
    {time other : DateTime}
    (before : Before time other)
    (isValid : time.IsValid)
    (otherValid : other.IsValid) :
    time.seconds < other.seconds := by
  have dates := isValid.date.daysBefore_lt otherValid.date
  obtain ⟨-, hour, minute, second⟩ := isValid
  unfold Before at before
  unfold seconds
  by_cases sameDate : time.year = other.year ∧ time.month = other.month ∧
      time.day = other.day
  · obtain ⟨sameYear, sameMonth, sameDay⟩ := sameDate
    rw [sameYear, sameMonth, sameDay]
    omega
  · have less := dates (by omega)
    omega

/-- Fewer seconds are before. -/
theorem before_of_seconds_lt
    {time other : DateTime}
    (isValid : time.IsValid)
    (otherValid : other.IsValid)
    (less : time.seconds < other.seconds) :
    Before time other := by
  by_contra notBefore
  have sameOrAfter : time = other ∨ Before other time := by
    unfold Before at notBefore ⊢
    rw [DateTime.mk.injEq]
    omega
  rcases sameOrAfter with rfl | after
  · exact Int.lt_irrefl _ less
  · exact Int.lt_asymm less (after.seconds_lt otherValid isValid)

/-! ## Stamps -/

/-- The sixteen characters of a date and time of day: the date without marks, the
letter T, the time of day without marks and the letter Z. -/
def stamp (time : DateTime) : List Char :=
  Decimal.padded 4 time.year ++ (Decimal.padded 2 time.month ++
    (Decimal.padded 2 time.day ++ 'T' :: (Decimal.padded 2 time.hour ++
      (Decimal.padded 2 time.minute ++ (Decimal.padded 2 time.second ++
        ['Z'])))))

/-- A number of a fixed width in front of other characters. -/
def number? (width : Nat) (text : List Char) : Option (Nat × List Char) :=
  (Decimal.read? (text.take width)).map fun number => (number, text.drop width)

/-- The characters behind a letter. -/
def behind? (letter : Char) : List Char -> Option (List Char)
  | [] => none
  | first :: rest => if first = letter then some rest else none

/-- The date and time of day that a stamp writes. -/
def ofStamp? (stamp : List Char) : Option DateTime := do
  let (year, rest) <- number? 4 stamp
  let (month, rest) <- number? 2 rest
  let (day, rest) <- number? 2 rest
  let rest <- behind? 'T' rest
  let (hour, rest) <- number? 2 rest
  let (minute, rest) <- number? 2 rest
  let (second, rest) <- number? 2 rest
  let rest <- behind? 'Z' rest
  if rest = [] then some ⟨year, month, day, hour, minute, second⟩ else none

/-- A number that fills its width is read in front of other characters. -/
theorem number?_padded_append
    {width number : Nat}
    (positive : 0 < width)
    (below : number < 10 ^ width)
    (rest : List Char) :
    number? width (Decimal.padded width number ++ rest) =
      some (number, rest) := by
  have length := Decimal.length_padded positive below
  rw [number?, List.take_left' length, List.drop_left' length,
    Decimal.read?_padded]
  rfl

theorem behind?_cons (letter : Char) (rest : List Char) :
    behind? letter (letter :: rest) = some rest :=
  if_pos rfl

/-- Every number of a date and time of day fills its width. -/
structure Fits (time : DateTime) : Prop where
  /-- The year has four digits. -/
  year : time.year < 10 ^ 4
  /-- The month has two. -/
  month : time.month < 10 ^ 2
  /-- So has the day. -/
  day : time.day < 10 ^ 2
  /-- So has the hour. -/
  hour : time.hour < 10 ^ 2
  /-- So has the minute. -/
  minute : time.minute < 10 ^ 2
  /-- So has the second. -/
  second : time.second < 10 ^ 2

/-- A month has no more than 31 days. -/
theorem monthLength_le (year month : Nat) :
    Gregorian.monthLength year month ≤ 31 := by
  have each : ∀ length ∈ Gregorian.monthLengths year, length ≤ 31 := by
    unfold Gregorian.monthLengths
    split <;> decide
  rw [Gregorian.monthLength, List.getD_eq_getElem?_getD]
  cases found : (Gregorian.monthLengths year)[month - 1]? with
  | none => exact Nat.zero_le 31
  | some length => exact each length (List.mem_of_getElem? found)

/-- In a year of four digits all numbers fit. -/
theorem IsValid.fits
    {time : DateTime}
    (isValid : time.IsValid)
    (fourDigits : time.year < 10 ^ 4) :
    time.Fits := by
  obtain ⟨⟨inYear, inMonth⟩, hour, minute, second⟩ := isValid
  have length := monthLength_le time.year time.month
  exact ⟨fourDigits, by omega, by omega, by omega, by omega, by omega⟩

namespace Fits

variable {time other : DateTime}

/-- A stamp has sixteen characters. -/
theorem length_stamp (fits : time.Fits) : time.stamp.length = 16 := by
  simp only [stamp, List.length_append, List.length_cons, List.length_nil,
    Decimal.length_padded (by decide) fits.year,
    Decimal.length_padded (by decide) fits.month,
    Decimal.length_padded (by decide) fits.day,
    Decimal.length_padded (by decide) fits.hour,
    Decimal.length_padded (by decide) fits.minute,
    Decimal.length_padded (by decide) fits.second]

/-- A date and time of day is read back from its stamp. -/
theorem ofStamp?_stamp (fits : time.Fits) :
    ofStamp? time.stamp = some time := by
  simp only [ofStamp?, stamp, bind, Option.bind_some, behind?_cons,
    number?_padded_append (by decide) fits.year,
    number?_padded_append (by decide) fits.month,
    number?_padded_append (by decide) fits.day,
    number?_padded_append (by decide) fits.hour,
    number?_padded_append (by decide) fits.minute,
    number?_padded_append (by decide) fits.second, if_true]

end Fits

/-- Of two numbers of the same width the smaller comes first, and of two equal
ones what follows decides. -/
theorem padded_append_lt
    {width first second : Nat}
    {back rest : List Char}
    (below : second < 10 ^ (width + 1))
    (less : first < second ∨ first = second ∧ back < rest) :
    Decimal.padded (width + 1) first ++ back <
      Decimal.padded (width + 1) second ++ rest := by
  rcases less with earlier | ⟨rfl, onwards⟩
  · have sameLength : (Decimal.padded (width + 1) first).length =
        (Decimal.padded (width + 1) second).length := by
      rw [Decimal.length_padded (Nat.succ_pos width) (earlier.trans below),
        Decimal.length_padded (Nat.succ_pos width) below]
    exact append_lt_append_of_lt sameLength
      (Decimal.padded_lt_padded earlier below)
  · exact List.append_left_lt onwards

/-- What is before another has the earlier stamp. -/
theorem Before.stamp_lt
    {time other : DateTime}
    (before : Before time other)
    (fits : other.Fits) :
    time.stamp < other.stamp := by
  refine padded_append_lt fits.year (before.imp_right (And.imp_right ?_))
  intro before
  refine padded_append_lt fits.month (before.imp_right (And.imp_right ?_))
  intro before
  refine padded_append_lt fits.day (before.imp_right (And.imp_right ?_))
  intro before
  refine List.cons_lt_cons_iff.mpr (.inr ⟨rfl, ?_⟩)
  refine padded_append_lt fits.hour (before.imp_right (And.imp_right ?_))
  intro before
  refine padded_append_lt fits.minute (before.imp_right (And.imp_right ?_))
  intro before
  exact padded_append_lt fits.second (.inl before)

end DateTime

/-! ## Instants -/

namespace Instant

/-- An instant lies in one of the years from 0 to 9999, and not in a leap
second. -/
structure IsOrdinary (instant : Instant) : Prop where
  /-- The year zero has begun. -/
  first : 86400 * ((Gregorian.daysBeforeYear 0 : Int) -
    Gregorian.daysBeforeYear 1970) ≤ instant.seconds
  /-- The year 10000 has not. -/
  last : instant.seconds < 86400 * ((Gregorian.daysBeforeYear 10000 : Int) -
    Gregorian.daysBeforeYear 1970)
  /-- The second is one of the minute. -/
  noLeapSecond : instant.nanoseconds < 1000000000

/-- The date and time of day of an instant. -/
def dateTime (instant : Instant) : DateTime where
  year := instant.date.year.toNat
  month := instant.date.month
  day := instant.date.day
  hour := instant.secondOfDay / 3600
  minute := instant.secondOfDay / 60 % 60
  second := instant.secondOfDay % 60

variable {instant : Instant}

theorem secondOfDay_spec (instant : Instant) :
    instant.secondOfDay < 86400 ∧
      instant.seconds =
        86400 * (instant.seconds / secondsOfDay) + instant.secondOfDay := by
  unfold secondOfDay secondsOfDay
  omega

namespace IsOrdinary

theorem year_nonneg (isOrdinary : instant.IsOrdinary) :
    0 ≤ instant.date.year := by
  have first := isOrdinary.first
  refine CivilDate.year_ofDays_nonneg ?_
  unfold secondsOfDay
  rw [Gregorian.daysBeforeYear] at first
  omega

theorem isDate (isOrdinary : instant.IsOrdinary) :
    Gregorian.IsDate instant.date.year.toNat instant.date.month
        instant.date.day ∧
      (Gregorian.daysBefore instant.date.year.toNat instant.date.month
        instant.date.day : Int) =
        instant.seconds / secondsOfDay + Gregorian.daysBeforeYear 1970 :=
  CivilDate.ofDays_isDate isOrdinary.year_nonneg

/-- The year has four digits. -/
theorem year_lt (isOrdinary : instant.IsOrdinary) :
    instant.date.year.toNat < 10 ^ 4 := by
  have last := isOrdinary.last
  obtain ⟨-, whole⟩ := isOrdinary.isDate
  unfold secondsOfDay at whole
  by_contra tooLate
  have mono : Gregorian.daysBeforeYear 10000 ≤
      Gregorian.daysBeforeYear instant.date.year.toNat :=
    Gregorian.monotone_daysBeforeYear (Nat.not_lt.mp tooLate)
  rw [Gregorian.daysBefore] at whole
  omega

theorem isValid_dateTime (isOrdinary : instant.IsOrdinary) :
    instant.dateTime.IsValid := by
  obtain ⟨inDay, -⟩ := instant.secondOfDay_spec
  exact ⟨isOrdinary.isDate.1, (Nat.div_lt_iff_lt_mul (by decide)).mpr inDay,
    Nat.mod_lt _ (by decide), Nat.mod_lt _ (by decide)⟩

theorem seconds_dateTime (isOrdinary : instant.IsOrdinary) :
    instant.dateTime.seconds = instant.seconds := by
  obtain ⟨-, whole⟩ := isOrdinary.isDate
  obtain ⟨inDay, all⟩ := instant.secondOfDay_spec
  dsimp only [DateTime.seconds, dateTime]
  rw [whole]
  omega

theorem fits_dateTime (isOrdinary : instant.IsOrdinary) :
    instant.dateTime.Fits :=
  isOrdinary.isValid_dateTime.fits isOrdinary.year_lt

/-- The date without marks is made of four, two and two digits. -/
theorem compact_date (isOrdinary : instant.IsOrdinary) :
    instant.date.compact =
      Decimal.padded 4 instant.dateTime.year ++
        Decimal.padded 2 instant.dateTime.month ++
        Decimal.padded 2 instant.dateTime.day := by
  have fourDigits := isOrdinary.year_lt
  have nonneg := isOrdinary.year_nonneg
  have magnitude : instant.date.year.natAbs = instant.date.year.toNat := by
    omega
  rw [CivilDate.compact, CivilDate.yearText,
    if_neg (Int.not_lt.mpr nonneg), if_neg (by omega), magnitude]
  rfl

theorem toList_timeStamp (isOrdinary : instant.IsOrdinary) :
    instant.timeStamp.toList = instant.dateTime.stamp := by
  rw [timeStamp, String.toList_ofList, isOrdinary.compact_date, secondOfMinute,
    Nat.div_eq_of_lt isOrdinary.noLeapSecond, Nat.add_zero, DateTime.stamp]
  simp only [dateTime, List.append_assoc, List.cons_append]

/-- The stamp of the day is the front of the stamp. -/
theorem dateStamp_eq (isOrdinary : instant.IsOrdinary) :
    instant.dateStamp =
      String.ofList (instant.timeStamp.toList.take 8) := by
  have fits := isOrdinary.fits_dateTime
  have length : instant.date.compact.length = 8 := by
    rw [isOrdinary.compact_date, List.length_append, List.length_append,
      Decimal.length_padded (by decide) fits.year,
      Decimal.length_padded (by decide) fits.month,
      Decimal.length_padded (by decide) fits.day]
  rw [dateStamp, timeStamp, String.toList_ofList, List.append_assoc,
    List.append_assoc, List.append_assoc, List.take_left' length]

/-- The stamp of a later second is a later text. -/
theorem timeStamp_lt
    {later : Instant}
    (isOrdinary : instant.IsOrdinary)
    (laterOrdinary : later.IsOrdinary)
    (less : instant.seconds < later.seconds) :
    instant.timeStamp < later.timeStamp := by
  have fewer : instant.dateTime.seconds < later.dateTime.seconds := by
    rw [isOrdinary.seconds_dateTime, laterOrdinary.seconds_dateTime]
    exact less
  have before := DateTime.before_of_seconds_lt isOrdinary.isValid_dateTime
    laterOrdinary.isValid_dateTime fewer
  rw [String.lt_iff, isOrdinary.toList_timeStamp,
    laterOrdinary.toList_timeStamp]
  exact before.stamp_lt laterOrdinary.fits_dateTime

end IsOrdinary
end Instant
end BookLookup
