import BookLookup.Calendar
import Mathlib.Data.Nat.ModEq
import Mathlib.Order.Monotone.Basic

/-!
# The Gregorian calendar

Years have 365 days, and leap years one more; a year is a leap year if four
divides it, but not if a hundred does and four hundred does not. The days before
a date are those of all years and months before it. Dates that are made of a
number of days are dates of this calendar, with so many days before them.
-/

namespace BookLookup

namespace Gregorian

/-- A year has a leap day. -/
def IsLeapYear (year : Nat) : Prop :=
  4 ∣ year ∧ (100 ∣ year -> 400 ∣ year)

instance : DecidablePred IsLeapYear := fun year =>
  inferInstanceAs (Decidable (4 ∣ year ∧ (100 ∣ year -> 400 ∣ year)))

/-- The lengths of the months of a year. -/
def monthLengths (year : Nat) : List Nat :=
  [31, if IsLeapYear year then 29 else 28, 31, 30, 31, 30, 31, 31, 30, 31, 30,
    31]

/-- The length of a month, counted from one. -/
def monthLength (year month : Nat) : Nat :=
  (monthLengths year).getD (month - 1) 0

/-- The number of days before a month of a year, counted from one. -/
def daysBeforeMonth (year month : Nat) : Nat :=
  ((monthLengths year).take (month - 1)).sum

/-- The number of days from the first of January of the year zero to that of a
year. -/
def daysBeforeYear : Nat -> Nat
  | 0 => 0
  | year + 1 => daysBeforeYear year + (monthLengths year).sum

/-- The number of days from the first of January of the year zero to a date. -/
def daysBefore (year month day : Nat) : Nat :=
  daysBeforeYear year + daysBeforeMonth year month + (day - 1)

/-- A year, a month and a day of the month, both counted from one, are a date. -/
structure IsDate (year month day : Nat) : Prop where
  /-- There are twelve months. -/
  inYear : 1 ≤ month ∧ month ≤ 12
  /-- The month has the day. -/
  inMonth : 1 ≤ day ∧ day ≤ monthLength year month

/-- The days of the years before a year in closed form: one leap day for every
four years, none for a hundred, but one for four hundred. -/
theorem daysBeforeYear_eq (year : Nat) :
    (daysBeforeYear year : Int) =
      365 * year + (year + 3) / 4 - (year + 99) / 100 + (year + 399) / 400 := by
  induction year with
  | zero => rfl
  | succ year inductionHypothesis =>
      have length : (monthLengths year).sum =
          if IsLeapYear year then 366 else 365 := by
        unfold monthLengths
        split <;> rfl
      rw [daysBeforeYear, Int.natCast_add, inductionHypothesis, length]
      by_cases isLeap : IsLeapYear year
      · rw [if_pos isLeap]
        obtain ⟨four, hundred⟩ := isLeap
        omega
      · rw [if_neg isLeap]
        unfold IsLeapYear at isLeap
        omega

/-- The days before the beginning of 1970. -/
theorem daysBeforeYear_epoch : (daysBeforeYear 1970 : Int) = 719528 := by
  rw [daysBeforeYear_eq]
  rfl

end Gregorian

namespace CivilDate

/-! ## Years that begin in March -/

/-- Later days do not lie in earlier years of an era. -/
theorem monotone_yearOfEra : Monotone yearOfEra := by
  refine monotone_nat_of_le_succ fun day => Nat.div_le_div_right ?_
  have century : 146096 ∣ day + 1 -> 36524 ∣ day + 1 :=
    Nat.dvd_trans ⟨4, rfl⟩
  have next (length : Nat) : (day + 1) / length =
      day / length + if length ∣ day + 1 then 1 else 0 :=
    Nat.succ_div
  have ordered : day / 146096 ≤ day / 36524 :=
    Nat.div_le_div_left (by decide) (by decide)
  have within : day / 1460 ≤ day := Nat.div_le_self day 1460
  rw [next 1460, next 36524, next 146096]
  generalize day / 1460 = quads at *
  generalize day / 36524 = centuries at *
  generalize day / 146096 = eras at *
  by_cases lastOfEra : 146096 ∣ day + 1
  · rw [if_pos lastOfEra, if_pos (century lastOfEra)]
    split <;> omega
  · rw [if_neg lastOfEra]
    split <;> split <;> omega

theorem yearOfEra_ends :
    ∀ year < 400, yearOfEra (startOfYear year) = year ∧
      (year ≠ 0 -> yearOfEra (startOfYear year - 1) = year - 1) := by
  decide +kernel

theorem startOfYear_succ :
    ∀ year < 399, startOfYear (year + 1) =
      startOfYear year + if Gregorian.IsLeapYear (year + 1) then 366 else 365 := by
  decide +kernel

/-- A day of an era lies in one of its years, and on the 366th day of it only if
the next year, counted from January, is a leap year. -/
theorem exists_eq_startOfYear_add
    {day : Nat}
    (inEra : day < daysOfEra) :
    yearOfEra day < 400 ∧
      ∃ dayOfYear, day = startOfYear (yearOfEra day) + dayOfYear ∧
        dayOfYear ≤ 365 ∧
        (dayOfYear = 365 -> Gregorian.IsLeapYear (yearOfEra day + 1)) := by
  have year_lt : yearOfEra day < 400 := by
    have last : yearOfEra 146096 = 399 := by decide
    have mono := monotone_yearOfEra (Nat.le_of_lt_succ inEra)
    omega
  have begun : startOfYear (yearOfEra day) ≤ day := by
    by_contra before
    have nonzero : yearOfEra day ≠ 0 := by
      intro zero
      rw [zero] at before
      exact before (Nat.zero_le day)
    have mono := monotone_yearOfEra
      (Nat.le_sub_one_of_lt (Nat.not_le.mp before))
    rw [(yearOfEra_ends _ year_lt).2 nonzero] at mono
    omega
  refine ⟨year_lt, day - startOfYear (yearOfEra day), by omega, ?_⟩
  by_cases isLast : yearOfEra day = 399
  · have start : startOfYear 399 = 145731 := by decide
    have leap : Gregorian.IsLeapYear 400 := by decide
    rw [isLast, start]
    unfold daysOfEra at inEra
    exact ⟨by omega, fun _ => leap⟩
  · have notEnded : day < startOfYear (yearOfEra day + 1) := by
      by_contra ended
      have mono := monotone_yearOfEra (Nat.not_lt.mp ended)
      rw [(yearOfEra_ends _ (by omega)).1] at mono
      omega
    rw [startOfYear_succ _ (by omega)] at notEnded
    split at notEnded
    · rename_i leap
      exact ⟨by omega, fun _ => leap⟩
    · exact ⟨by omega, fun _ => by omega⟩

/-- The days before the year in which a year of an era ends. -/
theorem daysBeforeYear_next
    {year next : Nat}
    {era : Int}
    (inEra : year < 400)
    (isNext : (next : Int) = year + era * 400 + 1) :
    (Gregorian.daysBeforeYear next : Int) =
      era * daysOfEra + startOfYear year + 366 := by
  rw [Gregorian.daysBeforeYear_eq, isNext]
  unfold daysOfEra startOfYear
  omega

/-! ## Months -/

theorem mem_monthOfYear {day : Nat} (inYear : day ≤ 365) :
    monthOfYear day < 12 ∧ startOfMonth (monthOfYear day) ≤ day ∧
      day < startOfMonth (monthOfYear day + 1) := by
  unfold startOfMonth monthOfYear
  omega

/-- The months from March to December of a year. -/
theorem months_from_march (year : Nat) :
    ∀ month < 10,
      Gregorian.monthLength year (month + 3) =
        startOfMonth (month + 1) - startOfMonth month ∧
      Gregorian.daysBeforeMonth year (month + 3) + 306 =
        (Gregorian.monthLengths year).sum + startOfMonth month := by
  unfold Gregorian.monthLength Gregorian.daysBeforeMonth Gregorian.monthLengths
  by_cases leap : Gregorian.IsLeapYear year
  · simp only [if_pos leap]
    decide
  · simp only [if_neg leap]
    decide

theorem months_before_march (year : Nat) :
    Gregorian.monthLength year 1 = 31 ∧
      Gregorian.monthLength year 2 =
        (if Gregorian.IsLeapYear year then 29 else 28) ∧
      Gregorian.daysBeforeMonth year 1 = 0 ∧
      Gregorian.daysBeforeMonth year 2 = 31 :=
  ⟨rfl, rfl, rfl, rfl⟩

/-! ## Dates -/

/-- A number of days lies in a month of a year of an era, in which years begin in
March. -/
structure LiesIn (days era : Int) (year month dayOfYear : Nat) : Prop where
  /-- An era has four hundred years. -/
  inEra : year < 400
  /-- A year has 366 days at most. -/
  inYear : dayOfYear ≤ 365
  /-- It has so many only if it ends in a leap year. -/
  leap : dayOfYear = 365 -> Gregorian.IsLeapYear (year + 1)
  /-- A year has twelve months. -/
  inMonths : month < 12
  /-- The month has begun. -/
  begun : startOfMonth month ≤ dayOfYear
  /-- The month has not ended. -/
  notEnded : dayOfYear < startOfMonth (month + 1)
  /-- These are all days. -/
  whole : days + epochOffset = era * daysOfEra + startOfYear year + dayOfYear
  /-- The date tells the year that begins in January. -/
  date : ofDays days =
    { year := year + era * 400 + (if 10 ≤ month then 1 else 0)
      month := if 10 ≤ month then month - 9 else month + 3
      day := dayOfYear - startOfMonth month + 1 }

/-- Every number of days lies somewhere. -/
theorem exists_liesIn (days : Int) :
    ∃ era year month dayOfYear, LiesIn days era year month dayOfYear := by
  let shifted := days + epochOffset
  let dayOfEra := (shifted % daysOfEra).toNat
  have inEra : dayOfEra < daysOfEra := by
    unfold dayOfEra daysOfEra
    omega
  have whole : shifted = shifted / daysOfEra * daysOfEra + dayOfEra := by
    unfold dayOfEra daysOfEra
    omega
  obtain ⟨year_lt, dayOfYear, isDay, day_le, leap⟩ :=
    exists_eq_startOfYear_add inEra
  obtain ⟨month_lt, begun, notEnded⟩ := mem_monthOfYear day_le
  refine ⟨shifted / daysOfEra, yearOfEra dayOfEra, monthOfYear dayOfYear,
    dayOfYear, year_lt, day_le, leap, month_lt, begun, notEnded, by omega, ?_⟩
  have isDayOfYear : dayOfEra - startOfYear (yearOfEra dayOfEra) = dayOfYear := by
    omega
  rw [← isDayOfYear]
  rfl

/-- A day from March on is a date of the year. -/
theorem LiesIn.isDate_of_lt
    {days era : Int}
    {year month dayOfYear calendarYear : Nat}
    (liesIn : LiesIn days era year month dayOfYear)
    (fromMarch : month < 10) :
    Gregorian.IsDate calendarYear (month + 3)
        (dayOfYear - startOfMonth month + 1) ∧
      Gregorian.daysBefore calendarYear (month + 3)
          (dayOfYear - startOfMonth month + 1) + 306 =
        Gregorian.daysBeforeYear (calendarYear + 1) + dayOfYear := by
  obtain ⟨length, before⟩ := months_from_march calendarYear month fromMarch
  have begun := liesIn.begun
  have notEnded := liesIn.notEnded
  refine ⟨⟨by omega, by omega, by omega⟩, ?_⟩
  rw [Gregorian.daysBefore, Gregorian.daysBeforeYear]
  omega

/-- An earlier day is one of the next year. -/
theorem LiesIn.isDate_of_le
    {days era : Int}
    {year month dayOfYear calendarYear : Nat}
    (liesIn : LiesIn days era year month dayOfYear)
    (beforeMarch : 10 ≤ month)
    (isYear : (calendarYear : Int) = year + era * 400 + 1) :
    Gregorian.IsDate calendarYear (month - 9)
        (dayOfYear - startOfMonth month + 1) ∧
      Gregorian.daysBefore calendarYear (month - 9)
          (dayOfYear - startOfMonth month + 1) + 306 =
        Gregorian.daysBeforeYear calendarYear + dayOfYear := by
  obtain ⟨january, february, beforeJanuary, beforeFebruary⟩ :=
    months_before_march calendarYear
  have begun := liesIn.begun
  have notEnded := liesIn.notEnded
  have inYear := liesIn.inYear
  have which : month = 10 ∨ month = 11 := by
    have inMonths := liesIn.inMonths
    omega
  rcases which with rfl | rfl
  · have start : startOfMonth 10 = 306 ∧ startOfMonth 11 = 337 := by decide
    simp only [Nat.reduceAdd, Nat.reduceSub] at notEnded ⊢
    refine ⟨⟨by omega, by omega, by omega⟩, ?_⟩
    rw [Gregorian.daysBefore]
    omega
  · have start : startOfMonth 11 = 337 := by decide
    have leap : dayOfYear = 365 -> Gregorian.IsLeapYear calendarYear := by
      intro isLast
      have isLeap := liesIn.leap isLast
      unfold Gregorian.IsLeapYear at isLeap ⊢
      omega
    simp only [Nat.reduceSub]
    refine ⟨⟨by omega, by omega, ?_⟩, ?_⟩
    · rw [february]
      split
      · omega
      · rename_i notLeap
        have notLast : dayOfYear ≠ 365 := fun isLast => notLeap (leap isLast)
        omega
    · rw [Gregorian.daysBefore]
      omega

/-- The date of a number of days is one of the calendar, and has so many days
before it, counted from the beginning of 1970. -/
theorem ofDays_isDate
    {days : Int}
    (nonneg : 0 ≤ (ofDays days).year) :
    Gregorian.IsDate (ofDays days).year.toNat (ofDays days).month
        (ofDays days).day ∧
      (Gregorian.daysBefore (ofDays days).year.toNat (ofDays days).month
        (ofDays days).day : Int) = days + Gregorian.daysBeforeYear 1970 := by
  have epoch := Gregorian.daysBeforeYear_epoch
  obtain ⟨era, year, month, dayOfYear, liesIn⟩ := exists_liesIn days
  have whole := liesIn.whole
  unfold epochOffset at whole
  rw [liesIn.date] at nonneg ⊢
  by_cases beforeMarch : 10 ≤ month
  · simp only [if_pos beforeMarch] at nonneg ⊢
    obtain ⟨isDate, before⟩ := liesIn.isDate_of_le beforeMarch
      (Int.toNat_of_nonneg nonneg)
    have next := daysBeforeYear_next liesIn.inEra (Int.toNat_of_nonneg nonneg)
    exact ⟨isDate, by omega⟩
  · simp only [if_neg beforeMarch, Int.add_zero] at nonneg ⊢
    obtain ⟨isDate, before⟩ := @LiesIn.isDate_of_lt _ _ _ _ _
      (year + era * 400).toNat liesIn (Nat.not_le.mp beforeMarch)
    have isNext : (((year + era * 400).toNat + 1 : Nat) : Int) =
        year + era * 400 + 1 := by
      omega
    have next := daysBeforeYear_next liesIn.inEra isNext
    exact ⟨isDate, by omega⟩

/-- From the first of January of the year zero on no year is negative. -/
theorem year_ofDays_nonneg
    {days : Int}
    (begun : -(Gregorian.daysBeforeYear 1970 : Int) ≤ days) :
    0 ≤ (ofDays days).year := by
  have epoch := Gregorian.daysBeforeYear_epoch
  obtain ⟨era, year, month, dayOfYear, liesIn⟩ := exists_liesIn days
  have inEra := liesIn.inEra
  have inYear := liesIn.inYear
  have whole := liesIn.whole
  unfold epochOffset daysOfEra startOfYear at whole
  rw [liesIn.date]
  by_cases beforeMarch : 10 ≤ month
  · simp only [if_pos beforeMarch]
    omega
  · have tenth : startOfMonth (month + 1) ≤ 306 := by
      unfold startOfMonth
      omega
    have notEnded := liesIn.notEnded
    simp only [if_neg beforeMarch]
    omega

end CivilDate
end BookLookup
