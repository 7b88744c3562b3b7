import BookLookup.Calendar
import BookLookup.Proofs.Text.Decimal

/-!
# The symbols of dates

Whatever the instant, its date is made of digits and of the sign of a year that
does not have four of them, and its time of day adds two letters.
-/

namespace BookLookup

/-- A date is made of digits and signs. -/
theorem CivilDate.mem_compact
    {date : CivilDate}
    {symbol : Char}
    (member : symbol ∈ date.compact) :
    symbol.isDigit ∨ symbol ∈ ['+', '-'] := by
  rcases List.mem_append.mp member with front | ofDay
  · rcases List.mem_append.mp front with ofYear | ofMonth
    · unfold yearText at ofYear
      split at ofYear
      · rcases List.mem_cons.mp ofYear with rfl | digit
        · exact .inr (by decide)
        · exact .inl (Decimal.isDigit_of_mem_padded digit)
      · split at ofYear
        · rcases List.mem_cons.mp ofYear with rfl | digit
          · exact .inr (by decide)
          · exact .inl (Decimal.isDigit_of_mem_padded digit)
        · exact .inl (Decimal.isDigit_of_mem_padded ofYear)
    · exact .inl (Decimal.isDigit_of_mem_padded ofMonth)
  · exact .inl (Decimal.isDigit_of_mem_padded ofDay)

namespace Instant

theorem mem_dateStamp
    {instant : Instant}
    {symbol : Char}
    (member : symbol ∈ instant.dateStamp.toList) :
    symbol.isDigit ∨ symbol ∈ ['+', '-'] := by
  rw [dateStamp, String.toList_ofList] at member
  exact CivilDate.mem_compact member

/-- The stamp of an instant is made of digits, signs and two letters. -/
theorem mem_timeStamp
    {instant : Instant}
    {symbol : Char}
    (member : symbol ∈ instant.timeStamp.toList) :
    symbol.isDigit ∨ symbol ∈ ['+', '-', 'T', 'Z'] := by
  rw [timeStamp, String.toList_ofList] at member
  simp only [List.mem_append, List.mem_cons, List.not_mem_nil,
    or_false] at member
  rcases member with (((ofDate | letter | ofHour) | ofMinute) | ofSecond) | letter
  · rcases CivilDate.mem_compact ofDate with digit | sign
    · exact .inl digit
    · exact .inr (List.mem_append_left ['T', 'Z'] sign)
  · exact .inr (by simp [letter])
  · exact .inl (Decimal.isDigit_of_mem_padded ofHour)
  · exact .inl (Decimal.isDigit_of_mem_padded ofMinute)
  · exact .inl (Decimal.isDigit_of_mem_padded ofSecond)
  · exact .inr (by simp [letter])

end Instant
end BookLookup
