import BookLookup.Json.Reader
import BookLookup.Proofs.Text.Decimal

/-!
# Numbers

A number has a sign, a whole part that does not begin with a zero unless it is
zero, a fraction and an exponent; all but the whole part may be absent. It is
read as it is written, unless what follows it goes on with a number.
-/

namespace BookLookup
namespace Json

/-! ## What numbers look like -/

/-- Some digits, and at least one. -/
structure IsDigits (text : List Char) : Prop where
  /-- There is a digit. -/
  nonempty : text ≠ []
  /-- There is nothing else. -/
  all : ∀ symbol ∈ text, symbol.isDigit

/-- The whole part of a number. -/
inductive IsWhole : List Char -> Prop where
  | zero : IsWhole ['0']
  /-- Its first digit is not zero. -/
  | digits
      {text : List Char}
      (isDigits : IsDigits text)
      (noZero : text.head? ≠ some '0') :
      IsWhole text

/-- The fraction of a number. -/
inductive IsFraction : List Char -> Prop where
  | absent : IsFraction []
  /-- There are digits behind the point. -/
  | digits {text : List Char} (isDigits : IsDigits text) :
      IsFraction ('.' :: text)

/-- The exponent of a number. -/
inductive IsExponent : List Char -> Prop where
  | absent : IsExponent []
  /-- There are digits behind the letter and a sign. -/
  | digits
      {letter : Char}
      {sign text : List Char}
      (isLetter : letter ∈ ['e', 'E'])
      (isSign : sign ∈ [[], ['+'], ['-']])
      (isDigits : IsDigits text) :
      IsExponent (letter :: (sign ++ text))

/-- A number by its parts. -/
inductive IsNumber : List Char -> Prop where
  | parts
      {sign whole fraction exponent : List Char}
      (isSign : sign ∈ [[], ['-']])
      (isWhole : IsWhole whole)
      (isFraction : IsFraction fraction)
      (isExponent : IsExponent exponent) :
      IsNumber (sign ++ (whole ++ (fraction ++ exponent)))

/-- The digits of a natural number are a number. -/
theorem isNumber_digits (number : Nat) : IsNumber (Decimal.digits number) := by
  have isWhole : IsWhole (Decimal.digits number) := by
    cases number with
    | zero => exact .zero
    | succ previous =>
        exact .digits
          ⟨Decimal.digits_ne_nil _, fun _ => Decimal.isDigit_of_mem_digits⟩
          (Decimal.head?_digits_ne (Nat.zero_lt_succ previous))
  have isNumber := IsNumber.parts (.head _) isWhole .absent .absent
  rwa [List.append_nil, List.append_nil] at isNumber

/-! ## What follows numbers -/

/-- The input does not go on with a digit. -/
def StopsDigits (input : List InputUnit) : Prop :=
  ∀ next ∈ input.head?, isDigit next = false

/-- The input does not go on with a number. -/
def StopsNumber (input : List InputUnit) : Prop :=
  ∀ next ∈ input.head?,
    isDigit next = false ∧ next ∉ [some '.', some 'e', some 'E']

/-- A unit that is no digit stops digits. -/
theorem stopsDigits_cons
    {next : InputUnit}
    (noDigit : isDigit next = false)
    (rest : List InputUnit) :
    StopsDigits (next :: rest) := by
  intro other isNext
  obtain rfl := Option.mem_some_iff.mp isNext
  exact noDigit

theorem StopsNumber.stopsDigits
    {input : List InputUnit}
    (stops : StopsNumber input) :
    StopsDigits input :=
  fun next isNext => (stops next isNext).1

/-- An exponent does not go on with a digit, nor with a fraction. -/
theorem IsExponent.stops
    {exponent : List Char}
    (isExponent : IsExponent exponent)
    {rest : List InputUnit}
    (stops : StopsNumber rest) :
    StopsDigits (exponent.map some ++ rest) ∧
      some '.' ∉ (exponent.map some ++ rest).head? := by
  cases isExponent with
  | absent =>
      exact ⟨stops.stopsDigits, fun isNext =>
        (stops _ isNext).2 (List.mem_cons_self ..)⟩
  | @digits letter _ _ isLetter _ _ =>
      have letters : ∀ letter ∈ ['e', 'E'],
          isDigit (some letter) = false ∧ letter ≠ '.' := by
        simp [isDigit]
      obtain ⟨noDigit, noPoint⟩ := letters letter isLetter
      refine ⟨stopsDigits_cons noDigit _, fun isNext => noPoint ?_⟩
      exact Option.some.inj (Option.mem_some_iff.mp isNext)

/-- A fraction does not go on with a digit. -/
theorem IsFraction.stops
    {fraction : List Char}
    (isFraction : IsFraction fraction)
    {rest : List InputUnit}
    (stops : StopsDigits rest) :
    StopsDigits (fraction.map some ++ rest) := by
  cases isFraction with
  | absent => exact stops
  | digits _ => exact stopsDigits_cons (by decide) _

/-! ## How numbers are read -/

theorem isDigit_some
    {symbol : Char}
    (digit : symbol.isDigit) :
    isDigit (some symbol) := by
  simpa [isDigit, Char.isDigit, Char.le_def, UInt32.le_iff_toNat_le] using digit

/-- Digits are cut off from what does not go on with one. -/
theorem leadingDigits_append
    {digits : List Char}
    {rest : List InputUnit}
    (allDigits : ∀ symbol ∈ digits, symbol.isDigit)
    (stops : StopsDigits rest) :
    leadingDigits (digits.map some ++ rest) = (digits, rest) := by
  have front : ∀ next ∈ digits.map some, isDigit next := by
    intro next member
    obtain ⟨symbol, inDigits, rfl⟩ := List.mem_map.mp member
    exact isDigit_some (allDigits symbol inDigits)
  have noneTaken : rest.takeWhile isDigit = [] ∧
      rest.dropWhile isDigit = rest := by
    cases rest with
    | nil => exact ⟨rfl, rfl⟩
    | cons next others =>
        have noDigit := stops next rfl
        exact ⟨by simp [noDigit], by simp [noDigit]⟩
  rw [leadingDigits, List.takeWhile_append_of_pos front,
    List.dropWhile_append_of_pos front, noneTaken.1, noneTaken.2]
  simp

/-- A whole part is cut off from what does not go on with a digit. -/
theorem IsWhole.wholePart?_append
    {whole : List Char}
    (isWhole : IsWhole whole)
    {rest : List InputUnit}
    (stops : StopsDigits rest) :
    wholePart? (whole.map some ++ rest) = some (whole, rest) := by
  cases isWhole with
  | zero =>
      have noDigit : (rest.head?.map isDigit).getD false = false := by
        cases rest with
        | nil => rfl
        | cons next others => exact stops next rfl
      simp [wholePart?, noDigit]
  | digits isDigits noZero =>
      have leading := leadingDigits_append isDigits.all stops
      obtain ⟨first, others, rfl⟩ :=
        List.exists_cons_of_ne_nil isDigits.nonempty
      unfold wholePart?
      split
      · rename_i after same
        rw [List.map_cons, List.cons_append, List.cons.injEq] at same
        exact absurd same.1 noZero
      · rw [leading]

/-- A fraction is cut off from what goes on neither with a digit nor with a
fraction. -/
theorem IsFraction.fraction?_append
    {fraction : List Char}
    (isFraction : IsFraction fraction)
    {rest : List InputUnit}
    (stops : StopsDigits rest)
    (noPoint : some '.' ∉ rest.head?) :
    fraction? (fraction.map some ++ rest) = some (fraction, rest) := by
  cases isFraction with
  | absent =>
      change fraction? rest = some ([], rest)
      unfold fraction?
      split
      · exact absurd rfl noPoint
      · rfl
  | digits isDigits =>
      have leading := leadingDigits_append isDigits.all stops
      obtain ⟨first, others, rfl⟩ :=
        List.exists_cons_of_ne_nil isDigits.nonempty
      rw [List.map_cons, List.cons_append, fraction?, leading]

/-- A sign of an exponent is cut off from digits. -/
theorem exponentSign_append
    {sign digits : List Char}
    (isSign : sign ∈ [[], ['+'], ['-']])
    (isDigits : IsDigits digits)
    (rest : List InputUnit) :
    exponentSign (sign.map some ++ (digits.map some ++ rest)) =
      (sign, digits.map some ++ rest) := by
  simp only [List.mem_cons, List.not_mem_nil, or_false] at isSign
  rcases isSign with rfl | rfl | rfl
  · obtain ⟨first, others, rfl⟩ := List.exists_cons_of_ne_nil isDigits.nonempty
    have digit := isDigits.all first List.mem_cons_self
    change exponentSign (some first :: _) = ([], some first :: _)
    unfold exponentSign
    split
    · rename_i same
      obtain rfl := Option.some.inj (List.cons.inj same).1
      exact absurd digit (by decide)
    · rename_i same
      obtain rfl := Option.some.inj (List.cons.inj same).1
      exact absurd digit (by decide)
    · rfl
  · rfl
  · rfl

/-- An exponent is cut off from what does not go on with a number. -/
theorem IsExponent.exponent?_append
    {exponent : List Char}
    (isExponent : IsExponent exponent)
    {rest : List InputUnit}
    (stops : StopsNumber rest) :
    exponent? (exponent.map some ++ rest) = some (exponent, rest) := by
  cases isExponent with
  | absent =>
      change exponent? rest = some ([], rest)
      unfold exponent?
      split
      · exact absurd (stops (some 'e') rfl).2 (by simp)
      · exact absurd (stops (some 'E') rfl).2 (by simp)
      · rfl
  | @digits letter sign digits isLetter isSign isDigits =>
      have leading := leadingDigits_append isDigits.all stops.stopsDigits
      have signRead := exponentSign_append isSign isDigits rest
      have afterLetter : exponentDigits? letter
          ((sign ++ digits).map some ++ rest) =
            some (letter :: (sign ++ digits), rest) := by
        obtain ⟨first, others, rfl⟩ :=
          List.exists_cons_of_ne_nil isDigits.nonempty
        rw [exponentDigits?, List.map_append, List.append_assoc, signRead]
        simp only [leading]
        rfl
      simp only [List.mem_cons, List.not_mem_nil, or_false] at isLetter
      rcases isLetter with rfl | rfl
      · exact afterLetter
      · exact afterLetter

/-- A sign of a number is cut off from its whole part. -/
theorem numberSign_append
    {sign whole : List Char}
    (isSign : sign ∈ [[], ['-']])
    (isWhole : IsWhole whole)
    (rest : List InputUnit) :
    numberSign (sign.map some ++ (whole.map some ++ rest)) =
      (sign, whole.map some ++ rest) := by
  simp only [List.mem_cons, List.not_mem_nil, or_false] at isSign
  rcases isSign with rfl | rfl
  · cases isWhole with
    | zero => rfl
    | digits isDigits _ =>
        obtain ⟨first, others, rfl⟩ :=
          List.exists_cons_of_ne_nil isDigits.nonempty
        have digit := isDigits.all first List.mem_cons_self
        change numberSign (some first :: _) = ([], some first :: _)
        unfold numberSign
        split
        · rename_i same
          obtain rfl := Option.some.inj (List.cons.inj same).1
          exact absurd digit (by decide)
        · rfl
  · rfl

/-- A number is read as it is written, unless what follows goes on with it. -/
theorem IsNumber.number?_append
    {text : List Char}
    (isNumber : IsNumber text)
    {rest : List InputUnit}
    (stops : StopsNumber rest) :
    number? (text.map some ++ rest) =
      some (.number (String.ofList text), rest) := by
  cases isNumber with
  | parts isSign isWhole isFraction isExponent =>
      obtain ⟨stopsFraction, noPoint⟩ := isExponent.stops stops
      have signRead := numberSign_append isSign isWhole
      have wholeRead := isWhole.wholePart?_append
        (isFraction.stops stopsFraction)
      have fractionRead := isFraction.fraction?_append stopsFraction noPoint
      have exponentRead := isExponent.exponent?_append stops
      simp only [number?, List.map_append, List.append_assoc, signRead,
        Option.bind_eq_bind, wholeRead, Option.bind_some, fractionRead,
        exponentRead]
      rfl

/-- A number begins with its sign or with a digit. -/
theorem IsNumber.exists_eq_cons
    {text : List Char}
    (isNumber : IsNumber text) :
    ∃ first others, text = first :: others ∧
      (first = '-' ∨ first.isDigit) := by
  cases isNumber with
  | parts isSign isWhole _ _ =>
      simp only [List.mem_cons, List.not_mem_nil, or_false] at isSign
      rcases isSign with rfl | rfl
      · cases isWhole with
        | zero => exact ⟨'0', _, rfl, .inr rfl⟩
        | digits isDigits _ =>
            obtain ⟨first, others, rfl⟩ :=
              List.exists_cons_of_ne_nil isDigits.nonempty
            exact ⟨first, _, rfl, .inr (isDigits.all _ List.mem_cons_self)⟩
      · exact ⟨'-', _, rfl, .inl rfl⟩

end Json
end BookLookup
