import BookLookup.Json.Printer
import BookLookup.Json.Reader
import BookLookup.Proofs.Text.Digits

/-!
# String literals

Between the marks of a string literal, a character stands for itself, unless it
is a mark, a backslash or a control. Any character may be written as an escape of
its own letter, as one escape of four hexadecimal digits, or as two such escapes
that are a pair of surrogates. Every literal of this kind is read as the text
that it writes, and the literal that is printed for a text is one of them.
-/

namespace BookLookup
namespace Json

/-! ## What literals write -/

/-- The letters of the short escapes with their characters. -/
def shortEscapes : List (Char × Char) :=
  [('"', '"'), ('\\', '\\'), ('/', '/'), ('b', Char.ofNat 0x08),
    ('f', Char.ofNat 0x0C), ('n', '\n'), ('r', '\r'), ('t', '\t')]

/-- Four hexadecimal digits write a number of sixteen bits. -/
inductive WritesUnit : List Char -> Nat -> Prop where
  | digits
      {first second third fourth : Char}
      {firstValue secondValue thirdValue fourthValue : Nat}
      (isFirst : Hex.digitValue? first = some firstValue)
      (isSecond : Hex.digitValue? second = some secondValue)
      (isThird : Hex.digitValue? third = some thirdValue)
      (isFourth : Hex.digitValue? fourth = some fourthValue) :
      WritesUnit [first, second, third, fourth]
        (4096 * firstValue + 256 * secondValue + 16 * thirdValue + fourthValue)

/-- What stands between the marks of a literal writes a text. -/
inductive WritesText : List Char -> List Char -> Prop where
  | nil : WritesText [] []
  | plain
      {symbol : Char}
      {literal text : List Char}
      (noMark : symbol ≠ '"')
      (noBackslash : symbol ≠ '\\')
      (noControl : 0x20 ≤ symbol.toNat)
      (others : WritesText literal text) :
      WritesText (symbol :: literal) (symbol :: text)
  /-- A letter behind a backslash stands for its character. -/
  | short
      {letter symbol : Char}
      {literal text : List Char}
      (escapes : (letter, symbol) ∈ shortEscapes)
      (others : WritesText literal text) :
      WritesText ('\\' :: letter :: literal) (symbol :: text)
  /-- Four digits stand for the character with their number. -/
  | unit
      {digits : List Char}
      {value : Nat}
      {literal text : List Char}
      (writes : WritesUnit digits value)
      (noSurrogate : value < 0xD800 ∨ 0xE000 ≤ value)
      (others : WritesText literal text) :
      WritesText ('\\' :: 'u' :: (digits ++ literal))
        (Char.ofNat value :: text)
  /-- Two times four digits stand for the character of a pair of surrogates. -/
  | pair
      {highDigits lowDigits : List Char}
      {high low : Nat}
      {literal text : List Char}
      (writesHigh : WritesUnit highDigits high)
      (isHigh : 0xD800 ≤ high ∧ high < 0xDC00)
      (writesLow : WritesUnit lowDigits low)
      (isLow : 0xDC00 ≤ low ∧ low < 0xE000)
      (others : WritesText literal text) :
      WritesText
        ('\\' :: 'u' :: (highDigits ++ '\\' :: 'u' :: (lowDigits ++ literal)))
        (Char.ofNat (0x10000 + 0x400 * (high - 0xD800) + (low - 0xDC00)) ::
          text)

/-! ## Literals are read -/

/-- A piece in front of what a literal gives. -/
def withPiece
    (piece : Piece)
    (read : List Piece × List InputUnit) : List Piece × List InputUnit :=
  (piece :: read.1, read.2)

theorem shortEscapes_read :
    ∀ escape ∈ shortEscapes,
      shortEscapeValue? escape.1 = some escape.2 ∧ escape.1 ≠ 'u' := by
  decide

/-- An escape of one letter gives its character. -/
theorem literal?_short
    {letter symbol : Char}
    (escapes : (letter, symbol) ∈ shortEscapes)
    (rest : List InputUnit) :
    literal? (some '\\' :: some letter :: rest) =
      (literal? rest).map (withPiece (.symbol symbol)) := by
  obtain ⟨reads, short⟩ := shortEscapes_read _ escapes
  rw [literal?]
  · rw [reads]
    cases literal? rest with
    | none => rfl
    | some read => rfl
  · intro _ _ _ _ _ _ long
    exact short long

/-- An escape of four digits gives their value. -/
theorem WritesUnit.literal?_eq
    {digits : List Char}
    {value : Nat}
    (writes : WritesUnit digits value)
    (rest : List InputUnit) :
    literal? (some '\\' :: some 'u' :: (digits.map some ++ rest)) =
      (literal? rest).map (withPiece (.unit value)) := by
  cases writes with
  | digits isFirst isSecond isThird isFourth =>
      simp only [List.map_cons, List.map_nil, List.cons_append,
        List.nil_append, literal?, unitValue?, Option.bind_eq_bind,
        Option.bind_some, isFirst, isSecond, isThird, isFourth]
      cases literal? rest with
      | none => rfl
      | some read => rfl

/-- A character that needs no escape gives itself. -/
theorem literal?_plain
    {symbol : Char}
    (noMark : symbol ≠ '"')
    (noBackslash : symbol ≠ '\\')
    (noControl : 0x20 ≤ symbol.toNat)
    (rest : List InputUnit) :
    literal? (some symbol :: rest) =
      (literal? rest).map (withPiece (.symbol symbol)) := by
  rw [literal?]
  · rw [if_neg (not_or.mpr ⟨noBackslash, by omega⟩)]
    cases literal? rest with
    | none => rfl
    | some read => rfl
  · exact noMark
  · intro _ _ _ _ _ _
    exact noBackslash
  · intro _ _ _
    exact noBackslash

/-- A unit that is no surrogate is a character of its own. -/
theorem textOfPieces?_unit
    {value : Nat}
    (noSurrogate : value < 0xD800 ∨ 0xE000 ≤ value)
    (rest : List Piece) :
    textOfPieces? (.unit value :: rest) =
      (textOfPieces? rest).map (Char.ofNat value :: ·) := by
  have alone : ¬ (0xD800 ≤ value ∧ value < 0xE000) := by
    omega
  cases rest with
  | nil => simp only [textOfPieces?, if_neg alone]
  | cons next others =>
      cases next with
      | symbol symbol => simp only [textOfPieces?, if_neg alone]
      | unit low => rw [textOfPieces?, if_neg (by omega), if_neg (by omega)]
      | illFormed => simp [textOfPieces?]

/-- What stands between the marks is cut into pieces that name its text. -/
theorem WritesText.literal?_append
    {literal text : List Char}
    (writes : WritesText literal text) :
    ∃ pieces, textOfPieces? pieces = some text ∧
      ∀ rest, literal? (literal.map some ++ some '"' :: rest) =
        some (pieces, rest) := by
  induction writes with
  | nil => exact ⟨[], rfl, fun _ => rfl⟩
  | @plain symbol _ _ noMark noBackslash noControl _ inductionHypothesis =>
      obtain ⟨pieces, names, read⟩ := inductionHypothesis
      refine ⟨.symbol symbol :: pieces, ?_, fun rest => ?_⟩
      · rw [textOfPieces?, names, Option.map_some]
      · rw [List.map_cons, List.cons_append,
          literal?_plain noMark noBackslash noControl, read]
        rfl
  | @short _ symbol _ _ escapes _ inductionHypothesis =>
      obtain ⟨pieces, names, read⟩ := inductionHypothesis
      refine ⟨.symbol symbol :: pieces, ?_, fun rest => ?_⟩
      · rw [textOfPieces?, names, Option.map_some]
      · rw [List.map_cons, List.map_cons, List.cons_append, List.cons_append,
          literal?_short escapes, read]
        rfl
  | @unit _ value _ _ writesUnit noSurrogate _ inductionHypothesis =>
      obtain ⟨pieces, names, read⟩ := inductionHypothesis
      refine ⟨.unit value :: pieces, ?_, fun rest => ?_⟩
      · rw [textOfPieces?_unit noSurrogate, names, Option.map_some]
      · simp only [List.map_cons, List.map_append, List.cons_append,
          List.append_assoc, writesUnit.literal?_eq, read]
        rfl
  | @pair _ _ high low _ _ writesHigh isHigh writesLow isLow _
      inductionHypothesis =>
      obtain ⟨pieces, names, read⟩ := inductionHypothesis
      refine ⟨.unit high :: .unit low :: pieces, ?_, fun rest => ?_⟩
      · rw [textOfPieces?, if_pos isHigh, if_pos isLow, names, Option.map_some]
      · simp only [List.map_cons, List.map_append, List.cons_append,
          List.append_assoc, writesHigh.literal?_eq, writesLow.literal?_eq,
          read]
        rfl

/-- A literal is read as its text behind its first mark. -/
theorem WritesText.string?_append
    {literal text : List Char}
    (writes : WritesText literal text)
    (rest : List InputUnit) :
    string? (literal.map some ++ some '"' :: rest) =
      some (some (String.ofList text), rest) := by
  obtain ⟨pieces, names, read⟩ := writes.literal?_append
  rw [string?, read]
  change some ((textOfPieces? pieces).map String.ofList, rest) = _
  rw [names, Option.map_some]

/-! ## Printed literals -/

/-- A short escape that is printed is one of those that are read. -/
theorem mem_shortEscapes_of_shortEscape?
    {symbol letter : Char}
    (escaped : shortEscape? symbol = some letter) :
    (letter, symbol) ∈ shortEscapes := by
  have ofCode {code : Nat} (isCode : symbol.toNat = code) :
      Char.ofNat code = symbol :=
    isCode ▸ Char.ofNat_toNat symbol
  unfold shortEscape? at escaped
  split_ifs at escaped with isMark isBackslash backspace tab lineFeed formFeed
    carriageReturn
  all_goals obtain rfl := Option.some.inj escaped
  · rw [isMark]
    decide
  · rw [isBackslash]
    decide
  · rw [← ofCode backspace]
    decide
  · rw [← ofCode tab]
    decide
  · rw [← ofCode lineFeed]
    decide
  · rw [← ofCode formFeed]
    decide
  · rw [← ofCode carriageReturn]
    decide

/-- The digits that are printed for a control write its number. -/
theorem writesUnit_control
    {code : Nat}
    (control : code < 0x20) :
    WritesUnit ['0', '0', Hex.lowerDigit (code / 16),
      Hex.lowerDigit (code % 16)] code := by
  have zero : Hex.digitValue? '0' = some 0 := rfl
  have writes := WritesUnit.digits zero zero
    (Hex.digitValue?_lowerDigit (code / 16) (by omega))
    (Hex.digitValue?_lowerDigit (code % 16) (by omega))
  have isCode : 4096 * 0 + 256 * 0 + 16 * (code / 16) + code % 16 = code := by
    omega
  rwa [isCode] at writes

/-- What is printed for a character writes it in front of a text. -/
theorem WritesText.escapeChar_append
    {literal text : List Char}
    (symbol : Char)
    (others : WritesText literal text) :
    WritesText (escapeChar symbol ++ literal) (symbol :: text) := by
  unfold escapeChar
  split
  · rename_i letter escaped
    exact .short (mem_shortEscapes_of_shortEscape? escaped) others
  · rename_i notEscaped
    split
    · rename_i control
      have written := others.unit (writesUnit_control control)
        (.inl (by omega))
      rwa [Char.ofNat_toNat] at written
    · rename_i noControl
      refine others.plain ?_ ?_ (by omega)
      · rintro rfl
        cases notEscaped
      · rintro rfl
        cases notEscaped

theorem writesText_escape (text : List Char) :
    WritesText (escape text) text := by
  induction text with
  | nil => exact .nil
  | cons symbol others inductionHypothesis =>
      exact inductionHypothesis.escapeChar_append symbol

end Json
end BookLookup
