import BookLookup.Proofs.Text.Utf8

/-!
# Octets that write a text

A unit that is a character has the octets of the character. So octets that are
cut into characters write the text of these, and are told by it. Of all other
octets lenient reading makes a text with U+FFFD in it.
-/

namespace BookLookup
namespace Utf8

/-- Octets write a text. -/
def WellFormed (octets : List UInt8) : Prop :=
  ∃ text, octets = encode text

/-! ## Characters have their octets -/

/-- What a first octet announces: the octet gives the leading bits, and bounds
the second octet so that no code is too small, too large or a surrogate. -/
theorem lead?_eq_some_cases
    {octet : UInt8}
    {lead : Lead}
    (leads : lead? octet = some lead) :
    (lead.tails = 0 ∧ lead.bits = octet.toNat ∧ octet.toNat < 0x80) ∨
    (lead.tails = 1 ∧ lead.low = 0x80 ∧ lead.high = 0xBF ∧
      octet.toNat = 0xC0 + lead.bits ∧ 2 ≤ lead.bits ∧ lead.bits < 0x20) ∨
    (lead.tails = 2 ∧ 0x80 ≤ lead.low ∧ lead.high ≤ 0xBF ∧
      octet.toNat = 0xE0 + lead.bits ∧ lead.bits < 0x10 ∧
      (lead.bits ≠ 0 ∨ 0xA0 ≤ lead.low) ∧
      (lead.bits ≠ 0x0D ∨ lead.high ≤ 0x9F)) ∨
    (lead.tails = 3 ∧ 0x80 ≤ lead.low ∧ lead.high ≤ 0xBF ∧
      octet.toNat = 0xF0 + lead.bits ∧ lead.bits ≤ 4 ∧
      (lead.bits ≠ 0 ∨ 0x90 ≤ lead.low) ∧
      (lead.bits ≠ 4 ∨ lead.high ≤ 0x8F)) := by
  unfold lead? at leads
  simp only [] at leads
  split_ifs at leads
  all_goals
    obtain rfl := Option.some.inj leads
    dsimp only
    omega

/-- Without further octets the code point is complete. -/
theorem readTails_zero_eq_some
    {low high bits code : Nat}
    {octets others : List UInt8}
    (completed : readTails 0 low high bits octets = (some code, others)) :
    code = bits ∧ octets = others := by
  rw [readTails, Prod.mk.injEq, Option.some.injEq] at completed
  exact ⟨completed.1.symm, completed.2⟩

/-- A further octet that continues the code point is within its bounds and gives
six bits. -/
theorem readTails_succ_eq_some
    {remaining low high bits code : Nat}
    {octets others : List UInt8}
    (completed : readTails (remaining + 1) low high bits octets =
      (some code, others)) :
    ∃ tail rest, octets = tail :: rest ∧
      low ≤ tail.toNat ∧ tail.toNat ≤ high ∧
      readTails remaining 0x80 0xBF (0x40 * bits + (tail.toNat - 0x80)) rest =
        (some code, others) := by
  cases octets with
  | nil => simp [readTails] at completed
  | cons tail rest =>
      rw [readTails] at completed
      split at completed
      · rename_i inBounds
        exact ⟨tail, rest, rfl, inBounds.1, inBounds.2, completed⟩
      · simp at completed

theorem ofNat_eq_of_toNat
    {value : Nat}
    {octet : UInt8}
    (isValue : octet.toNat = value) :
    UInt8.ofNat value = octet := by
  rw [← isValue, UInt8.ofNat_toNat]

/-- Two octets that are read as a code are those of its character. -/
theorem encodeChar_two
    {code : Nat}
    {first second : UInt8}
    (range : 0x80 ≤ code ∧ code < 0x800)
    (isFirst : first.toNat = 0xC0 + code / 0x40)
    (isSecond : second.toNat = 0x80 + code % 0x40) :
    encodeChar (Char.ofNat code) = [first, second] := by
  rw [encodeChar, toNat_ofNat (.inl (by omega))]
  simp only [ofNat_eq_of_toNat isFirst, ofNat_eq_of_toNat isSecond]
  rw [if_neg (by omega), if_pos range.2]

/-- Three octets that are read as a code are those of its character. -/
theorem encodeChar_three
    {code : Nat}
    {first second third : UInt8}
    (range : 0x800 ≤ code ∧ code < 0x10000)
    (noSurrogate : code < 0xD800 ∨ 0xDFFF < code)
    (isFirst : first.toNat = 0xE0 + code / 0x1000)
    (isSecond : second.toNat = 0x80 + code / 0x40 % 0x40)
    (isThird : third.toNat = 0x80 + code % 0x40) :
    encodeChar (Char.ofNat code) = [first, second, third] := by
  have valid : code.isValidChar :=
    noSurrogate.imp_right fun above => ⟨above, by omega⟩
  rw [encodeChar, toNat_ofNat valid]
  simp only [ofNat_eq_of_toNat isFirst, ofNat_eq_of_toNat isSecond,
    ofNat_eq_of_toNat isThird]
  rw [if_neg (by omega), if_neg (by omega), if_pos range.2]

/-- Four octets that are read as a code are those of its character. -/
theorem encodeChar_four
    {code : Nat}
    {first second third fourth : UInt8}
    (range : 0x10000 ≤ code ∧ code < 0x110000)
    (isFirst : first.toNat = 0xF0 + code / 0x40000)
    (isSecond : second.toNat = 0x80 + code / 0x1000 % 0x40)
    (isThird : third.toNat = 0x80 + code / 0x40 % 0x40)
    (isFourth : fourth.toNat = 0x80 + code % 0x40) :
    encodeChar (Char.ofNat code) = [first, second, third, fourth] := by
  rw [encodeChar, toNat_ofNat (.inr ⟨by omega, range.2⟩)]
  simp only [ofNat_eq_of_toNat isFirst, ofNat_eq_of_toNat isSecond,
    ofNat_eq_of_toNat isThird, ofNat_eq_of_toNat isFourth]
  rw [if_neg (by omega), if_neg (by omega), if_neg (by omega)]

/-- A first octet with the octets that complete its code is that of the
character. -/
theorem cons_eq_of_readTails_eq_some
    {octet : UInt8}
    {lead : Lead}
    {rest others : List UInt8}
    {code : Nat}
    (leads : lead? octet = some lead)
    (completed : readTails lead.tails lead.low lead.high lead.bits rest =
      (some code, others)) :
    octet :: rest = encodeChar (Char.ofNat code) ++ others := by
  obtain ⟨tails, low, high, bits⟩ := lead
  have bounds := lead?_eq_some_cases leads
  simp only at completed bounds
  rcases bounds with ⟨rfl, isBits, below⟩ |
    ⟨rfl, rfl, rfl, isOctet, atLeast, below⟩ |
    ⟨rfl, fromLow, toHigh, isOctet, below, notShort, noSurrogate⟩ |
    ⟨rfl, fromLow, toHigh, isOctet, atMost, notShort, notBeyond⟩
  · obtain ⟨rfl, rfl⟩ := readTails_zero_eq_some completed
    have code : (Char.ofNat octet.toNat).toNat = octet.toNat :=
      toNat_ofNat (.inl (by omega))
    rw [isBits, encodeChar_of_lt (by omega), code, UInt8.ofNat_toNat]
    rfl
  · obtain ⟨second, _, rfl, fromSecond, toSecond, completed⟩ :=
      readTails_succ_eq_some completed
    obtain ⟨isCode, rfl⟩ := readTails_zero_eq_some completed
    rw [@encodeChar_two code octet second (by omega) (by omega) (by omega)]
    rfl
  · obtain ⟨second, _, rfl, fromSecond, toSecond, completed⟩ :=
      readTails_succ_eq_some completed
    obtain ⟨third, _, rfl, fromThird, toThird, completed⟩ :=
      readTails_succ_eq_some completed
    obtain ⟨isCode, rfl⟩ := readTails_zero_eq_some completed
    rw [@encodeChar_three code octet second third (by omega) (by omega)
      (by omega) (by omega) (by omega)]
    rfl
  · obtain ⟨second, _, rfl, fromSecond, toSecond, completed⟩ :=
      readTails_succ_eq_some completed
    obtain ⟨third, _, rfl, fromThird, toThird, completed⟩ :=
      readTails_succ_eq_some completed
    obtain ⟨fourth, _, rfl, fromFourth, toFourth, completed⟩ :=
      readTails_succ_eq_some completed
    obtain ⟨isCode, rfl⟩ := readTails_zero_eq_some completed
    rw [@encodeChar_four code octet second third fourth (by omega) (by omega)
      (by omega) (by omega) (by omega)]
    rfl

/-- A unit that is a character has the octets of the character. -/
theorem cons_eq_of_firstUnit_eq_some
    {octet : UInt8}
    {rest others : List UInt8}
    {symbol : Char}
    (read : firstUnit octet rest = (some symbol, others)) :
    octet :: rest = encodeChar symbol ++ others := by
  unfold firstUnit at read
  split at read
  · simp at read
  · rename_i lead leads
    cases completed : readTails lead.tails lead.low lead.high lead.bits rest with
    | mk code? after =>
        rw [completed] at read
        simp only [Prod.mk.injEq, Option.map_eq_some_iff] at read
        obtain ⟨⟨code, rfl, rfl⟩, rfl⟩ := read
        exact cons_eq_of_readTails_eq_some leads completed

/-! ## Texts have their octets -/

/-- Octets are those of a text exactly if they are cut into its characters. -/
theorem units_eq_map_some_iff {octets : List UInt8} {text : List Char} :
    units octets = text.map some ↔ octets = encode text := by
  constructor
  · intro cut
    induction octets using units.induct generalizing text with
    | case1 =>
        rw [units] at cut
        rw [List.map_eq_nil_iff.mp cut.symm, encode_nil]
    | case2 octet rest inductionHypothesis =>
        rw [units] at cut
        obtain ⟨symbol, others, rfl, isSymbol, cutOthers⟩ :=
          List.map_eq_cons_iff.mp cut.symm
        have read : firstUnit octet rest =
            (some symbol, (firstUnit octet rest).2) :=
          Prod.ext isSymbol.symm rfl
        rw [cons_eq_of_firstUnit_eq_some read, encode_cons,
          ← inductionHypothesis cutOthers.symm]
  · rintro rfl
    exact units_encode text

/-- Octets write a text exactly if they are cut into characters. -/
theorem wellFormed_iff {octets : List UInt8} :
    WellFormed octets ↔ none ∉ units octets := by
  constructor
  · rintro ⟨text, rfl⟩
    rw [units_encode]
    simp
  · intro allCut
    refine ⟨(units octets).filterMap id, units_eq_map_some_iff.mp ?_⟩
    generalize units octets = cut at allCut
    induction cut with
    | nil => rfl
    | cons unit others inductionHypothesis =>
        rw [List.mem_cons, not_or] at allCut
        obtain ⟨symbol, rfl⟩ :=
          Option.ne_none_iff_exists'.mp (Ne.symm allCut.1)
        rw [List.filterMap_cons, id_eq]
        exact congrArg (some symbol :: ·) (inductionHypothesis allCut.2)

/-- Units are a text exactly if they are its characters. -/
theorem allChars_eq_some_iff
    {cut : List (Option Char)}
    {text : List Char} :
    allChars cut = some text ↔ cut = text.map some := by
  constructor
  · intro isText
    induction cut generalizing text with
    | nil =>
        obtain rfl := Option.some.inj isText
        rfl
    | cons unit others inductionHypothesis =>
        cases unit with
        | none => cases isText
        | some symbol =>
            obtain ⟨rest, othersText, rfl⟩ := Option.map_eq_some_iff.mp isText
            rw [inductionHypothesis othersText, List.map_cons]
  · rintro rfl
    exact allChars_map_some text

theorem decode?_eq_some_iff {octets : List UInt8} {text : List Char} :
    decode? octets = some text ↔ octets = encode text := by
  rw [decode?, allChars_eq_some_iff, units_eq_map_some_iff]

theorem WellFormed.encode_decodeLossy
    {octets : List UInt8}
    (wellFormed : WellFormed octets) :
    encode (decodeLossy octets) = octets := by
  obtain ⟨text, rfl⟩ := wellFormed
  rw [decodeLossy_encode]

theorem replacement_mem_decodeLossy
    {octets : List UInt8}
    (illFormed : ¬ WellFormed octets) :
    Char.ofNat 0xFFFD ∈ decodeLossy octets := by
  rw [wellFormed_iff, Decidable.not_not] at illFormed
  exact List.mem_map.mpr ⟨none, illFormed, rfl⟩

theorem units_cons_of_lead?_eq_none
    {octet : UInt8}
    (noLead : lead? octet = none)
    (rest : List UInt8) :
    units (octet :: rest) = none :: units rest := by
  rw [units]
  simp only [firstUnit, noLead]

theorem not_wellFormed_of_lead?_eq_none
    {octet : UInt8}
    (noLead : lead? octet = none)
    (rest : List UInt8) :
    ¬ WellFormed (octet :: rest) := by
  rw [wellFormed_iff, units_cons_of_lead?_eq_none noLead]
  simp

end Utf8
end BookLookup
