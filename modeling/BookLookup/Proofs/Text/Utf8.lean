import BookLookup.Text.Utf8
import Mathlib.Tactic.SplitIfs

/-!
# UTF-8 is read back

The octets of a character are cut off as one unit, whatever follows them, so
that the units of an encoded text are its characters.
-/

namespace BookLookup
namespace Utf8

theorem toNat_octet
    {octet : Nat}
    (below : octet < 256) :
    (UInt8.ofNat octet).toNat = octet :=
  UInt8.toNat_ofNat_of_lt below

theorem toNat_ofNat
    {code : Nat}
    (valid : code.isValidChar) :
    (Char.ofNat code).toNat = code := by
  rw [Char.ofNat, dif_pos valid]
  rfl

/-- A tail octet adds six bits to the code point. -/
theorem readTails_succ_cons
    {remaining low high bits octet : Nat}
    {rest : List UInt8}
    (below : octet < 256)
    (inBounds : low ≤ octet ∧ octet ≤ high) :
    readTails (remaining + 1) low high bits (UInt8.ofNat octet :: rest) =
      readTails remaining 0x80 0xBF (0x40 * bits + (octet - 0x80)) rest := by
  rw [readTails, toNat_octet below, if_pos inBounds]

/-! ## First octets -/

theorem lead?_two
    {bits : Nat}
    (range : 2 ≤ bits ∧ bits < 0x20) :
    lead? (UInt8.ofNat (0xC0 + bits)) = some ⟨1, 0x80, 0xBF, bits⟩ := by
  rw [lead?, toNat_octet (by omega)]
  rw [if_neg (by omega), if_neg (by omega), if_pos (by omega)]
  simp

/-- The first octet of a character of three, whose second octet is bounded more
closely behind the least and the greatest leading bits. -/
theorem lead?_three
    (bits second : Nat)
    (bitsBelow : bits < 0x10)
    (secondRange : 0x80 ≤ second ∧ second ≤ 0xBF)
    (notShort : bits = 0 -> 0xA0 ≤ second)
    (noSurrogate : bits = 0x0D -> second ≤ 0x9F) :
    ∃ low high, lead? (UInt8.ofNat (0xE0 + bits)) =
      some ⟨2, low, high, bits⟩ ∧ low ≤ second ∧ second ≤ high := by
  rw [lead?, toNat_octet (by omega)]
  rw [if_neg (by omega), if_neg (by omega), if_neg (by omega)]
  by_cases least : bits = 0
  · exact ⟨0xA0, 0xBF, by simp [least], by omega, by omega⟩
  · by_cases surrogates : bits = 0x0D
    · exact ⟨0x80, 0x9F, by simp [surrogates], by omega, by omega⟩
    · refine ⟨0x80, 0xBF, ?_, by omega, by omega⟩
      rw [if_neg (by omega), if_neg (by omega), if_pos (by omega)]
      simp

/-- The first octet of a character of four, whose second octet is bounded more
closely behind the least and the greatest leading bits. -/
theorem lead?_four
    (bits second : Nat)
    (bitsAtMost : bits ≤ 4)
    (secondRange : 0x80 ≤ second ∧ second ≤ 0xBF)
    (notShort : bits = 0 -> 0x90 ≤ second)
    (notBeyond : bits = 4 -> second ≤ 0x8F) :
    ∃ low high, lead? (UInt8.ofNat (0xF0 + bits)) =
      some ⟨3, low, high, bits⟩ ∧ low ≤ second ∧ second ≤ high := by
  rw [lead?, toNat_octet (by omega)]
  rw [if_neg (by omega), if_neg (by omega), if_neg (by omega),
    if_neg (by omega), if_neg (by omega), if_neg (by omega)]
  by_cases least : bits = 0
  · exact ⟨0x90, 0xBF, by simp [least], by omega, by omega⟩
  · by_cases greatest : bits = 4
    · exact ⟨0x80, 0x8F, by simp [greatest], by omega, by omega⟩
    · refine ⟨0x80, 0xBF, ?_, by omega, by omega⟩
      rw [if_neg (by omega), if_pos (by omega)]
      simp

/-! ## Characters and texts -/

/-- A first octet with tails that complete a code point are one unit. -/
theorem units_cons_of_readTails
    {octet : UInt8}
    {lead : Lead}
    {tails rest : List UInt8}
    {code : Nat}
    (leads : lead? octet = some lead)
    (completed : readTails lead.tails lead.low lead.high lead.bits tails =
      (some code, rest)) :
    units (octet :: tails) = some (Char.ofNat code) :: units rest := by
  rw [units]
  simp only [firstUnit, leads, completed, Option.map_some]

/-- The octets of a character are one unit, whatever follows. -/
theorem units_encodeChar_append
    (symbol : Char)
    (rest : List UInt8) :
    units (encodeChar symbol ++ rest) = some symbol :: units rest := by
  have range : symbol.toNat < 0xD800 ∨
      0xDFFF < symbol.toNat ∧ symbol.toNat < 0x110000 := symbol.valid
  have again := Char.ofNat_toNat symbol
  generalize code_eq : symbol.toNat = code at range again
  unfold encodeChar
  rw [code_eq]
  simp only
  split_ifs with one two three
  · have leads : lead? (UInt8.ofNat code) = some ⟨0, 0x80, 0xBF, code⟩ := by
      rw [lead?, toNat_octet (by omega)]
      exact if_pos one
    rw [List.singleton_append, units_cons_of_readTails leads rfl, again]
  · have leads : lead? (UInt8.ofNat (0xC0 + code / 0x40)) =
        some ⟨1, 0x80, 0xBF, code / 0x40⟩ := lead?_two (by omega)
    have whole : 0x40 * (code / 0x40) + (0x80 + code % 0x40 - 0x80) = code := by
      omega
    have completed : readTails 1 0x80 0xBF (code / 0x40)
        (UInt8.ofNat (0x80 + code % 0x40) :: rest) = (some code, rest) := by
      rw [readTails_succ_cons (by omega) (by omega), whole, readTails]
    rw [List.cons_append, List.singleton_append,
      units_cons_of_readTails leads completed, again]
  · obtain ⟨low, high, leads, fromLow, toHigh⟩ :=
      lead?_three (code / 0x1000) (0x80 + code / 0x40 % 0x40)
        (by omega) (by omega) (by omega) (by omega)
    have whole :
        0x40 * (0x40 * (code / 0x1000) + (0x80 + code / 0x40 % 0x40 - 0x80)) +
          (0x80 + code % 0x40 - 0x80) = code := by
      omega
    have completed : readTails 2 low high (code / 0x1000)
        (UInt8.ofNat (0x80 + code / 0x40 % 0x40) ::
          UInt8.ofNat (0x80 + code % 0x40) :: rest) = (some code, rest) := by
      rw [readTails_succ_cons (by omega) ⟨fromLow, toHigh⟩,
        readTails_succ_cons (by omega) (by omega), whole, readTails]
    rw [List.cons_append, List.cons_append, List.singleton_append,
      units_cons_of_readTails leads completed, again]
  · obtain ⟨low, high, leads, fromLow, toHigh⟩ :=
      lead?_four (code / 0x40000) (0x80 + code / 0x1000 % 0x40)
        (by omega) (by omega) (by omega) (by omega)
    have whole :
        0x40 * (0x40 * (0x40 * (code / 0x40000) +
            (0x80 + code / 0x1000 % 0x40 - 0x80)) +
          (0x80 + code / 0x40 % 0x40 - 0x80)) +
          (0x80 + code % 0x40 - 0x80) = code := by
      omega
    have completed : readTails 3 low high (code / 0x40000)
        (UInt8.ofNat (0x80 + code / 0x1000 % 0x40) ::
          UInt8.ofNat (0x80 + code / 0x40 % 0x40) ::
          UInt8.ofNat (0x80 + code % 0x40) :: rest) = (some code, rest) := by
      rw [readTails_succ_cons (by omega) ⟨fromLow, toHigh⟩,
        readTails_succ_cons (by omega) (by omega),
        readTails_succ_cons (by omega) (by omega), whole, readTails]
    rw [List.cons_append, List.cons_append, List.cons_append,
      List.singleton_append, units_cons_of_readTails leads completed, again]

theorem encodeChar_of_lt
    {symbol : Char}
    (ascii : symbol.toNat < 0x80) :
    encodeChar symbol = [UInt8.ofNat symbol.toNat] := by
  rw [encodeChar]
  exact if_pos ascii

/-- ASCII octets are those of the characters of the same codes. -/
theorem encode_map_ofNat
    {octets : List UInt8}
    (ascii : ∀ octet ∈ octets, octet.toNat < 0x80) :
    encode (octets.map fun octet => Char.ofNat octet.toNat) = octets := by
  induction octets with
  | nil => rfl
  | cons octet others inductionHypothesis =>
      obtain ⟨here, later⟩ := List.forall_mem_cons.mp ascii
      have code : (Char.ofNat octet.toNat).toNat = octet.toNat :=
        toNat_ofNat (.inl (by omega))
      rw [List.map_cons, encode_cons, inductionHypothesis later,
        encodeChar_of_lt (by omega), code, UInt8.ofNat_toNat,
        List.singleton_append]

/-- The octets of any other character are not ASCII. -/
theorem le_of_mem_encodeChar
    {symbol : Char}
    {octet : UInt8}
    (beyond : 0x80 ≤ symbol.toNat)
    (member : octet ∈ encodeChar symbol) :
    0x80 ≤ octet.toNat := by
  have range : symbol.toNat < 0x110000 := by
    have valid := symbol.valid
    rcases valid with low | ⟨-, high⟩
    · have code : symbol.toNat < 0xD800 := low
      omega
    · exact high
  have large {value : Nat} (bounds : 0x80 ≤ value ∧ value < 256) :
      0x80 ≤ (UInt8.ofNat value).toNat := by
    rw [toNat_octet bounds.2]
    exact bounds.1
  unfold encodeChar at member
  simp only [] at member
  split_ifs at member with ascii two three
  · omega
  · simp only [List.mem_cons, List.not_mem_nil, or_false] at member
    rcases member with rfl | rfl <;> exact large (by omega)
  · simp only [List.mem_cons, List.not_mem_nil, or_false] at member
    rcases member with rfl | rfl | rfl <;> exact large (by omega)
  · simp only [List.mem_cons, List.not_mem_nil, or_false] at member
    rcases member with rfl | rfl | rfl | rfl <;> exact large (by omega)

/-- An ASCII octet of an encoded text is the character of the same code. -/
theorem mem_of_mem_encode
    {text : List Char}
    {octet : UInt8}
    (ascii : octet.toNat < 0x80)
    (member : octet ∈ encode text) :
    Char.ofNat octet.toNat ∈ text := by
  obtain ⟨symbol, inText, written⟩ := List.mem_flatMap.mp member
  by_cases isAscii : symbol.toNat < 0x80
  · rw [encodeChar_of_lt isAscii, List.mem_singleton] at written
    rw [written, toNat_octet (by omega), Char.ofNat_toNat]
    exact inText
  · have beyond := le_of_mem_encodeChar (Nat.not_lt.mp isAscii) written
    omega

theorem units_encode (text : List Char) :
    units (encode text) = text.map some := by
  induction text with
  | nil => rw [encode_nil, units, List.map_nil]
  | cons symbol rest inductionHypothesis =>
      rw [encode_cons, units_encodeChar_append, inductionHypothesis,
        List.map_cons]

theorem allChars_map_some (text : List Char) :
    allChars (text.map some) = some text := by
  induction text with
  | nil => rfl
  | cons symbol rest inductionHypothesis =>
      simp [allChars, inductionHypothesis]

@[simp] theorem decode?_encode (text : List Char) :
    decode? (encode text) = some text := by
  rw [decode?, units_encode, allChars_map_some]

@[simp] theorem decodeLossy_encode (text : List Char) :
    decodeLossy (encode text) = text := by
  rw [decodeLossy, units_encode, List.map_map]
  exact List.map_id text

theorem octets_injective : Function.Injective octets := by
  intro first second same
  have decoded := congrArg decode? same
  rw [octets, octets, decode?_encode, decode?_encode] at decoded
  exact String.toList_inj.mp (Option.some.inj decoded)

end Utf8
end BookLookup
