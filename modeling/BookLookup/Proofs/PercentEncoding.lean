import BookLookup.PercentEncoding
import BookLookup.Proofs.Text.Utf8

/-!
# Percent-encoded texts are read back

Whatever octets stand for themselves, as long as they are ASCII and the percent
sign is not among them, an encoded text stands for the text that was encoded. Of
what it is made follows from the same case distinction, octet by octet.
-/

namespace BookLookup
namespace PercentEncoding

theorem upperDigit_value :
    ∀ value < 16, (Hex.upperDigit value).toNat < 0x80 ∧
      Hex.digitValue? (Hex.upperDigit value) = some value := by
  decide

theorem ofNat_toNat_octet
    {symbol : Char}
    (ascii : symbol.toNat < 0x80) :
    Char.ofNat (UInt8.ofNat symbol.toNat).toNat = symbol := by
  rw [Utf8.toNat_octet (by omega), Char.ofNat_toNat]

/-- The octet that two upper-case digits stand for. -/
theorem octetOfDigits?_upperDigit (octet : UInt8) :
    octetOfDigits?
        (UInt8.ofNat (Hex.upperDigit (octet.toNat / 16)).toNat)
        (UInt8.ofNat (Hex.upperDigit (octet.toNat % 16)).toNat) =
      some octet := by
  have below := octet.toNat_lt
  obtain ⟨highAscii, highValue⟩ := upperDigit_value (octet.toNat / 16) (by omega)
  obtain ⟨lowAscii, lowValue⟩ := upperDigit_value (octet.toNat % 16) (by omega)
  have whole : 16 * (octet.toNat / 16) + octet.toNat % 16 = octet.toNat := by
    omega
  rw [octetOfDigits?, ofNat_toNat_octet highAscii, ofNat_toNat_octet lowAscii,
    highValue, lowValue]
  change some (UInt8.ofNat (16 * (octet.toNat / 16) + octet.toNat % 16)) = _
  rw [whole, UInt8.ofNat_toNat]

/-- Octets that may stand for themselves. -/
def Safe (keeps : UInt8 -> Bool) : Prop :=
  ∀ octet, keeps octet -> octet.toNat < 0x80 ∧ octet ≠ 0x25

/-- The unreserved octets, and the slash, may stand for themselves. -/
theorem safe_isKept (slash : Slash) : Safe (isKept slash) := by
  intro octet kept
  have different : octet.toNat ≠ 0x25 -> octet ≠ 0x25 := by
    rintro differs rfl
    exact differs rfl
  simp only [isKept, isUnreserved, Bool.or_eq_true, Bool.and_eq_true,
    decide_eq_true_eq, beq_iff_eq] at kept
  rcases kept with unreserved | ⟨-, rfl⟩
  · exact ⟨by omega, different (by omega)⟩
  · exact ⟨by decide, by decide⟩

theorem toNat_ofNat_toNat
    {octet : UInt8}
    (ascii : octet.toNat < 0x80) :
    (Char.ofNat octet.toNat).toNat = octet.toNat :=
  Utf8.toNat_ofNat (.inl (by omega))

/-- An octet that is no percent sign stands for itself. -/
theorem decodeOctets_cons_of_ne
    {octet : UInt8}
    (differs : octet ≠ 0x25)
    (rest : List UInt8) :
    decodeOctets (octet :: rest) = octet :: decodeOctets rest := by
  cases rest with
  | nil => simp [decodeOctets, differs]
  | cons second others =>
      cases others with
      | nil => simp [decodeOctets, differs]
      | cons third more => rw [decodeOctets, if_neg differs]

/-- An encoded octet is read back, whatever follows it. -/
theorem decodeOctets_encodeOctet_append
    {keeps : UInt8 -> Bool}
    (safe : Safe keeps)
    (octet : UInt8)
    (rest : List UInt8) :
    decodeOctets (Utf8.encode (encodeOctet keeps octet) ++ rest) =
      octet :: decodeOctets rest := by
  unfold encodeOctet
  split
  · rename_i kept
    obtain ⟨ascii, differs⟩ := safe octet kept
    have code := toNat_ofNat_toNat ascii
    have written : Utf8.encode [Char.ofNat octet.toNat] = [octet] := by
      rw [Utf8.encode_cons, Utf8.encode_nil, List.append_nil,
        Utf8.encodeChar_of_lt (by omega), code, UInt8.ofNat_toNat]
    rw [written, List.singleton_append, decodeOctets_cons_of_ne differs]
  · have below := octet.toNat_lt
    obtain ⟨highAscii, -⟩ := upperDigit_value (octet.toNat / 16) (by omega)
    obtain ⟨lowAscii, -⟩ := upperDigit_value (octet.toNat % 16) (by omega)
    have written : Utf8.encode (escapeOctet octet) =
        [0x25, UInt8.ofNat (Hex.upperDigit (octet.toNat / 16)).toNat,
          UInt8.ofNat (Hex.upperDigit (octet.toNat % 16)).toNat] := by
      simp only [escapeOctet, Hex.upperPair, Utf8.encode_cons,
        Utf8.encode_nil, Utf8.encodeChar_of_lt highAscii,
        Utf8.encodeChar_of_lt lowAscii]
      rfl
    rw [written, List.cons_append, List.cons_append, List.singleton_append,
      decodeOctets, if_pos rfl]
    simp only [octetOfDigits?_upperDigit]

/-- The octets of an encoded text stand for the octets of the text. -/
theorem decodeOctets_encodeWhere
    {keeps : UInt8 -> Bool}
    (safe : Safe keeps)
    (text : List Char) :
    decodeOctets (Utf8.encode (encodeWhere keeps text)) = Utf8.encode text := by
  unfold encodeWhere
  induction Utf8.encode text with
  | nil => rfl
  | cons octet rest inductionHypothesis =>
      rw [List.flatMap_cons, Utf8.encode_append,
        decodeOctets_encodeOctet_append safe, inductionHypothesis]

theorem decodeOctets_octets_encode
    (slash : Slash)
    (text : String) :
    decodeOctets (Utf8.octets (encode slash text)) = Utf8.octets text := by
  rw [Utf8.octets, encode, String.toList_ofList]
  exact decodeOctets_encodeWhere (safe_isKept slash) text.toList

/-- The text that a percent-encoded text stands for, if there is one. -/
def decode? (text : String) : Option String :=
  (Utf8.decode? (decodeOctets (Utf8.octets text))).map String.ofList

@[simp] theorem decode?_encode
    (slash : Slash)
    (text : String) :
    decode? (encode slash text) = some text := by
  rw [decode?, decodeOctets_octets_encode, Utf8.octets, Utf8.decode?_encode,
    Option.map_some, String.ofList_toList]

/-! ## The symbols of an encoded text -/

/-- An encoded text is made of percent signs, digits and characters that stand
for themselves. -/
theorem mem_encodeWhere
    {keeps : UInt8 -> Bool}
    {text : List Char}
    {symbol : Char}
    (member : symbol ∈ encodeWhere keeps text) :
    symbol = '%' ∨
      (∃ value < 16, symbol = Hex.upperDigit value) ∨
      ∃ octet, keeps octet ∧ symbol = Char.ofNat octet.toNat := by
  obtain ⟨octet, -, written⟩ := List.mem_flatMap.mp member
  have below := octet.toNat_lt
  unfold encodeOctet at written
  split at written
  · rename_i kept
    exact .inr (.inr ⟨octet, kept, List.mem_singleton.mp written⟩)
  · simp only [escapeOctet, Hex.upperPair, List.mem_cons, List.not_mem_nil,
      or_false] at written
    rcases written with rfl | rfl | rfl
    · exact .inl rfl
    · exact .inr (.inl ⟨_, by omega, rfl⟩)
    · exact .inr (.inl ⟨_, by omega, rfl⟩)

/-- Characters whose octets stand for themselves are written as they are. -/
theorem encodeWhere_of_kept
    {keeps : UInt8 -> Bool}
    {text : List Char}
    (plain : ∀ symbol ∈ text,
      symbol.toNat < 0x80 ∧ keeps (UInt8.ofNat symbol.toNat)) :
    encodeWhere keeps text = text := by
  induction text with
  | nil => rfl
  | cons symbol rest inductionHypothesis =>
      obtain ⟨⟨ascii, kept⟩, restPlain⟩ := List.forall_mem_cons.mp plain
      have restWritten := inductionHypothesis restPlain
      have octet : encodeOctet keeps (UInt8.ofNat symbol.toNat) = [symbol] := by
        rw [encodeOctet, if_pos kept, ofNat_toNat_octet ascii]
      rw [encodeWhere] at restWritten ⊢
      rw [Utf8.encode_cons, Utf8.encodeChar_of_lt ascii,
        List.singleton_append, List.flatMap_cons, octet, restWritten,
        List.singleton_append]

/-- A text of unreserved characters is written as it is. -/
theorem encode_of_unreserved
    (slash : Slash)
    {text : String}
    (plain : ∀ symbol ∈ text.toList,
      symbol.toNat < 0x80 ∧ isUnreserved (UInt8.ofNat symbol.toNat)) :
    encode slash text = text := by
  have kept : ∀ symbol ∈ text.toList, symbol.toNat < 0x80 ∧
      isKept slash (UInt8.ofNat symbol.toNat) := by
    intro symbol member
    obtain ⟨ascii, unreserved⟩ := plain symbol member
    exact ⟨ascii, by simp [isKept, unreserved]⟩
  rw [encode, encodeChars, encodeWhere_of_kept kept, String.ofList_toList]

/-- A character that is neither unreserved nor a percent sign does not stand in
a text whose slashes are encoded. -/
theorem not_mem_encode
    {symbol : Char}
    (ascii : symbol.toNat < 0x80)
    (reserved : isUnreserved (UInt8.ofNat symbol.toNat) = false)
    (differs : symbol ≠ '%')
    (text : String) :
    symbol ∉ (encode .encoded text).toList := by
  intro member
  rw [encode, String.toList_ofList] at member
  have digitUnreserved : ∀ value < 16,
      isUnreserved (UInt8.ofNat (Hex.upperDigit value).toNat) = true := by
    decide
  rcases mem_encodeWhere member with
    rfl | ⟨value, below, rfl⟩ | ⟨octet, kept, rfl⟩
  · exact differs rfl
  · simp [digitUnreserved value below] at reserved
  · have octetAscii := (safe_isKept .encoded octet kept).1
    rw [toNat_ofNat_toNat octetAscii, UInt8.ofNat_toNat] at reserved
    simp [isKept, reserved] at kept

/-- Whether a character may stand in an encoded text. -/
def isWritten (slash : Slash) (symbol : Char) : Bool :=
  symbol.toNat < 0x80 &&
    (symbol == '%' || isKept slash (UInt8.ofNat symbol.toNat))

/-- No other characters stand there. -/
theorem isWritten_of_mem_encode
    {slash : Slash}
    {text : String}
    {symbol : Char}
    (member : symbol ∈ (encode slash text).toList) :
    isWritten slash symbol := by
  rw [encode, String.toList_ofList] at member
  have digits : ∀ value < 16, isWritten slash (Hex.upperDigit value) := by
    cases slash <;> decide
  rcases mem_encodeWhere member with
    rfl | ⟨value, below, rfl⟩ | ⟨octet, kept, rfl⟩
  · simp [isWritten]
  · exact digits value below
  · have ascii := (safe_isKept slash octet kept).1
    rw [isWritten, toNat_ofNat_toNat ascii, UInt8.ofNat_toNat, kept]
    simp [ascii]

/-- What holds of all such characters, found by going through ASCII. -/
@[elab_as_elim]
theorem of_isWritten
    {slash : Slash}
    {motive : Char -> Prop}
    {symbol : Char}
    (written : isWritten slash symbol)
    (every : ∀ code < 0x80, isWritten slash (Char.ofNat code) ->
      motive (Char.ofNat code)) :
    motive symbol := by
  have ascii : symbol.toNat < 0x80 := by
    rw [isWritten, Bool.and_eq_true] at written
    exact of_decide_eq_true written.1
  rw [← Char.ofNat_toNat symbol] at written ⊢
  exact every symbol.toNat ascii written

/-- The characters of an encoded text are ASCII. -/
theorem ascii_of_mem_encode
    {slash : Slash}
    {text : String}
    {symbol : Char}
    (member : symbol ∈ (encode slash text).toList) :
    symbol.toNat < 0x80 := by
  have written := isWritten_of_mem_encode member
  rw [isWritten, Bool.and_eq_true] at written
  exact of_decide_eq_true written.1

/-- An octet that is neither unreserved nor a percent sign does not stand in the
octets of a text whose slashes are encoded. -/
theorem octet_not_mem_encode
    {octet : UInt8}
    (reserved : isUnreserved octet = false)
    (differs : octet ≠ 0x25)
    (text : String) :
    octet ∉ Utf8.octets (encode .encoded text) := by
  intro member
  obtain ⟨symbol, inText, written⟩ := List.mem_flatMap.mp member
  have symbolAscii := ascii_of_mem_encode inText
  rw [Utf8.encodeChar_of_lt symbolAscii, List.mem_singleton] at written
  refine not_mem_encode symbolAscii (written ▸ reserved) ?_ text inText
  rintro rfl
  exact differs written

end PercentEncoding
end BookLookup
