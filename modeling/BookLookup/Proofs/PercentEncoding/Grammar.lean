import BookLookup.Proofs.Url.Segments
import Mathlib.Data.List.Basic

/-!
# The form of encoded texts

An encoded text is made of characters that are safe everywhere, of octets
written as a percent sign and two upper-case digits, and, where slashes are kept,
of slashes. It is read back, texts that follow one another may be encoded one by
one, and the segments between the slashes of a path are those of the path,
encoded.
-/

namespace BookLookup
namespace PercentEncoding

/-- The digits of an octet. -/
def upperDigits : List Char :=
  "0123456789ABCDEF".toList

/-- A character is safe everywhere: an ASCII letter or digit, or one of four
marks. -/
def IsPlain (symbol : Char) : Prop :=
  symbol.isAlphanum ∨ symbol ∈ ['-', '_', '.', '~']

instance : DecidablePred IsPlain := fun symbol =>
  inferInstanceAs (Decidable (symbol.isAlphanum ∨ symbol ∈ ['-', '_', '.', '~']))

/-- The form of texts that are encoded with some use of slashes. -/
inductive IsEncoded (slash : Slash) : List Char -> Prop where
  | nil : IsEncoded slash []
  | plain
      {symbol : Char}
      {rest : List Char}
      (isPlain : IsPlain symbol)
      (isEncoded : IsEncoded slash rest) :
      IsEncoded slash (symbol :: rest)
  | octet
      {high low : Char}
      {rest : List Char}
      (highDigit : high ∈ upperDigits)
      (lowDigit : low ∈ upperDigits)
      (isEncoded : IsEncoded slash rest) :
      IsEncoded slash ('%' :: high :: low :: rest)
  | slash
      {rest : List Char}
      (kept : slash = .kept)
      (isEncoded : IsEncoded slash rest) :
      IsEncoded slash ('/' :: rest)

/-- Encoded texts may follow one another. -/
theorem IsEncoded.append
    {slash : Slash}
    {front back : List Char}
    (isFront : IsEncoded slash front)
    (isBack : IsEncoded slash back) :
    IsEncoded slash (front ++ back) := by
  induction isFront with
  | nil => exact isBack
  | plain isPlain _ inductionHypothesis => exact .plain isPlain inductionHypothesis
  | octet highDigit lowDigit _ inductionHypothesis =>
      exact .octet highDigit lowDigit inductionHypothesis
  | slash kept _ inductionHypothesis => exact .slash kept inductionHypothesis

/-- An octet that stands for itself everywhere is a safe character. -/
theorem isPlain_of_isUnreserved
    {octet : UInt8}
    (unreserved : isUnreserved octet) :
    IsPlain (Char.ofNat octet.toNat) := by
  have every : ∀ code < 256, isUnreserved (UInt8.ofNat code) ->
      IsPlain (Char.ofNat code) := by
    decide +kernel
  refine every octet.toNat octet.toNat_lt ?_
  rwa [UInt8.ofNat_toNat]

/-- An octet is encoded in this form. -/
theorem isEncoded_encodeOctet (slash : Slash) (octet : UInt8) :
    IsEncoded slash (encodeOctet (isKept slash) octet) := by
  have digits : ∀ value < 16, Hex.upperDigit value ∈ upperDigits := by decide
  have below := octet.toNat_lt
  unfold encodeOctet
  split
  · rename_i kept
    simp only [isKept, Bool.or_eq_true, Bool.and_eq_true, beq_iff_eq] at kept
    rcases kept with unreserved | ⟨isKept, rfl⟩
    · exact .plain (isPlain_of_isUnreserved unreserved) .nil
    · exact .slash isKept .nil
  · exact .octet (digits _ (by omega)) (digits _ (by omega)) .nil

/-- A text is encoded in this form. -/
theorem isEncoded_encodeChars (slash : Slash) (text : List Char) :
    IsEncoded slash (encodeChars slash text) := by
  unfold encodeChars encodeWhere
  induction Utf8.encode text with
  | nil => exact .nil
  | cons octet others inductionHypothesis =>
      rw [List.flatMap_cons]
      exact (isEncoded_encodeOctet slash octet).append inductionHypothesis

/-- In a text without slashes there is none to be kept. -/
theorem encodeChars_of_slash_not_mem
    {text : List Char}
    (plain : '/' ∉ text) :
    encodeChars .kept text = encodeChars .encoded text := by
  refine List.flatMap_congr fun octet inOctets => ?_
  have noSlash : octet ≠ 0x2F := by
    rintro rfl
    exact plain (Utf8.mem_of_mem_encode (by decide) inOctets)
  simp [encodeOctet, isKept, noSlash]

theorem splitOn_encodeChars (text : List Char) :
    (encodeChars .kept text).splitOn '/' =
      (text.splitOn '/').map (encodeChars .encoded) := by
  rw [← Split.pieces_eq_splitOn, ← Split.pieces_eq_splitOn, pieces_encodeChars]
  exact List.map_congr_left fun piece isPiece =>
    encodeChars_of_slash_not_mem (Split.separator_not_mem '/' text piece isPiece)

theorem count_slash_encodeChars (text : List Char) :
    (encodeChars .kept text).count '/' = text.count '/' := by
  have lengths := congrArg List.length (pieces_encodeChars text)
  rw [List.length_map, Split.length_pieces, Split.length_pieces] at lengths
  omega

/-- Every text is read back from its encoded form, which is made of safe
characters, of octets as a percent sign and two upper-case digits, and of slashes
only if these are kept. Those that are kept are the slashes of the text: they
stand between the same segments, each of them encoded, and there are as many.
Texts that follow one another are encoded one by one. -/
theorem encoded_text_is_safe_and_read_back (slash : Slash) (text : String) :
    decode? (encode slash text) = some text ∧
    IsEncoded slash (encode slash text).toList ∧
    (encode .kept text).toList.splitOn '/' =
      (text.toList.splitOn '/').map (encodeChars .encoded) ∧
    (encode .kept text).toList.count '/' = text.toList.count '/' ∧
    ∀ other : String,
      encode slash (text ++ other) = encode slash text ++ encode slash other := by
  have written (slash : Slash) :
      (encode slash text).toList = encodeChars slash text.toList := by
    rw [encode, String.toList_ofList]
  refine ⟨decode?_encode slash text, ?_, ?_, ?_, fun other => ?_⟩
  · rw [written]
    exact isEncoded_encodeChars slash text.toList
  · rw [written]
    exact splitOn_encodeChars text.toList
  · rw [written]
    exact count_slash_encodeChars text.toList
  · rw [encode, String.toList_append, encodeChars_append, String.ofList_append]
    rfl

example : encode .kept "a b/é%2F" = "a%20b/%C3%A9%252F" := by decide

end PercentEncoding
end BookLookup
