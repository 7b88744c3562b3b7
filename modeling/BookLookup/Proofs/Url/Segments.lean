import BookLookup.Proofs.PercentEncoding
import BookLookup.Proofs.Text.Split
import BookLookup.Url.Path

/-!
# Segments of a path

A path is kept exactly if none of its segments is made of points. A segment of
an encoded path is made of points only if it is so before it is encoded.
-/

namespace BookLookup

namespace PercentEncoding

/-- A text is told by its encoded form. -/
theorem encodeChars_injective (slash : Slash) :
    Function.Injective (encodeChars slash) := by
  intro first second same
  have octets := congrArg (fun text => decodeOctets (Utf8.encode text)) same
  simp only [encodeChars, decodeOctets_encodeWhere (safe_isKept slash)] at octets
  have texts := congrArg Utf8.decode? octets
  rw [Utf8.decode?_encode, Utf8.decode?_encode] at texts
  exact Option.some.inj texts

/-- No slash is made by encoding. -/
theorem slash_not_mem_encodeChars
    {text : List Char}
    (plain : '/' ∉ text) :
    '/' ∉ encodeChars .kept text := by
  have digits : ∀ value < 16, Hex.upperDigit value ≠ '/' := by decide
  intro member
  obtain ⟨octet, inOctets, written⟩ := List.mem_flatMap.mp member
  have below := octet.toNat_lt
  unfold encodeOctet at written
  split at written
  · rename_i kept
    have ascii := (safe_isKept .kept octet kept).1
    rw [List.mem_singleton] at written
    rw [written] at plain
    exact plain (Utf8.mem_of_mem_encode ascii inOctets)
  · simp only [escapeOctet, Hex.upperPair, List.mem_cons, List.not_mem_nil,
      or_false] at written
    rcases written with isPercent | isHigh | isLow
    · cases isPercent
    · exact digits _ (by omega) isHigh.symm
    · exact digits _ (by omega) isLow.symm

/-- Encoding keeps the segments of a path apart. -/
theorem pieces_encodeChars (text : List Char) :
    Split.pieces '/' (encodeChars .kept text) =
      (Split.pieces '/' text).map (encodeChars .kept) := by
  have joined (parts : List (List Char)) :
      encodeChars .kept (Split.join '/' parts) =
        Split.join '/' (parts.map (encodeChars .kept)) := by
    induction parts with
    | nil => rfl
    | cons part others inductionHypothesis =>
        cases others with
        | nil => rfl
        | cons second more =>
            have slash : encodeChars .kept ['/'] = ['/'] := by decide
            rw [Split.join_cons_cons, List.append_cons, encodeChars_append,
              encodeChars_append, slash, inductionHypothesis]
            simp
  rw [← Split.join_pieces '/' text, joined, Split.join_pieces]
  apply Split.pieces_join (by simp [Split.pieces_ne_nil])
  rw [List.forall_mem_map]
  intro piece isPiece
  exact slash_not_mem_encodeChars
    (Split.separator_not_mem '/' text piece isPiece)

end PercentEncoding

namespace Url

/-! ## Segments of points -/

/-- Whether a segment stands for a place, and not for a part of a path. -/
def isPoints (segment : List Char) : Bool :=
  isHere segment || isAbove segment

/-- A character other than the percent sign stands for itself. -/
theorem plainPoints_cons_of_ne
    {symbol : Char}
    (differs : symbol ≠ '%')
    (rest : List Char) :
    plainPoints (symbol :: rest) = symbol :: plainPoints rest := by
  rw [plainPoints]
  · rintro other rfl
    exact absurd rfl differs
  · rintro other rfl
    exact absurd rfl differs

/-- The digits of an octet that is encoded are not those of a point. -/
theorem upperDigits_ne_point
    {slash : PercentEncoding.Slash}
    {octet : UInt8}
    (encoded : PercentEncoding.isKept slash octet = false)
    (high : Hex.upperDigit (octet.toNat / 16) = '2') :
    Hex.upperDigit (octet.toNat % 16) ≠ 'E' ∧
      Hex.upperDigit (octet.toNat % 16) ≠ 'e' := by
  have digits : ∀ value < 16, (Hex.upperDigit value = '2' -> value = 2) ∧
      (Hex.upperDigit value = 'E' -> value = 14) ∧
      Hex.upperDigit value ≠ 'e' := by
    decide
  have below := octet.toNat_lt
  have isTwo := (digits (octet.toNat / 16) (by omega)).1 high
  obtain ⟨-, isFourteen, notSmall⟩ := digits (octet.toNat % 16) (by omega)
  refine ⟨?_, notSmall⟩
  intro low
  have fourteen := isFourteen low
  have isPoint : octet = 0x2E := UInt8.toNat_inj.mp (by
    change octet.toNat = 46
    omega)
  have kept : PercentEncoding.isKept slash 0x2E = true := by
    cases slash <;> decide
  rw [isPoint, kept] at encoded
  cases encoded

/-- An encoded octet is no encoded point. -/
theorem plainPoints_encodeOctet_append
    (slash : PercentEncoding.Slash)
    (octet : UInt8)
    (rest : List Char) :
    plainPoints
        (PercentEncoding.encodeOctet (PercentEncoding.isKept slash) octet ++
          rest) =
      PercentEncoding.encodeOctet (PercentEncoding.isKept slash) octet ++
        plainPoints rest := by
  have below := octet.toNat_lt
  have digits : ∀ value < 16, Hex.upperDigit value ≠ '%' := by decide
  unfold PercentEncoding.encodeOctet
  split
  · rename_i kept
    obtain ⟨ascii, differs⟩ := PercentEncoding.safe_isKept slash octet kept
    have noPercent : Char.ofNat octet.toNat ≠ '%' := by
      intro same
      have code := PercentEncoding.toNat_ofNat_toNat ascii
      rw [same] at code
      exact differs (UInt8.toNat_inj.mp code.symm)
    rw [List.singleton_append, plainPoints_cons_of_ne noPercent,
      List.singleton_append]
  · rename_i encoded
    have noPoint := upperDigits_ne_point (Bool.not_eq_true _ ▸ encoded)
    have high := digits (octet.toNat / 16) (by omega)
    have low := digits (octet.toNat % 16) (by omega)
    rw [PercentEncoding.escapeOctet, Hex.upperPair, List.cons_append,
      List.cons_append, List.cons_append, List.nil_append, plainPoints,
      plainPoints_cons_of_ne high, plainPoints_cons_of_ne low]
    · rfl
    · intro other _ same
      obtain ⟨isTwo, isLetter, -⟩ := by simpa using same
      exact (noPoint isTwo).2 isLetter
    · intro other _ same
      obtain ⟨isTwo, isLetter, -⟩ := by simpa using same
      exact (noPoint isTwo).1 isLetter

/-- An encoded segment has no encoded points. -/
theorem plainPoints_encodeChars
    (slash : PercentEncoding.Slash)
    (text : List Char) :
    plainPoints (PercentEncoding.encodeChars slash text) =
      PercentEncoding.encodeChars slash text := by
  rw [PercentEncoding.encodeChars, PercentEncoding.encodeWhere]
  induction Utf8.encode text with
  | nil => rfl
  | cons octet rest inductionHypothesis =>
      rw [List.flatMap_cons, plainPoints_encodeOctet_append,
        inductionHypothesis]

/-- An encoded segment is made of points exactly if the segment is. -/
theorem isPoints_encodeChars
    (slash : PercentEncoding.Slash)
    (text : List Char) :
    isPoints (PercentEncoding.encodeChars slash text) =
      decide (text = ['.'] ∨ text = ['.', '.']) := by
  have here : PercentEncoding.encodeChars slash ['.'] = ['.'] := by
    cases slash <;> decide
  have above : PercentEncoding.encodeChars slash ['.', '.'] = ['.', '.'] := by
    cases slash <;> decide
  have injective := PercentEncoding.encodeChars_injective slash
  have isHere : PercentEncoding.encodeChars slash text = ['.'] ↔
      text = ['.'] := by
    rw [← here, injective.eq_iff, here]
  have isAbove : PercentEncoding.encodeChars slash text = ['.', '.'] ↔
      text = ['.', '.'] := by
    rw [← above, injective.eq_iff, above]
  rw [Bool.eq_iff_iff]
  simp only [isPoints, Url.isHere, Url.isAbove, plainPoints_encodeChars,
    Bool.or_eq_true, beq_iff_eq, decide_eq_true_eq, isHere, isAbove]

/-! ## Resolved segments -/

/-- What is left of resolved segments: those before them, those that are not
points, and empty ones. -/
theorem mem_resolve
    {before segments : List (List Char)}
    {segment : List Char}
    (member : segment ∈ resolve before segments) :
    segment ∈ before ∨ segment = [] ∨
      (segment ∈ segments ∧ isPoints segment = false) := by
  fun_induction resolve before segments with
  | case1 before => exact .inl member
  | case2 before last above =>
      rcases List.mem_append.mp member with inFront | isEmpty
      · exact .inl (List.dropLast_subset _ inFront)
      · exact .inr (.inl (List.mem_singleton.mp isEmpty))
  | case3 before last notAbove here =>
      rcases List.mem_append.mp member with inFront | isEmpty
      · exact .inl inFront
      · exact .inr (.inl (List.mem_singleton.mp isEmpty))
  | case4 before last notAbove notHere =>
      rcases List.mem_append.mp member with inFront | isLast
      · exact .inl inFront
      · rw [List.mem_singleton.mp isLast]
        exact .inr (.inr ⟨List.mem_singleton_self last,
          by simp [isPoints, notAbove, notHere]⟩)
  | case5 before next others nonempty above inductionHypothesis =>
      rcases inductionHypothesis member with inFront | isEmpty | inOthers
      · exact .inl (List.dropLast_subset _ inFront)
      · exact .inr (.inl isEmpty)
      · exact .inr (.inr ⟨List.mem_cons_of_mem _ inOthers.1, inOthers.2⟩)
  | case6 before next others nonempty notAbove here inductionHypothesis =>
      rcases inductionHypothesis member with inFront | isEmpty | inOthers
      · exact .inl inFront
      · exact .inr (.inl isEmpty)
      · exact .inr (.inr ⟨List.mem_cons_of_mem _ inOthers.1, inOthers.2⟩)
  | case7 before next others nonempty notAbove notHere inductionHypothesis =>
      rcases inductionHypothesis member with inFront | isEmpty | inOthers
      · rcases List.mem_append.mp inFront with inBefore | isNext
        · exact .inl inBefore
        · rw [List.mem_singleton.mp isNext]
          exact .inr (.inr ⟨List.mem_cons_self,
            by simp [isPoints, notAbove, notHere]⟩)
      · exact .inr (.inl isEmpty)
      · exact .inr (.inr ⟨List.mem_cons_of_mem _ inOthers.1, inOthers.2⟩)

/-- Segments that are not points are kept. -/
theorem resolve_of_forall
    (before : List (List Char))
    {segments : List (List Char)}
    (plain : ∀ segment ∈ segments, isPoints segment = false) :
    resolve before segments = before ++ segments := by
  induction segments generalizing before with
  | nil => simp [resolve]
  | cons segment others inductionHypothesis =>
      obtain ⟨notPoints, behind⟩ := List.forall_mem_cons.mp plain
      obtain ⟨notHere, notAbove⟩ := Bool.or_eq_false_iff.mp notPoints
      cases others with
      | nil => simp [resolve, notHere, notAbove]
      | cons second more =>
          rw [resolve, notHere, notAbove]
          · simpa using inductionHypothesis (before ++ [segment]) behind
          · simp

/-- Resolving leaves a segment. -/
theorem resolve_ne_nil
    {before segments : List (List Char)}
    (nonempty : segments ≠ []) :
    resolve before segments ≠ [] := by
  fun_induction resolve before segments with
  | case1 before => exact absurd rfl nonempty
  | case2 | case3 | case4 => simp
  | case5 before segment others more above inductionHypothesis =>
      exact inductionHypothesis more
  | case6 before segment others more notAbove here inductionHypothesis =>
      exact inductionHypothesis more
  | case7 before segment others more notAbove notHere inductionHypothesis =>
      exact inductionHypothesis more

end Url
end BookLookup
