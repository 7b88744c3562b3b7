import BookLookup.Proofs.Url.Folding
import BookLookup.Proofs.Url.Punycode.Inverse
import BookLookup.Url.Domain

/-!
# Domain names in ASCII

A domain name in ASCII has no character that a host may not hold. A name of
small letters, digits and other characters that stand for themselves is its own
ASCII form.
-/

namespace BookLookup

/-! ## Simple forms -/

namespace Folding

theorem ofChar_of_ascii
    {symbol : Char}
    (ascii : Label.isAscii symbol)
    (small : symbol.toLower = symbol) :
    ofChar symbol = some [symbol] := by
  have below : symbol.toNat < 0x80 := of_decide_eq_true ascii
  simp [ofChar, below, small]

end Folding

namespace Label

/-! ## The characters of a label in ASCII -/

/-- Whether a character may stand in a label in ASCII. -/
def isKept (symbol : Char) : Bool :=
  isAscii symbol && !isForbidden symbol

/-- Letters, digits and the hyphen may. -/
theorem isKept_of_digitValue?
    {symbol : Char}
    (digit : (Punycode.digitValue? symbol).isSome) :
    isKept symbol := by
  have table : ∀ code < 0x80,
      (Punycode.digitValue? (Char.ofNat code)).isSome ->
        isKept (Char.ofNat code) := by
    decide
  have below : symbol.toNat < 0x80 := by
    by_contra beyond
    have outside : ¬(0x61 ≤ symbol.toNat ∧ symbol.toNat ≤ 0x7A) ∧
        ¬(0x41 ≤ symbol.toNat ∧ symbol.toNat ≤ 0x5A) ∧
        ¬(0x30 ≤ symbol.toNat ∧ symbol.toNat ≤ 0x39) := by
      omega
    simp [Punycode.digitValue?, outside] at digit
  rw [← Char.ofNat_toNat symbol] at digit ⊢
  exact table symbol.toNat below digit

/-- So may the characters of the mark. -/
theorem isKept_of_mem_asciiMark
    {symbol : Char}
    (member : symbol ∈ asciiMark) :
    isKept symbol := by
  have mark : asciiMark.all isKept = true := by decide
  exact List.all_eq_true.mp mark symbol member

/-- So may decimal digits. -/
theorem isKept_of_isDigit
    {symbol : Char}
    (digit : symbol.isDigit) :
    isKept symbol := by
  have range : 0x30 ≤ symbol.toNat ∧ symbol.toNat ≤ 0x39 := by
    simp only [Char.isDigit, Bool.and_eq_true, decide_eq_true_eq] at digit
    exact ⟨UInt32.le_iff_toNat_le.mp digit.1, UInt32.le_iff_toNat_le.mp digit.2⟩
  apply isKept_of_digitValue?
  simp only [Punycode.digitValue?, range, and_self, if_true]
  split
  · rfl
  · split <;> rfl

/-- The ASCII form of a well-formed label holds nothing else. -/
theorem isKept_of_mem_encode
    {symbols : List Char}
    {symbol : Char}
    (wellFormed : isWellFormed symbols)
    (member : symbol ∈ Punycode.encode symbols) :
    isKept symbol := by
  rcases Punycode.mem_encode member with
    ⟨isSymbol, ascii⟩ | rfl | ⟨value, below, rfl⟩
  · simp only [isWellFormed, Bool.and_eq_true, Bool.not_eq_true',
      List.any_eq_false] at wellFormed
    have allowed := wellFormed.1.1.2 symbol isSymbol
    simp [isKept, isAscii, ascii, allowed]
  · decide
  · apply isKept_of_digitValue?
    rw [Punycode.digitValue?_digit value below]
    rfl

/-- A label that is read behind its mark holds nothing else. -/
theorem isKept_of_ofMarked?
    {encoded : List Char}
    {label : Label}
    (read : ofMarked? encoded = some label) :
    ∀ symbol ∈ label.ascii, isKept symbol := by
  unfold ofMarked? at read
  split at read
  · split at read
    · rename_i symbols decoded
      split at read
      · rename_i encodable
        cases read
        simp only [isEncodable, Bool.and_eq_true] at encodable
        have wellFormed := encodable.1.1.2
        simp only [isWellFormed, Bool.and_eq_true, Bool.not_eq_true',
          List.any_eq_false] at wellFormed
        intro symbol member
        rcases List.mem_append.mp member with inMark | inEncoded
        · exact isKept_of_mem_asciiMark inMark
        · obtain ⟨ascii, isSymbol | rfl | digit⟩ :=
            Punycode.mem_of_decode? decoded symbol inEncoded
          · simp [isKept, isAscii, ascii, wellFormed.1.1.2 symbol isSymbol]
          · decide
          · exact isKept_of_digitValue? digit
      · cases read
    · cases read
  · cases read

/-- No label in ASCII holds a character that none may hold. -/
theorem isKept_of_ofNormal?
    {text : List Char}
    {label : Label}
    (read : ofNormal? text = some label) :
    ∀ symbol ∈ label.ascii, isKept symbol := by
  unfold ofNormal? at read
  split at read
  · rename_i ascii
    split at read
    · exact isKept_of_ofMarked? read
    · split at read
      · cases read
      · rename_i allowed
        cases read
        intro symbol member
        simp only [Bool.not_eq_true, List.any_eq_false] at allowed
        simp [isKept, List.all_eq_true.mp ascii symbol member,
          allowed symbol member]
  · split at read
    · rename_i accepted
      cases read
      simp only [Bool.and_eq_true] at accepted
      intro symbol member
      rcases List.mem_append.mp member with inMark | inEncoded
      · exact isKept_of_mem_asciiMark inMark
      · exact isKept_of_mem_encode accepted.1 inEncoded
    · cases read

end Label

namespace Domain

/-- No name in ASCII holds a character that no label may hold. -/
theorem isKept_of_ascii?
    {name ascii : List Char}
    (read : ascii? name = some ascii) :
    ∀ symbol ∈ ascii, Label.isKept symbol := by
  obtain ⟨labels, areLabels, joined⟩ := Option.bind_eq_some_iff.mp read
  obtain ⟨normal, -, pieces⟩ := Option.bind_eq_some_iff.mp areLabels
  split at joined
  · cases joined
    intro symbol member
    rcases Split.mem_join member with rfl | ⟨part, isPart, inPart⟩
    · decide
    · obtain ⟨label, isLabel, rfl⟩ := List.mem_map.mp isPart
      obtain ⟨piece, -, isRead⟩ :=
        Elementwise.exists_of_mem_mapM pieces label isLabel
      exact Label.isKept_of_ofNormal? isRead symbol inPart
  · cases joined

/-! ## Plain names -/

/-- A character that stands for itself in every name. -/
def IsPlain (symbol : Char) : Prop :=
  Label.isKept symbol ∧ symbol.toLower = symbol

instance (symbol : Char) : Decidable (IsPlain symbol) :=
  inferInstanceAs (Decidable (_ ∧ _))

/-- No character of a plain label is written to the left. -/
theorem turns_of_isPlain
    {symbol : Char}
    (plain : IsPlain symbol) :
    Direction.turns (Direction.ofChar symbol) = false := by
  have below : symbol.toNat < 0x80 := by
    have kept := plain.1
    simp only [Label.isKept, Label.isAscii, Bool.and_eq_true] at kept
    exact of_decide_eq_true kept.1
  rw [Direction.ofChar]
  simp only [below, if_pos, Direction.ofAscii]
  split
  · rfl
  · split <;> rfl

/-- A plain label without the mark stands for itself. -/
theorem ofNormal?_of_isPlain
    {text : List Char}
    (plain : ∀ symbol ∈ text, IsPlain symbol)
    (unmarked : Label.asciiMark.isPrefixOf text = false) :
    Label.ofNormal? text = some ⟨text, text⟩ := by
  have kept : ∀ symbol ∈ text,
      Label.isAscii symbol ∧ Label.isForbidden symbol = false := by
    intro symbol member
    simpa [Label.isKept] using (plain symbol member).1
  have ascii : text.all Label.isAscii :=
    List.all_eq_true.mpr fun symbol member => (kept symbol member).1
  have allowed : text.any Label.isForbidden = false := by
    rw [List.any_eq_false]
    intro symbol member
    simp [(kept symbol member).2]
  simp [Label.ofNormal?, ascii, unmarked, allowed]

/-- A plain name none of whose labels has the mark is its own ASCII form. -/
theorem ascii?_of_isPlain
    {name : List Char}
    (plain : ∀ symbol ∈ name, IsPlain symbol)
    (unmarked : ∀ piece ∈ Split.pieces '.' name,
      Label.asciiMark.isPrefixOf piece = false) :
    ascii? name = some name := by
  have kept : ∀ symbol ∈ name, Label.isAscii symbol := by
    intro symbol member
    have isKept := (plain symbol member).1
    rw [Label.isKept, Bool.and_eq_true] at isKept
    exact isKept.1
  have simple : Folding.ofText name = some name :=
    Folding.ofText_of_forall fun symbol member =>
      Folding.ofChar_of_ascii (kept symbol member) (plain symbol member).2
  have ascii : name.all Label.isAscii := List.all_eq_true.mpr kept
  have inName : ∀ piece ∈ Split.pieces '.' name, ∀ symbol ∈ piece,
      symbol ∈ name := fun _ isPiece _ => Split.mem_of_mem_pieces isPiece
  have labels : labels? name =
      some ((Split.pieces '.' name).map fun piece => ⟨piece, piece⟩) := by
    simp only [labels?, Label.normal?, simple, Option.map_some, ascii, if_pos,
      Option.bind_some]
    apply Elementwise.mapM_eq_some_map
    intro piece member
    exact ofNormal?_of_isPlain
      (fun symbol inPiece => plain symbol (inName piece member symbol inPiece))
      (unmarked piece member)
  have readable : isReadable
      ((Split.pieces '.' name).map fun piece => ⟨piece, piece⟩) := by
    rw [isReadable, Bool.or_eq_true]
    left
    simp only [Label.directions, List.any_map, Bool.not_eq_true',
      List.any_eq_false, Bool.not_eq_true, Function.comp_apply]
    intro piece member symbol inPiece
    exact turns_of_isPlain (plain symbol (inName piece member symbol inPiece))
  simp [ascii?, labels, readable, Function.comp_def]

end Domain
end BookLookup
