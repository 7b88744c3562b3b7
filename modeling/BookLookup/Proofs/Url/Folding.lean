import BookLookup.Proofs.Elementwise
import BookLookup.Proofs.Text.Composed
import BookLookup.Url.Label

/-!
# Simple forms are simple

The characters of a simple form stand for themselves, and so do those of its
composed form. The characters that do not are a set of code points; that the
simple forms avoid it, and that a composite is in it exactly if one of its parts
is, is computed from the tables.
-/

namespace BookLookup
namespace Folding

/-! ## The characters with other simple forms -/

/-- The code points of a run. -/
def Shift.codes (shift : Shift) : List Nat :=
  (List.range' shift.first (shift.last + 1 - shift.first)).filter fun code =>
    (code - shift.first) % shift.step = 0

/-- The code points whose simple forms are spelled out. -/
def spelledRanges : List (Nat × Nat) :=
  spellings.map fun spelling => (spelling.first, spelling.last)

/-- The code points that may stand in a name although they do not print. -/
def allowedRanges : List (Nat × Nat) :=
  (0, 0x7F) :: (0x200C, 0x200D) :: laterRanges

/-- The code points of the characters that do not stand for themselves. -/
def moved : Nat :=
  CodeSet.ofRange 0x41 0x5A ||| (CodeSet.ofRanges droppedRanges |||
    (CodeSet.ofList (shifts.flatMap Shift.codes) |||
      (CodeSet.ofRanges spelledRanges ||| (CodeSet.ofRanges refusedRanges |||
        CodeSet.without (CodeSet.ofRanges Unprintable.ranges)
          (CodeSet.ofRanges allowedRanges)))))

/-- Where the set may be cut off for a character of the tables. -/
def tableBounds : List Nat := [0x800, 0x3000, 0x12000, 0x30000]

/-- Whether a character does not stand for itself. -/
def isMoved (symbol : Char) : Bool :=
  CodeSet.has moved tableBounds symbol.toNat

/-- A run has a simple form for its code points. -/
theorem Shift.isSome_simple?_iff {shift : Shift} {code : Nat} :
    (shift.simple? code).isSome ↔ code ∈ shift.codes := by
  rw [Shift.simple?, Shift.codes, List.mem_filter, List.mem_range'_1,
    decide_eq_true_eq]
  split
  · rename_i inside
    simp only [Option.isSome_some, true_iff]
    omega
  · rename_i outside
    simp only [Option.isSome_none, Bool.false_eq_true, false_iff]
    omega

/-- The runs have simple forms for their code points. -/
theorem findSome?_shifts_eq_none_iff {code : Nat} :
    shifts.findSome? (·.simple? code) = none ↔
      code ∉ shifts.flatMap Shift.codes := by
  rw [List.findSome?_eq_none_iff, List.mem_flatMap, not_exists]
  apply forall_congr'
  intro shift
  rw [not_and, ← Shift.isSome_simple?_iff, Bool.not_eq_true,
    Option.isSome_eq_false_iff, Option.isNone_iff_eq_none]

/-! ## The forms that are spelled out -/

/-- A row of spelled-out forms whose text is taken apart. -/
structure Spelled where
  /-- The first code point. -/
  first : Nat
  /-- The last code point. -/
  last : Nat
  /-- The characters of the forms, with a space between two forms. -/
  letters : List Char

/-- The row with its text taken apart. -/
def Spelling.spelled (row : Spelling) : Spelled :=
  ⟨row.first, row.last, row.forms.toList⟩

/-- What some rows spell out. -/
def Spells (rows : List Spelling) (found : List Spelled) : Prop :=
  rows.map Spelling.spelled = found

/-- What a row spells out comes first. -/
theorem Spells.cons
    {first last : Nat}
    {forms : String}
    {letters : List Char}
    {rest : List Spelling}
    {others : List Spelled}
    (isForms : String.ofList letters = forms)
    (spells : Spells rest others) :
    Spells (⟨first, last, forms⟩ :: rest) (⟨first, last, letters⟩ :: others) := by
  subst isForms
  rw [Spells, List.map_cons, spells, Spelling.spelled, String.toList_ofList]

theorem Spells.nil : Spells [] [] := rfl

set_option maxRecDepth 20000 in
/-- What the table spells out, its texts taken apart into their characters. -/
def spelledTable : { found : List Spelled // Spells spellings found } := by
  apply Subtype.mk
  unfold spellings
  dsimp only
  repeat apply Spells.cons rfl
  exact Spells.nil

/-- Whether there is a form for each code point, and all forms are of
characters that stand for themselves. -/
def isSound (row : Spelled) : Bool :=
  row.letters.countP (·.toNat == 0x20) == row.last - row.first &&
    row.letters.all fun symbol => symbol.toNat == 0x20 || !isMoved symbol

set_option maxRecDepth 20000 in
theorem isSound_spelled : spelledTable.val.all isSound = true := by
  decide +kernel

/-- A row of spelled-out forms is sound. -/
theorem sound_of_mem_spellings
    {row : Spelling}
    (isRow : row ∈ spellings) :
    row.forms.toList.count ' ' = row.last - row.first ∧
      ∀ symbol ∈ row.forms.toList, symbol ≠ ' ' -> isMoved symbol = false := by
  have member : row.spelled ∈ spelledTable.val := by
    rw [← spelledTable.property]
    exact List.mem_map_of_mem isRow
  have isSpace (symbol : Char) : symbol.toNat = 0x20 ↔ symbol = ' ' :=
    @Char.toNat_inj symbol ' '
  have sound := List.all_eq_true.mp isSound_spelled _ member
  simp only [isSound, Spelling.spelled, Bool.and_eq_true, beq_iff_eq,
    List.all_eq_true, Bool.or_eq_true, Bool.not_eq_true', isSpace] at sound
  refine ⟨?_, fun symbol inForms other =>
    (sound.2 symbol inForms).resolve_left other⟩
  rw [← sound.1, List.count]
  apply List.countP_congr
  intro symbol _
  rw [beq_iff_eq, beq_iff_eq, isSpace]

/-- A row has a form for its code points. -/
theorem Spelling.isSome_simple?_iff
    {row : Spelling}
    (isRow : row ∈ spellings)
    {code : Nat} :
    (row.simple? code).isSome ↔ row.first ≤ code ∧ code ≤ row.last := by
  have count := (sound_of_mem_spellings isRow).1
  rw [Spelling.simple?]
  split
  · rename_i inside
    simp only [inside, and_self, iff_true, isSome_getElem?,
      Split.length_pieces, count]
    omega
  · rename_i outside
    simp [outside]

/-- The rows have forms for their code points. -/
theorem findSome?_spellings_eq_none_iff {code : Nat} :
    spellings.findSome? (·.simple? code) = none ↔
      Ranges.contains spelledRanges code = false := by
  rw [List.findSome?_eq_none_iff, Ranges.contains, spelledRanges, List.any_map,
    List.any_eq_false]
  apply forall₂_congr
  intro row isRow
  have isSome : (row.simple? code).isSome ↔ _ :=
    Spelling.isSome_simple?_iff isRow
  rw [← Option.not_isSome_iff_eq_none, isSome]
  simp

/-- A form that is spelled out is made of characters that stand for
themselves. -/
theorem not_isMoved_of_spelled
    {code : Nat}
    {simple : List Char}
    (found : spellings.findSome? (·.simple? code) = some simple) :
    ∀ symbol ∈ simple, isMoved symbol = false := by
  obtain ⟨row, isRow, spelledOut⟩ := List.exists_of_findSome?_eq_some found
  rw [Spelling.simple?] at spelledOut
  split at spelledOut
  · have isPiece := List.mem_of_getElem? spelledOut
    intro symbol member
    apply (sound_of_mem_spellings isRow).2 symbol
      (Split.mem_of_mem_pieces isPiece member)
    rintro rfl
    exact Split.separator_not_mem ' ' row.forms.toList simple isPiece member
  · cases spelledOut

/-! ## Simple forms -/

/-- Whether the code points of a run have simple forms that stand for
themselves. -/
def Shift.isSound (shift : Shift) : Bool :=
  shift.codes.all fun code =>
    !isMoved (Char.ofNat (shift.target + (code - shift.first)))

theorem isSound_shifts : shifts.all Shift.isSound = true := by
  decide +kernel

/-- The simple form of a code point in a run stands for itself. -/
theorem not_isMoved_of_shifted
    {code : Nat}
    {simple : Char}
    (found : shifts.findSome? (·.simple? code) = some simple) :
    isMoved simple = false := by
  obtain ⟨shift, isShift, shifted⟩ := List.exists_of_findSome?_eq_some found
  have isCode : code ∈ shift.codes := by
    rw [← Shift.isSome_simple?_iff, shifted]
    rfl
  have sound := List.all_eq_true.mp
    (List.all_eq_true.mp isSound_shifts shift isShift) code isCode
  rw [Shift.simple?] at shifted
  split at shifted
  · rw [← Option.some.inj shifted]
    simpa using sound
  · cases shifted

/-- The small form of an ASCII character stands for itself, and no other form
of it does. -/
theorem isMoved_of_ascii
    {symbol : Char}
    (ascii : symbol.toNat < 0x80) :
    isMoved symbol.toLower = false ∧
      (isMoved symbol = false -> symbol.toLower = symbol) := by
  have table : ∀ code < 0x80, isMoved (Char.ofNat code).toLower = false ∧
      (isMoved (Char.ofNat code) = false ->
        (Char.ofNat code).toLower = Char.ofNat code) := by
    decide +kernel
  simpa using table symbol.toNat ascii

theorem not_isMoved_of_small
    {symbol : Char}
    (ascii : Label.isAscii symbol)
    (small : symbol.toLower = symbol) :
    isMoved symbol = false := by
  rw [← small]
  exact (isMoved_of_ascii (of_decide_eq_true ascii)).1

/-- Beyond ASCII, the characters that stand for themselves are those that no
rule is about. -/
theorem isMoved_eq_false_iff
    {symbol : Char}
    (beyond : 0x80 ≤ symbol.toNat) :
    isMoved symbol = false ↔
      isDropped symbol = false ∧
        shifts.findSome? (·.simple? symbol.toNat) = none ∧
        spellings.findSome? (·.simple? symbol.toNat) = none ∧
        isRefused symbol = false := by
  have noCapital : ¬(0x41 ≤ symbol.toNat ∧ symbol.toNat ≤ 0x5A) := by
    omega
  have allowed : Ranges.contains allowedRanges symbol.toNat =
      (symbol.toNat == 0x200C || symbol.toNat == 0x200D ||
        Ranges.contains laterRanges symbol.toNat) := by
    have ascii : (0 ≤ symbol.toNat && symbol.toNat ≤ 0x7F) = false := by
      simp only [Bool.and_eq_false_iff, decide_eq_false_iff_not]
      omega
    have joiners : (0x200C ≤ symbol.toNat && symbol.toNat ≤ 0x200D) =
        (symbol.toNat == 0x200C || symbol.toNat == 0x200D) := by
      rw [Bool.eq_iff_iff]
      simp only [Bool.or_eq_true, Bool.and_eq_true, decide_eq_true_eq,
        beq_iff_eq]
      omega
    rw [allowedRanges, Ranges.contains, List.any_cons, List.any_cons, ascii,
      joiners, Bool.false_or]
    rfl
  have refused : isRefused symbol = false ↔
      Ranges.contains refusedRanges symbol.toNat = false ∧
        (Unprintable.isHidden symbol &&
          !Ranges.contains allowedRanges symbol.toNat) = false := by
    rw [allowed, isRefused, Bool.or_eq_false_iff]
    simp only [Bool.not_or, bne, Bool.and_assoc, Bool.and_comm,
      Bool.and_left_comm]
  rw [refused, findSome?_shifts_eq_none_iff, findSome?_spellings_eq_none_iff]
  simp only [isMoved, CodeSet.has_eq_testBit, moved, Nat.testBit_or,
    CodeSet.testBit_without, CodeSet.testBit_ofRange, CodeSet.testBit_ofRanges,
    CodeSet.testBit_ofList, Bool.or_eq_false_iff, decide_eq_false_iff_not, isDropped,
    Unprintable.isHidden, noCapital, not_false_eq_true, true_and]

/-- A character that no rule is about stands for itself. -/
theorem ofChar_of_not_isMoved
    {symbol : Char}
    (settled : isMoved symbol = false) :
    ofChar symbol = some [symbol] := by
  unfold ofChar
  simp only []
  split
  · rename_i ascii
    rw [(isMoved_of_ascii ascii).2 settled]
  · rename_i beyond
    obtain ⟨kept, notShifted, notSpelled, allowed⟩ :=
      (isMoved_eq_false_iff (Nat.not_lt.mp beyond)).mp settled
    rw [kept, notShifted, notSpelled, allowed]
    rfl

/-- The characters of a simple form stand for themselves. -/
theorem not_isMoved_of_ofChar
    {symbol : Char}
    {simple : List Char}
    (isSimple : ofChar symbol = some simple) :
    ∀ part ∈ simple, isMoved part = false := by
  unfold ofChar at isSimple
  simp only [] at isSimple
  split at isSimple
  · rename_i ascii
    rw [← Option.some.inj isSimple, List.forall_mem_singleton]
    exact (isMoved_of_ascii ascii).1
  · rename_i beyond
    split at isSimple
    · simp [← Option.some.inj isSimple]
    · rename_i kept
      split at isSimple
      · rename_i form shifted
        rw [← Option.some.inj isSimple, List.forall_mem_singleton]
        exact not_isMoved_of_shifted shifted
      · rename_i notShifted
        split at isSimple
        · rename_i forms spelledOut
          rw [← Option.some.inj isSimple]
          exact not_isMoved_of_spelled spelledOut
        · rename_i notSpelled
          split at isSimple
          · cases isSimple
          · rename_i allowed
            rw [← Option.some.inj isSimple, List.forall_mem_singleton,
              isMoved_eq_false_iff (Nat.not_lt.mp beyond)]
            exact ⟨Bool.not_eq_true _ ▸ kept, notShifted, notSpelled,
              Bool.not_eq_true _ ▸ allowed⟩

/-- So do the characters of the simple form of a text. -/
theorem not_isMoved_of_ofText
    {text simple : List Char}
    (isSimple : ofText text = some simple) :
    ∀ symbol ∈ simple, isMoved symbol = false := by
  obtain ⟨forms, areForms, rfl⟩ := Option.map_eq_some_iff.mp isSimple
  intro symbol member
  obtain ⟨form, isForm, inForm⟩ := List.mem_flatten.mp member
  obtain ⟨before, -, isSimple⟩ :=
    Elementwise.exists_of_mem_mapM areForms form isForm
  exact not_isMoved_of_ofChar isSimple symbol inForm

theorem ofText_of_forall
    {text : List Char}
    (simple : ∀ symbol ∈ text, ofChar symbol = some [symbol]) :
    ofText text = some text := by
  rw [ofText, Elementwise.mapM_eq_some_map simple, Option.map_some,
    ← List.flatMap_def, List.flatMap_singleton']

theorem ofText_of_not_isMoved
    {text : List Char}
    (settled : ∀ symbol ∈ text, isMoved symbol = false) :
    ofText text = some text :=
  ofText_of_forall fun symbol member =>
    ofChar_of_not_isMoved (settled symbol member)

/-! ## Composed forms -/

/-- Whether a composite stands for itself exactly if its parts do. -/
def isSettled (entry : Composite.Entry) : Bool :=
  isMoved entry.composite == (isMoved entry.first || isMoved entry.second)

set_option maxRecDepth 20000 in
theorem isSettled_entries : Composite.entries.all isSettled = true := by
  have lists : Composite.entries = Composite.table.val :=
    Composite.table.property
  rw [lists]
  decide +kernel

/-- Korean letters and syllables stand for themselves. -/
theorem not_isMoved_of_korean
    {symbol : Char}
    (korean : Composite.isSyllable symbol ∨ Composite.isKoreanLetter symbol) :
    isMoved symbol = false := by
  have apart : moved &&& CodeSet.ofRanges [(0xAC00, 0xD7A3), (0x1100, 0x1112),
      (0x1161, 0x1175), (0x11A8, 0x11C2)] = 0 := by
    decide +kernel
  have bit := congrArg (Nat.testBit · symbol.toNat) apart
  simp only [Nat.testBit_and, CodeSet.testBit_ofRanges, Nat.zero_testBit,
    Bool.and_eq_false_iff] at bit
  rw [isMoved, CodeSet.has_eq_testBit]
  apply bit.resolve_right
  simp only [Composite.isSyllable, Composite.isKoreanLetter, Bool.and_eq_true,
    Bool.or_eq_true, decide_eq_true_eq] at korean
  simp only [Ranges.contains, List.any_cons, List.any_nil, Bool.or_false,
    Bool.or_eq_false_iff, Bool.and_eq_false_iff, decide_eq_false_iff_not]
  omega

/-- A composite stands for itself exactly if its parts do. -/
theorem isMoved_composite
    {first second composite : Char}
    (taken : Composite.parts? composite = some (first, second)) :
    isMoved composite = (isMoved first || isMoved second) := by
  rcases Composite.syllable_or_mem_entries taken with isSyllable | listed
  · obtain ⟨whole, secondLetter, firstLetter⟩ :=
      Composite.letters_of_syllableParts? isSyllable
    have firstKorean : Composite.isSyllable first ∨
        Composite.isKoreanLetter first := by
      rcases firstLetter with letter | ⟨leading, vowel, firstParts, -⟩
      · exact .inr letter
      · exact .inl (Composite.letters_of_syllableParts? firstParts).1
    rw [not_isMoved_of_korean (.inl whole), not_isMoved_of_korean firstKorean,
      not_isMoved_of_korean (.inr secondLetter), Bool.or_false]
  · have settled := List.all_eq_true.mp isSettled_entries _ listed
    exact beq_iff_eq.mp settled

end Folding

namespace Label

/-- The characters of a normal form stand for themselves. -/
theorem not_isMoved_of_normal?
    {text normal : List Char}
    (isNormal : normal? text = some normal) :
    ∀ symbol ∈ normal, Folding.isMoved symbol = false := by
  obtain ⟨simple, isSimple, rfl⟩ := Option.map_eq_some_iff.mp isNormal
  have settled := Folding.not_isMoved_of_ofText isSimple
  split
  · exact settled
  · refine Composed.forall_mem_ofText ?_ ?_ settled
    · intro first second composite taken whole
      rw [Folding.isMoved_composite taken, Bool.or_eq_false_iff] at whole
      exact whole
    · intro first second composite composed inFirst inSecond
      rw [Folding.isMoved_composite (Composite.parts?_of_compose? composed),
        inFirst, inSecond, Bool.or_false]

end Label
end BookLookup
