import BookLookup.Proofs.Text.CodeSet
import BookLookup.Text.Composite
import Mathlib.Data.List.Nodup
import Mathlib.Data.List.Zip

/-!
# Composites and their parts

What two characters are put together to is taken apart into these two, because
no composite is listed twice. The second part of a composite is no composite,
and its first part is one at most twice over.
-/

namespace BookLookup
namespace Composite

/-- A composite with its two parts. -/
structure Entry where
  /-- The first part. -/
  first : Char
  /-- The second part. -/
  second : Char
  /-- The composite. -/
  composite : Char

/-- The composites with the same second character. -/
def entriesOf (second : Nat) (firsts composites : List Char) : List Entry :=
  (firsts.zip composites).map fun pair =>
    ⟨pair.1, Char.ofNat second, pair.2⟩

/-- The composites of a row. -/
def Row.entries (row : Row) : List Entry :=
  entriesOf row.second row.firsts.toList row.composites.toList

/-- All composites that are listed. -/
def entries : List Entry :=
  rows.flatMap Row.entries

/-! ## Rows -/

theorem mem_of_lookup_eq_some
    {pairs : List (Char × Char)}
    {key value : Char}
    (found : pairs.lookup key = some value) :
    (key, value) ∈ pairs := by
  obtain ⟨front, back, rfl, -⟩ := List.lookup_eq_some_iff.mp found
  simp

/-- What is put together in a row is listed there. -/
theorem Row.mem_entries_of_compose?
    {row : Row}
    {first second composite : Char}
    (composed : row.compose? first second = some composite) :
    ⟨first, second, composite⟩ ∈ row.entries := by
  unfold Row.compose? at composed
  split at composed
  · rename_i same
    rw [Row.entries, entriesOf, List.mem_map]
    exact ⟨_, mem_of_lookup_eq_some composed, by rw [same, Char.ofNat_toNat]⟩
  · cases composed

/-- What is taken apart in a row is listed there. -/
theorem Row.mem_entries_of_parts?
    {row : Row}
    {first second composite : Char}
    (taken : row.parts? composite = some (first, second)) :
    ⟨first, second, composite⟩ ∈ row.entries := by
  obtain ⟨part, found, same⟩ := Option.map_eq_some_iff.mp taken
  cases same
  have listed := mem_of_lookup_eq_some found
  rw [← List.zip_swap, List.mem_map] at listed
  obtain ⟨pair, isPair, swapped⟩ := listed
  cases swapped
  exact List.mem_map.mpr ⟨pair, isPair, rfl⟩

/-- What is listed in a row is taken apart there. -/
theorem Row.isSome_parts?
    {row : Row}
    {entry : Entry}
    (listed : entry ∈ row.entries) :
    (row.parts? entry.composite).isSome := by
  obtain ⟨pair, isPair, rfl⟩ := List.mem_map.mp listed
  have swapped : pair.swap ∈ row.composites.toList.zip row.firsts.toList := by
    rw [← List.zip_swap]
    exact List.mem_map_of_mem isPair
  rw [Row.parts?, Option.isSome_map, List.lookup_isSome_iff]
  exact ⟨pair.swap, swapped, beq_self_eq_true _⟩

/-! ## The table -/

/-- Whether a character is a Korean syllable. -/
def isSyllable (symbol : Char) : Bool :=
  0xAC00 ≤ symbol.toNat && symbol.toNat < 0xD7A4

/-- Whether a character is a Korean letter that syllables are made of. -/
def isKoreanLetter (symbol : Char) : Bool :=
  (0x1100 ≤ symbol.toNat && symbol.toNat < 0x1113) ||
    (0x1161 ≤ symbol.toNat && symbol.toNat < 0x1176) ||
    (0x11A8 ≤ symbol.toNat && symbol.toNat < 0x11C3)

/-- Whether numbers differ from each other and from the members of a set. -/
def areDistinct : Nat -> List Nat -> Bool
  | _, [] => true
  | seen, code :: others =>
      !seen.testBit code && areDistinct (2 ^ code ||| seen) others

/-- The composites whose first parts are in a set. -/
def deeper (level : Nat) (entries : List Entry) : Nat :=
  CodeSet.ofList ((entries.filter fun entry =>
    level.testBit entry.first.toNat).map (·.composite.toNat))

/-- Whether composites are listed once and taken apart as has been said, and
have nothing to do with Korean and with points. -/
def isSound (entries : List Entry) : Bool :=
  let once := CodeSet.ofList (entries.map (·.composite.toNat))
  let thrice := deeper (deeper once entries) entries
  areDistinct 0 (entries.map (·.composite.toNat)) &&
    entries.all fun entry =>
      !once.testBit entry.second.toNat && !thrice.testBit entry.first.toNat &&
        0xC0 ≤ entry.composite.toNat &&
        !isSyllable entry.composite && !isKoreanLetter entry.composite &&
        !isSyllable entry.first && !isSyllable entry.second &&
        entry.first != '.' && entry.second != '.'

/-- What some rows list. -/
def Lists (rows : List Row) (entries : List Entry) : Prop :=
  rows.flatMap Row.entries = entries

/-- What a row lists comes first. -/
theorem Lists.cons
    {second : Nat}
    {firsts composites : String}
    {firstChars compositeChars : List Char}
    {rest : List Row}
    {others : List Entry}
    (isFirsts : String.ofList firstChars = firsts)
    (isComposites : String.ofList compositeChars = composites)
    (lists : Lists rest others) :
    Lists (⟨second, firsts, composites⟩ :: rest)
      (entriesOf second firstChars compositeChars ++ others) := by
  subst isFirsts isComposites
  rw [Lists, List.flatMap_cons, lists, Row.entries, String.toList_ofList,
    String.toList_ofList]

theorem Lists.nil : Lists [] [] := rfl

set_option maxRecDepth 4000 in
/-- What the table lists, its texts taken apart into their characters. -/
def table : { found : List Entry // Lists rows found } := by
  apply Subtype.mk
  unfold rows
  dsimp only
  repeat apply Lists.cons rfl rfl
  exact Lists.nil

set_option maxRecDepth 4000 in
theorem isSound_entries : isSound entries = true := by
  have lists : entries = table.val := table.property
  rw [lists]
  decide +kernel

/-- Numbers that differ from each other are listed once. -/
theorem nodup_of_areDistinct
    {seen : Nat}
    {codes : List Nat}
    (distinct : areDistinct seen codes) :
    codes.Nodup ∧ ∀ code ∈ codes, seen.testBit code = false := by
  induction codes generalizing seen with
  | nil => exact ⟨List.nodup_nil, by simp⟩
  | cons code others inductionHypothesis =>
      rw [areDistinct, Bool.and_eq_true, Bool.not_eq_true'] at distinct
      obtain ⟨othersDistinct, unseen⟩ := inductionHypothesis distinct.2
      have notMember : code ∉ others := by
        intro member
        have bit := unseen code member
        simp [Nat.testBit_or] at bit
      refine ⟨List.nodup_cons.mpr ⟨notMember, othersDistinct⟩, ?_⟩
      rw [List.forall_mem_cons]
      refine ⟨distinct.1, ?_⟩
      intro other member
      have bit := unseen other member
      rw [Nat.testBit_or, Bool.or_eq_false_iff] at bit
      exact bit.2

/-- A composite is listed once. -/
theorem eq_of_composite_eq
    {entry other : Entry}
    (listed : entry ∈ entries)
    (otherListed : other ∈ entries)
    (same : entry.composite = other.composite) :
    entry = other := by
  have sound := isSound_entries
  rw [isSound, Bool.and_eq_true] at sound
  have once := (nodup_of_areDistinct sound.1).1
  exact List.inj_on_of_nodup_map once listed otherListed
    (congrArg Char.toNat same)

/-- What has been said of a composite. -/
structure Entry.Sound (entry : Entry) : Prop where
  /-- The second part is no composite. -/
  second : ∀ other ∈ entries, other.composite ≠ entry.second
  /-- The first part is one at most twice over. -/
  first : ∀ one ∈ entries, one.composite = entry.first ->
    ∀ two ∈ entries, two.composite = one.first ->
      ∀ three ∈ entries, three.composite ≠ two.first
  /-- The composite is beyond the first letters. -/
  beyond : 0xC0 ≤ entry.composite.toNat
  /-- It is no syllable. -/
  noSyllable : isSyllable entry.composite = false
  /-- It is no Korean letter. -/
  noLetter : isKoreanLetter entry.composite = false
  /-- Its parts are no syllables. -/
  noSyllables : isSyllable entry.first = false ∧ isSyllable entry.second = false
  /-- Its parts are no points. -/
  noPoints : entry.first ≠ '.' ∧ entry.second ≠ '.'

/-- Every composite is sound. -/
theorem sound_of_mem_entries
    {entry : Entry}
    (listed : entry ∈ entries) :
    entry.Sound := by
  have sound := isSound_entries
  rw [isSound, Bool.and_eq_true] at sound
  have here := List.all_eq_true.mp sound.2 entry listed
  have once {other : Entry} (isOther : other ∈ entries) :
      (CodeSet.ofList (entries.map (·.composite.toNat))).testBit
        other.composite.toNat = true := by
    rw [CodeSet.testBit_ofList, decide_eq_true_eq]
    exact List.mem_map_of_mem isOther
  have deep {level : Nat} {other : Entry} (isOther : other ∈ entries)
      (inLevel : level.testBit other.first.toNat = true) :
      (deeper level entries).testBit other.composite.toNat = true := by
    rw [deeper, CodeSet.testBit_ofList, decide_eq_true_eq]
    exact List.mem_map_of_mem (List.mem_filter.mpr ⟨isOther, inLevel⟩)
  simp only [Bool.and_eq_true, Bool.not_eq_true', decide_eq_true_eq, bne_iff_ne]
    at here
  obtain ⟨⟨⟨⟨⟨⟨⟨⟨second, first⟩, beyond⟩, noSyllable⟩, noLetter⟩,
    firstNoSyllable⟩, secondNoSyllable⟩, firstNoPoint⟩, secondNoPoint⟩ := here
  exact {
    second := by
      rintro other isOther same
      have bit := once isOther
      rw [same, second] at bit
      cases bit
    first := by
      rintro one isOne oneSame two isTwo twoSame three isThree threeSame
      have bit := deep isOne (twoSame ▸ deep isTwo (threeSame ▸ once isThree))
      rw [oneSame, first] at bit
      cases bit
    beyond
    noSyllable
    noLetter
    noSyllables := ⟨firstNoSyllable, secondNoSyllable⟩
    noPoints := ⟨firstNoPoint, secondNoPoint⟩ }

/-! ## Korean syllables -/

theorem toNat_ofNat_of_lt
    {code : Nat}
    (below : code < 0xD800) :
    (Char.ofNat code).toNat = code := by
  have isCharacter : code.isValidChar := .inl below
  rw [Char.ofNat, dif_pos isCharacter]
  rfl

/-- A composed syllable is taken apart again. -/
theorem syllableParts?_of_syllable?
    {first second composite : Char}
    (composed : syllable? first second = some composite) :
    syllableParts? composite = some (first, second) := by
  unfold syllable? at composed
  simp only [] at composed
  split at composed
  · rename_i letters
    obtain ⟨leading, isLeading⟩ :=
      Nat.exists_eq_add_of_le letters.1
    obtain ⟨vowel, isVowel⟩ := Nat.exists_eq_add_of_le letters.2.2.1
    have code : composite.toNat = 0xAC00 + (leading * 21 + vowel) * 28 := by
      rw [← Option.some.inj composed, toNat_ofNat_of_lt (by omega)]
      omega
    unfold syllableParts?
    simp only [code]
    rw [if_pos (by omega), if_pos (by omega),
      show 0x1100 + (0xAC00 + (leading * 21 + vowel) * 28 - 0xAC00) / 588 =
        first.toNat by omega,
      show 0x1161 + (0xAC00 + (leading * 21 + vowel) * 28 - 0xAC00) % 588 / 28 =
        second.toNat by omega, Char.ofNat_toNat, Char.ofNat_toNat]
  · split at composed
    · rename_i parts
      obtain ⟨trailing, isTrailing⟩ :=
        Nat.exists_eq_add_of_le (Nat.le_of_lt parts.2.2.2.1)
      obtain ⟨syllable, isSyllable⟩ := Nat.exists_eq_add_of_le parts.1
      have code : composite.toNat = 0xAC00 + (syllable + trailing) := by
        rw [← Option.some.inj composed, toNat_ofNat_of_lt (by omega)]
        omega
      unfold syllableParts?
      simp only [code]
      rw [if_pos (by omega), if_neg (by omega),
        show 0xAC00 + (syllable + trailing) -
            (0xAC00 + (syllable + trailing) - 0xAC00) % 28 = first.toNat
          by omega,
        show 0x11A7 + (0xAC00 + (syllable + trailing) - 0xAC00) % 28 =
          second.toNat by omega, Char.ofNat_toNat, Char.ofNat_toNat]
    · cases composed

/-- The parts of a syllable are a letter, or a syllable of two letters, and a
letter. -/
theorem letters_of_syllableParts?
    {first second composite : Char}
    (taken : syllableParts? composite = some (first, second)) :
    isSyllable composite ∧ isKoreanLetter second ∧
      (isKoreanLetter first ∨
        ∃ leading vowel, syllableParts? first = some (leading, vowel) ∧
          isKoreanLetter leading) := by
  unfold syllableParts? at taken
  simp only [] at taken
  split at taken
  · rename_i isSyllable
    obtain ⟨index, isIndex⟩ := Nat.exists_eq_add_of_le isSyllable.1
    have inRange : index < 11172 := by omega
    have whole : Composite.isSyllable composite := by
      simp [Composite.isSyllable, isIndex]
      omega
    rw [isIndex, Nat.add_sub_cancel_left] at taken
    have letter {code : Nat}
        (letters : (0x1100 ≤ code ∧ code < 0x1113) ∨
          (0x1161 ≤ code ∧ code < 0x1176) ∨
          (0x11A8 ≤ code ∧ code < 0x11C3)) :
        isKoreanLetter (Char.ofNat code) := by
      rw [isKoreanLetter, toNat_ofNat_of_lt (by omega)]
      simpa [or_assoc] using letters
    split at taken
    · cases taken
      exact ⟨whole, letter (by omega), .inl (letter (by omega))⟩
    · cases taken
      have code : (Char.ofNat (0xAC00 + index - index % 28)).toNat =
          0xAC00 + (index - index % 28) := by
        rw [toNat_ofNat_of_lt (by omega)]
        omega
      refine ⟨whole, letter (by omega), .inr ?_⟩
      refine ⟨Char.ofNat (0x1100 + (index - index % 28) / 588),
        Char.ofNat (0x1161 + (index - index % 28) % 588 / 28), ?_,
        letter (by omega)⟩
      unfold syllableParts?
      simp only [code, Nat.add_sub_cancel_left]
      rw [if_pos (by omega), if_pos (by omega)]
  · cases taken

/-! ## Composing and taking apart -/

/-- What is listed is what is taken apart. -/
theorem findSome?_parts?_eq_some_iff {first second composite : Char} :
    rows.findSome? (·.parts? composite) = some (first, second) ↔
      ⟨first, second, composite⟩ ∈ entries := by
  have listed {parts : Char × Char}
      (found : rows.findSome? (·.parts? composite) = some parts) :
      ⟨parts.1, parts.2, composite⟩ ∈ entries := by
    obtain ⟨row, isRow, taken⟩ := List.exists_of_findSome?_eq_some found
    exact List.mem_flatMap.mpr
      ⟨row, isRow, Row.mem_entries_of_parts? taken⟩
  constructor
  · exact listed
  · intro member
    obtain ⟨row, isRow, inRow⟩ := List.mem_flatMap.mp member
    have isSome : (rows.findSome? (·.parts? composite)).isSome :=
      List.findSome?_isSome_iff.mpr ⟨row, isRow, Row.isSome_parts? inRow⟩
    obtain ⟨parts, found⟩ := Option.isSome_iff_exists.mp isSome
    have same := eq_of_composite_eq (listed found) member rfl
    cases same
    exact found

/-- A composite that is no syllable is taken apart as it is listed. -/
theorem parts?_of_mem_entries
    {entry : Entry}
    (listed : entry ∈ entries) :
    parts? entry.composite = some (entry.first, entry.second) := by
  have noSyllable := (sound_of_mem_entries listed).noSyllable
  have noParts : syllableParts? entry.composite = none := by
    rw [Option.eq_none_iff_forall_not_mem]
    rintro ⟨first, second⟩ taken
    rw [(letters_of_syllableParts? taken).1] at noSyllable
    cases noSyllable
  rw [parts?, noParts, Option.none_or]
  exact findSome?_parts?_eq_some_iff.mpr listed

/-- A composite is a syllable or listed. -/
theorem syllable_or_mem_entries
    {first second composite : Char}
    (taken : parts? composite = some (first, second)) :
    syllableParts? composite = some (first, second) ∨
      ⟨first, second, composite⟩ ∈ entries := by
  rcases Option.or_eq_some_iff.mp taken with isSyllable | ⟨-, isListed⟩
  · exact .inl isSyllable
  · exact .inr (findSome?_parts?_eq_some_iff.mp isListed)

/-- A composite is taken apart into what it was put together from. -/
theorem parts?_of_compose?
    {first second composite : Char}
    (composed : compose? first second = some composite) :
    parts? composite = some (first, second) := by
  rcases Option.or_eq_some_iff.mp composed with isSyllable | ⟨-, isListed⟩
  · rw [parts?, syllableParts?_of_syllable? isSyllable, Option.some_or]
  · obtain ⟨row, isRow, inRow⟩ := List.exists_of_findSome?_eq_some isListed
    exact parts?_of_mem_entries
      (List.mem_flatMap.mpr ⟨row, isRow, Row.mem_entries_of_compose? inRow⟩)

/-- A character that is no syllable is taken apart only if it is listed. -/
theorem mem_entries_of_not_isSyllable
    {first second symbol : Char}
    (noSyllable : isSyllable symbol = false)
    (taken : parts? symbol = some (first, second)) :
    ⟨first, second, symbol⟩ ∈ entries := by
  rcases syllable_or_mem_entries taken with isSyllable | listed
  · rw [(letters_of_syllableParts? isSyllable).1] at noSyllable
    cases noSyllable
  · exact listed

/-- A character that is neither a syllable nor listed is not taken apart. -/
theorem parts?_eq_none
    {symbol : Char}
    (noSyllable : isSyllable symbol = false)
    (unlisted : ∀ entry ∈ entries, entry.composite ≠ symbol) :
    parts? symbol = none := by
  rw [Option.eq_none_iff_forall_not_mem]
  rintro ⟨first, second⟩ taken
  exact unlisted _ (mem_entries_of_not_isSyllable noSyllable taken) rfl

/-- Korean letters are not taken apart. -/
theorem parts?_of_isKoreanLetter
    {symbol : Char}
    (letter : isKoreanLetter symbol) :
    parts? symbol = none := by
  apply parts?_eq_none
  · simp only [isKoreanLetter, isSyllable, Bool.or_eq_true,
      Bool.and_eq_true, Bool.and_eq_false_iff, decide_eq_true_eq,
      decide_eq_false_iff_not] at letter ⊢
    omega
  · rintro entry listed rfl
    rw [(sound_of_mem_entries listed).noLetter] at letter
    cases letter

/-- No character below the first composite is taken apart. -/
theorem parts?_of_lt
    {symbol : Char}
    (below : symbol.toNat < 0xC0) :
    parts? symbol = none := by
  apply parts?_eq_none
  · simp only [isSyllable, Bool.and_eq_false_iff, decide_eq_false_iff_not]
    omega
  · rintro entry listed rfl
    have beyond := (sound_of_mem_entries listed).beyond
    omega

/-- The second part of a composite is not taken apart. -/
theorem parts?_second
    {first second composite : Char}
    (taken : parts? composite = some (first, second)) :
    parts? second = none := by
  rcases syllable_or_mem_entries taken with isSyllable | listed
  · exact parts?_of_isKoreanLetter (letters_of_syllableParts? isSyllable).2.1
  · have sound := sound_of_mem_entries listed
    exact parts?_eq_none sound.noSyllables.2 sound.second

/-- Whether a character is taken apart so many times over. -/
def IsDeep : Nat -> Char -> Prop
  | 0, _ => True
  | steps + 1, symbol => ∃ first second,
      parts? symbol = some (first, second) ∧ IsDeep steps first

/-- No character is taken apart more than three times over. -/
theorem not_isDeep (symbol : Char) : ¬IsDeep 4 symbol := by
  rintro ⟨one, _, taken, two, _, oneTaken, three, _, twoTaken, _, _,
    threeTaken, -⟩
  rcases syllable_or_mem_entries taken with isSyllable | listed
  · obtain ⟨-, -, letter | ⟨leading, vowel, oneParts, leadingLetter⟩⟩ :=
      letters_of_syllableParts? isSyllable
    · rw [parts?_of_isKoreanLetter letter] at oneTaken
      cases oneTaken
    · rw [parts?, oneParts, Option.some_or] at oneTaken
      cases oneTaken
      rw [parts?_of_isKoreanLetter leadingLetter] at twoTaken
      cases twoTaken
  · have sound := sound_of_mem_entries listed
    have oneListed :=
      mem_entries_of_not_isSyllable sound.noSyllables.1 oneTaken
    have twoListed := mem_entries_of_not_isSyllable
      (sound_of_mem_entries oneListed).noSyllables.1 twoTaken
    have threeListed := mem_entries_of_not_isSyllable
      (sound_of_mem_entries twoListed).noSyllables.1 threeTaken
    exact sound.first _ oneListed rfl _ twoListed rfl _ threeListed rfl

/-- A point is neither a composite nor a part of one. -/
theorem ne_point_of_parts?
    {first second composite : Char}
    (taken : parts? composite = some (first, second)) :
    composite ≠ '.' ∧ first ≠ '.' ∧ second ≠ '.' := by
  have whole : composite ≠ '.' := by
    rintro rfl
    rw [parts?_of_lt (by decide)] at taken
    cases taken
  refine ⟨whole, ?_⟩
  rcases syllable_or_mem_entries taken with isSyllable | listed
  · have noLetter : isKoreanLetter '.' = false := by decide
    have noSyllable : Composite.isSyllable '.' = false := by decide
    obtain ⟨-, secondLetter, firstLetter | ⟨leading, vowel, firstParts, -⟩⟩ :=
      letters_of_syllableParts? isSyllable
    · constructor <;> rintro rfl <;> simp_all
    · have firstSyllable := (letters_of_syllableParts? firstParts).1
      constructor <;> rintro rfl <;> simp_all
  · exact (sound_of_mem_entries listed).noPoints

/-- A point is not put together with anything. -/
theorem compose?_point (symbol : Char) :
    compose? '.' symbol = none ∧ compose? symbol '.' = none := by
  constructor
  · rw [Option.eq_none_iff_forall_not_mem]
    exact fun composite composed =>
      (ne_point_of_parts? (parts?_of_compose? composed)).2.1 rfl
  · rw [Option.eq_none_iff_forall_not_mem]
    exact fun composite composed =>
      (ne_point_of_parts? (parts?_of_compose? composed)).2.2 rfl

end Composite
end BookLookup
