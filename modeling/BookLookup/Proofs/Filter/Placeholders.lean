import BookLookup.Proofs.Filter.Compiled
import BookLookup.Proofs.Filter.Grammar
import BookLookup.Proofs.Text.Decimal
import Mathlib.Data.List.Nodup
import Mathlib.Data.List.TakeWhile

/-!
# Placeholders

The field of a placeholder is found again by dropping the digits at its end,
because no field of a book has a digit in its name. Hence no placeholder is
used for two values, and every value is found under the placeholder of its
condition.
-/

namespace BookLookup

/-- A known name is made of letters. -/
theorem isAlpha_of_knows
    {name : String}
    (known : bookSchema.knows name) :
    name.toList ≠ [] ∧ ∀ symbol ∈ name.toList, symbol.isAlpha := by
  have allLetters : ∀ field ∈ bookSchema.fields,
      field.name.toList ≠ [] ∧
        ∀ symbol ∈ field.name.toList, symbol.isAlpha := by
    simp [bookSchema]
  obtain ⟨field, found⟩ := Option.isSome_iff_exists.mp known
  have sameName : field.name = name := by
    simpa using List.find?_some found
  exact sameName ▸ allLetters field (List.mem_of_find?_eq_some found)

theorem isAlpha_of_filterable?
    {field : String}
    {multiplicity : Multiplicity}
    (filterable : bookSchema.filterable? field = some multiplicity) :
    field.toList ≠ [] ∧ ∀ symbol ∈ field.toList, symbol.isAlpha :=
  isAlpha_of_knows (Schema.knows_of_filterable? filterable)

/-- A field that may be used to filter has the same multiplicity otherwise. -/
theorem multiplicity?_of_filterable?
    {field : String}
    {multiplicity : Multiplicity}
    (filterable : bookSchema.filterable? field = some multiplicity) :
    bookSchema.multiplicity? field = some multiplicity := by
  obtain ⟨known, found, same⟩ := Option.map_eq_some_iff.mp filterable
  obtain ⟨isField, -⟩ := Option.filter_eq_some_iff.mp found
  rw [Schema.multiplicity?, isField, Option.map_some, same]

/-- A field that may be used to filter is a word. -/
theorem isWord_of_filterable?
    {field : String}
    {multiplicity : Multiplicity}
    (filterable : bookSchema.filterable? field = some multiplicity) :
    IsWord field := by
  obtain ⟨nonempty, letters⟩ := isAlpha_of_filterable? filterable
  refine ⟨nonempty, ?_⟩
  intro symbol member
  apply isWordSymbol_of_isAlphanum
  simp [Char.isAlphanum, letters symbol member]

namespace Filter

/-- The letters at the beginning of a placeholder. -/
def stem (placeholder : String) : List Char :=
  placeholder.toList.takeWhile Char.isAlpha

/-- A digit is no letter. -/
theorem isAlpha_eq_false_of_isDigit
    {symbol : Char}
    (digit : symbol.isDigit) :
    symbol.isAlpha = false := by
  have atMost : symbol.val ≤ '9'.val :=
    of_decide_eq_true (Bool.and_eq_true_iff.mp digit).2
  refine Bool.or_eq_false_iff.mpr ⟨?_, ?_⟩
  · apply decide_eq_false
    rintro ⟨upper, -⟩
    exact absurd (UInt32.le_trans upper atMost) (by decide)
  · refine Bool.and_eq_false_iff.mpr (.inl (decide_eq_false ?_))
    intro lower
    exact absurd (UInt32.le_trans lower atMost) (by decide)

/-- No letter stands at the beginning of a decimal text. -/
theorem takeWhile_isAlpha_digits (number : Nat) :
    (Decimal.digits number).takeWhile Char.isAlpha = [] := by
  cases shape : Decimal.digits number with
  | nil => rfl
  | cons first others =>
      have isDigit : first.isDigit :=
        Decimal.isDigit_of_mem_digits (shape ▸ List.mem_cons_self)
      rw [List.takeWhile_cons_of_neg
        (by rw [isAlpha_eq_false_of_isDigit isDigit]; exact Bool.false_ne_true)]

/-- A placeholder is the name of its field or that name with a decimal text
behind it. -/
theorem mem_placeholders
    {field placeholder : String}
    {count : Nat}
    (member : placeholder ∈ placeholders field count) :
    placeholder = field ∨
      ∃ index, placeholder = indexedName field index := by
  unfold placeholders at member
  split at member
  · exact .inl (List.mem_singleton.mp member)
  · obtain ⟨index, -, rfl⟩ := List.mem_map.mp member
    exact .inr ⟨index, rfl⟩

/-- The stem of a placeholder is the name of its field. -/
theorem stem_of_mem_placeholders
    {field placeholder : String}
    {count : Nat}
    (letters : ∀ symbol ∈ field.toList, symbol.isAlpha)
    (member : placeholder ∈ placeholders field count) :
    stem placeholder = field.toList := by
  rcases mem_placeholders member with rfl | ⟨index, rfl⟩
  · exact List.takeWhile_eq_self_iff.mpr letters
  · rw [stem, indexedName, String.toList_append,
      List.takeWhile_append_of_pos letters, Decimal.text,
      String.toList_ofList, takeWhile_isAlpha_digits, List.append_nil]

/-- A placeholder of a word is a word. -/
theorem isWord_of_mem_placeholders
    {field placeholder : String}
    {count : Nat}
    (isWord : IsWord field)
    (member : placeholder ∈ placeholders field count) :
    IsWord placeholder := by
  rcases mem_placeholders member with rfl | ⟨index, rfl⟩
  · exact isWord
  · obtain ⟨nonempty, inside⟩ := isWord
    rw [IsWord, indexedName, String.toList_append, Decimal.text,
      String.toList_ofList]
    refine ⟨by simp [nonempty], ?_⟩
    intro symbol symbolMember
    rcases List.mem_append.mp symbolMember with inField | inDigits
    · exact inside symbol inField
    · apply isWordSymbol_of_isAlphanum
      simp [Char.isAlphanum, Decimal.isDigit_of_mem_digits inDigits]

/-- No placeholder of a field is used twice. -/
theorem nodup_placeholders
    (field : String)
    (count : Nat) :
    (placeholders field count).Nodup := by
  unfold placeholders
  split
  · simp
  · refine List.Nodup.map ?_ List.nodup_range
    intro first second same
    have texts : Decimal.text first = Decimal.text second := by
      simpa [indexedName] using same
    exact Decimal.text_injective texts

/-- How many values a field takes from a value. -/
def valueCount : Multiplicity -> String -> Nat
  | .one, _ => 1
  | .many, value => (pieces value).length

theorem valueCount_pos (multiplicity : Multiplicity) (value : String) :
    0 < valueCount multiplicity value := by
  cases multiplicity with
  | one => exact Nat.one_pos
  | many =>
      rw [valueCount, pieces, List.length_map]
      exact List.length_pos_of_ne_nil (Split.pieces_ne_nil _ _)

/-- The conditions of a field use its placeholders in order. -/
theorem map_placeholder_conditions
    (field : String)
    (multiplicity : Multiplicity)
    (value : String) :
    (conditions field multiplicity value).map (·.1.placeholder) =
      placeholders field (valueCount multiplicity value) := by
  cases multiplicity with
  | one => rfl
  | many =>
      have names : (fun pair : Predicate × String => pair.1.placeholder) =
          Predicate.placeholder ∘ Prod.fst := rfl
      rw [names, ← List.map_map]
      simp only [conditions, valueCount]
      rw [List.map_fst_zip (by simp), List.map_map]
      exact List.map_id _

/-- A field has at least one condition. -/
theorem conditions_ne_nil
    (field : String)
    (multiplicity : Multiplicity)
    (value : String) :
    conditions field multiplicity value ≠ [] := by
  intro isEmpty
  have counts := congrArg List.length
    (map_placeholder_conditions field multiplicity value)
  have positive := valueCount_pos multiplicity value
  rw [length_placeholders, isEmpty] at counts
  simp at counts
  omega

theorem map_snd_conditions_many (field value : String) :
    (conditions field .many value).map Prod.snd = pieces value :=
  List.map_snd_zip (by simp)

/-- The condition of a field of some multiplicity, with a placeholder. -/
def condition (field name : String) : Multiplicity -> Predicate
  | .one => .equals field name
  | .many => .contains field name

/-- A condition of a field names it and one of its placeholders. -/
theorem fst_of_mem_conditions
    {field value : String}
    {multiplicity : Multiplicity}
    {pair : Predicate × String}
    (member : pair ∈ conditions field multiplicity value) :
    ∃ name ∈ placeholders field (valueCount multiplicity value),
      pair.1 = condition field name multiplicity := by
  cases multiplicity with
  | one =>
      rw [conditions_one, List.mem_singleton] at member
      exact ⟨field, by simp [valueCount, placeholders], by rw [member]; rfl⟩
  | many =>
      obtain ⟨name, isName, same⟩ :=
        List.mem_map.mp (List.of_mem_zip member).1
      exact ⟨name, isName, same.symm⟩

end Filter

/-- The placeholders of different parameters are all different. -/
theorem Parameter.nodup_placeholders
    {parameters : List Parameter}
    (usable : ∀ parameter ∈ parameters, Parameter.Usable parameter)
    (distinct : (parameters.map Prod.fst).Nodup) :
    ((parameters.flatMap Parameter.conditions).map
      (·.1.placeholder)).Nodup := by
  rw [List.map_flatMap, List.nodup_flatMap]
  constructor
  · intro parameter member
    obtain ⟨field, multiplicity, value, -, -, conditionsEq⟩ :=
      (usable parameter member).exists_eq
    rw [conditionsEq, Filter.map_placeholder_conditions]
    exact Filter.nodup_placeholders _ _
  · have fieldsDiffer : parameters.Pairwise (·.1 ≠ ·.1) :=
      List.pairwise_map.mp distinct
    apply fieldsDiffer.imp_of_mem
    intro first second firstMember secondMember differ placeholder
      inFirst inSecond
    obtain ⟨firstField, _, _, rfl, firstFilterable, firstConditions⟩ :=
      (usable first firstMember).exists_eq
    obtain ⟨secondField, _, _, rfl, secondFilterable, secondConditions⟩ :=
      (usable second secondMember).exists_eq
    simp only [firstConditions, Filter.map_placeholder_conditions] at inFirst
    simp only [secondConditions, Filter.map_placeholder_conditions] at inSecond
    have firstStem := Filter.stem_of_mem_placeholders
      (isAlpha_of_filterable? firstFilterable).2 inFirst
    have secondStem := Filter.stem_of_mem_placeholders
      (isAlpha_of_filterable? secondFilterable).2 inSecond
    exact differ (String.toList_inj.mp (firstStem.symm.trans secondStem))

namespace Filter

theorem bindingKey_injective : Function.Injective bindingKey := by
  intro first second same
  simpa [bindingKey] using same

/-- The keys of the values of different parameters are all different. -/
theorem nodup_bindingKeys
    {parameters : List Parameter}
    (usable : ∀ parameter ∈ parameters, Parameter.Usable parameter)
    (distinct : (parameters.map Prod.fst).Nodup) :
    ((parameters.flatMap Parameter.conditions).map fun pair =>
      bindingKey pair.1.placeholder).Nodup := by
  have allDiffer := Parameter.nodup_placeholders usable distinct
  have keysDiffer := allDiffer.map bindingKey_injective
  rw [List.map_map] at keysDiffer
  exact keysDiffer

/-- Binding values leaves the keys of other placeholders alone. -/
theorem get?_bindValues_of_not_mem
    {bindings : TextMap String}
    {bound : List (Predicate × String)}
    {placeholder : String}
    (absent : placeholder ∉ bound.map (·.1.placeholder)) :
    (bindValues bindings bound).get? (bindingKey placeholder) =
      bindings.get? (bindingKey placeholder) := by
  induction bound generalizing bindings with
  | nil => rfl
  | cons pair others inductionHypothesis =>
      rw [List.map_cons, List.mem_cons, not_or] at absent
      obtain ⟨differs, absentLater⟩ := absent
      have kept : (bindings.insert (bindingKey pair.1.placeholder) pair.2).get?
          (bindingKey placeholder) = bindings.get? (bindingKey placeholder) := by
        rw [TextMap.get?_insert, if_neg]
        exact fun same => differs (bindingKey_injective same)
      exact (inductionHypothesis absentLater).trans kept

/-- A value is found under its placeholder, if no placeholder is used twice. -/
theorem get?_bindValues_of_mem
    {bindings : TextMap String}
    {bound : List (Predicate × String)}
    {pair : Predicate × String}
    (distinct : (bound.map (·.1.placeholder)).Nodup)
    (member : pair ∈ bound) :
    (bindValues bindings bound).get? (bindingKey pair.1.placeholder) =
      some pair.2 := by
  induction bound generalizing bindings with
  | nil => simp at member
  | cons first others inductionHypothesis =>
      rw [List.map_cons, List.nodup_cons] at distinct
      obtain ⟨firstNew, othersDistinct⟩ := distinct
      rcases List.mem_cons.mp member with rfl | inOthers
      · change (bindValues (bindings.insert _ _) others).get? _ = _
        rw [get?_bindValues_of_not_mem firstNew, TextMap.get?_insert,
          if_pos rfl]
      · exact inductionHypothesis othersDistinct inOthers

end Filter
end BookLookup
