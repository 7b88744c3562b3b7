import BookLookup.Proofs.Elementwise
import BookLookup.Proofs.Filter.Placeholders
import BookLookup.Proofs.Filter.Reading
import BookLookup.Proofs.Text.Split

/-!
# What a filter means

Two predicates on texts interpret an expression: one for equalities, one for
containments. Placeholders stand for the values bound to them. The main result
is that the text of a filter has one reading, and that this reading is true
exactly when every parameter of the filter holds.
-/

namespace BookLookup

section Interpretation

variable (equal contains : String -> String -> Bool)

/-- Whether a condition is true of a value. -/
def Predicate.isTrueOf (predicate : Predicate) (value : String) : Bool :=
  match predicate with
  | .equals field _ => equal field value
  | .contains field _ => contains field value

/-- The truth of a condition on the value bound to its placeholder, if there is
one. -/
def Predicate.truth?
    (bindings : TextMap String)
    (predicate : Predicate) : Option Bool :=
  (bindings.get? (":" ++ predicate.placeholder)).map
    (predicate.isTrueOf equal contains)

/-- The truth of a group, of which one condition has to be true. -/
def Group.truth? (bindings : TextMap String) (group : Group) : Option Bool :=
  (group.mapM (Predicate.truth? equal contains bindings)).map (·.any id)

/-- The truth of an expression, of which every group has to be true. -/
def Expression.truth?
    (bindings : TextMap String)
    (expression : Expression) : Option Bool :=
  (expression.mapM (Group.truth? equal contains bindings)).map (·.all id)

/-- When a parameter holds: a scalar field is the value, or a field with many
values contains a piece of the value between commas. -/
inductive Parameter.Holds : Parameter -> Prop where
  /-- A scalar field is the value. -/
  | scalar {field value : String} :
      bookSchema.multiplicity? field = some .one ->
      equal field value ->
      Parameter.Holds (field, some value)
  /-- A list contains a piece of the value. -/
  | piece {field value : String} {piece : List Char} :
      bookSchema.multiplicity? field = some .many ->
      piece ∈ value.toList.splitOn ',' ->
      contains field (String.ofList piece) ->
      Parameter.Holds (field, some value)

end Interpretation

variable {equal contains : String -> String -> Bool}

/-- A usable parameter holds exactly if one of its conditions is true of its
value. -/
theorem Parameter.holds_iff_exists_condition
    {parameter : Parameter}
    (usable : Parameter.Usable parameter) :
    Parameter.Holds equal contains parameter ↔
      ∃ pair ∈ Parameter.conditions parameter,
        pair.1.isTrueOf equal contains pair.2 := by
  obtain ⟨field, multiplicity, value, rfl, filterable, conditionsEq⟩ :=
    usable.exists_eq
  have known := multiplicity?_of_filterable? filterable
  rw [conditionsEq]
  cases multiplicity with
  | one =>
      simp only [Filter.conditions_one, List.mem_singleton,
        exists_eq_left, Predicate.isTrueOf]
      constructor
      · rintro (⟨-, holds⟩ | ⟨isMany, -, -⟩)
        · exact holds
        · simp [known] at isMany
      · exact .scalar known
  | many =>
      have pieceIff (text : String) :
          text ∈ Filter.pieces value ↔
            ∃ piece ∈ value.toList.splitOn ',', String.ofList piece = text := by
        simp [Filter.pieces, Filter.valueSeparator, Split.pieces_eq_splitOn]
      constructor
      · rintro (⟨isOne, -⟩ | ⟨-, isPiece, holds⟩)
        · simp [known] at isOne
        · have isValue := (pieceIff _).mpr ⟨_, isPiece, rfl⟩
          rw [← Filter.map_snd_conditions_many field] at isValue
          obtain ⟨pair, member, same⟩ := List.mem_map.mp isValue
          obtain ⟨name, -, shape⟩ := Filter.fst_of_mem_conditions member
          refine ⟨pair, member, ?_⟩
          rw [shape, same]
          exact holds
      · rintro ⟨pair, member, isTrue⟩
        obtain ⟨name, -, shape⟩ := Filter.fst_of_mem_conditions member
        have isValue : pair.2 ∈ Filter.pieces value := by
          rw [← Filter.map_snd_conditions_many field]
          exact List.mem_map_of_mem member
        obtain ⟨piece, isPiece, same⟩ := (pieceIff _).mp isValue
        rw [shape, ← same] at isTrue
        exact .piece known isPiece isTrue

/-! ## Truth under the bindings of a filter -/

/-- Conditions whose values are bound have the truth of their values. -/
theorem Group.truth?_map_fst
    {bindings : TextMap String}
    {bound : List (Predicate × String)}
    (found : ∀ pair ∈ bound,
      bindings.get? (":" ++ pair.1.placeholder) = some pair.2) :
    Group.truth? equal contains bindings (bound.map Prod.fst) =
      some (bound.any fun pair => pair.1.isTrueOf equal contains pair.2) := by
  have truths : bound.mapM
      (Predicate.truth? equal contains bindings ∘ Prod.fst) =
      some (bound.map fun pair => pair.1.isTrueOf equal contains pair.2) := by
    apply Elementwise.mapM_eq_some_map
    intro pair member
    rw [Function.comp_apply, Predicate.truth?, found pair member,
      Option.map_some]
  rw [Group.truth?, List.mapM_map, truths, Option.map_some,
    List.any_map]
  rfl

namespace Filter

/-- A value of a filter is bound to the placeholder of its condition. -/
theorem get?_bindings_compiled
    {parameters : List Parameter}
    (usable : ∀ parameter ∈ parameters, Parameter.Usable parameter)
    (distinct : (parameters.map Prod.fst).Nodup)
    {parameter : Parameter}
    (isParameter : parameter ∈ parameters)
    {pair : Predicate × String}
    (isCondition : pair ∈ Parameter.conditions parameter) :
    (compiled parameters).bindings.get? (":" ++ pair.1.placeholder) =
      some pair.2 := by
  rw [bindings_compiled]
  apply get?_bindValues_of_mem (Parameter.nodup_placeholders usable distinct)
  exact List.mem_flatMap.mpr ⟨parameter, isParameter, isCondition⟩

/-- The truth of the expression of a filter under its own bindings. -/
theorem truth?_compiled
    {parameters : List Parameter}
    (usable : ∀ parameter ∈ parameters, Parameter.Usable parameter)
    (distinct : (parameters.map Prod.fst).Nodup) :
    (compiled parameters).expression.truth? equal contains
        (compiled parameters).bindings =
      some (parameters.all fun parameter =>
        (Parameter.conditions parameter).any fun pair =>
          pair.1.isTrueOf equal contains pair.2) := by
  have truths : parameters.mapM
      (Group.truth? equal contains (compiled parameters).bindings ∘
        fun parameter => (Parameter.conditions parameter).map Prod.fst) =
      some (parameters.map fun parameter =>
        (Parameter.conditions parameter).any fun pair =>
          pair.1.isTrueOf equal contains pair.2) := by
    apply Elementwise.mapM_eq_some_map
    intro parameter isParameter
    exact Group.truth?_map_fst fun pair isCondition =>
      get?_bindings_compiled usable distinct isParameter isCondition
  rw [Expression.truth?, expression_compiled, List.mapM_map, truths, Option.map_some,
    List.all_map]
  rfl

/-- The text of a filter writes its expression. -/
theorem written_compiled
    {parameters : List Parameter}
    (nonempty : parameters ≠ [])
    (usable : ∀ parameter ∈ parameters, Parameter.Usable parameter) :
    Expression.Written (compiled parameters).expression
      (compiled parameters).text.toList := by
  rw [text, String.toList_ofList]
  apply Expression.written_render (by simpa [expression_compiled])
  intro group isGroup
  obtain ⟨parameter, isParameter, rfl⟩ := List.mem_map.mp isGroup
  obtain ⟨field, multiplicity, value, -, filterable, conditionsEq⟩ :=
    (usable parameter isParameter).exists_eq
  have fieldWord := isWord_of_filterable? filterable
  simp only [conditionsEq]
  refine Group.written_render
    (by simpa using conditions_ne_nil field multiplicity value) ?_
  intro predicate isPredicate
  obtain ⟨pair, isCondition, rfl⟩ := List.mem_map.mp isPredicate
  obtain ⟨name, isName, shape⟩ := fst_of_mem_conditions isCondition
  have nameWord := isWord_of_mem_placeholders fieldWord isName
  rw [shape]
  cases multiplicity with
  | one => exact Predicate.written_render fieldWord nameWord
  | many => exact Predicate.written_render fieldWord nameWord

/-- The text of a filter has exactly one reading, and that is true under the
bindings of the filter exactly if all parameters hold. -/
theorem unique_reading_true_iff_parameters_hold
    {parameters : List Parameter}
    {filter : Filter}
    (accepted : ofParameters parameters = .ok filter) :
    ∃ expression : Expression,
      (∀ other, Expression.Written other filter.text.toList ↔
        other = expression) ∧
      ∀ equal contains : String -> String -> Bool,
        ∃ truth,
          expression.truth? equal contains filter.bindings = some truth ∧
            (truth = true ↔
              ∀ parameter ∈ parameters,
                Parameter.Holds equal contains parameter) := by
  obtain ⟨nonempty, usable, distinct, rfl⟩ := ofParameters_eq_ok_iff.mp accepted
  have written := written_compiled nonempty usable
  refine ⟨(compiled parameters).expression, ?_, ?_⟩
  · intro other
    constructor
    · intro otherWritten
      exact otherWritten.unique written
    · rintro rfl
      exact written
  · intro equal contains
    refine ⟨_, truth?_compiled usable distinct, ?_⟩
    rw [List.all_eq_true]
    refine forall₂_congr ?_
    intro parameter isParameter
    rw [Parameter.holds_iff_exists_condition (usable parameter isParameter),
      List.any_eq_true]

/-- A filter with an empty piece and a comma in a scalar value. -/
theorem unique_reading_of_genres_and_title :
    ∃ filter,
      ofParameters [("genres", some "Fantasy,,Sci-Fi"),
        ("title", some "Dune, Messiah")] = .ok filter ∧
      filter.text = "(contains(genres,:genres0) or " ++
        "contains(genres,:genres1) or contains(genres,:genres2)) and " ++
        "(title = :title)" ∧
      ∃ expression : Expression,
        (∀ other, Expression.Written other filter.text.toList ↔
          other = expression) ∧
        ∀ equal contains : String -> String -> Bool,
          ∃ truth,
            expression.truth? equal contains filter.bindings = some truth ∧
              (truth = true ↔
                ∀ parameter ∈ [("genres", some "Fantasy,,Sci-Fi"),
                    ("title", some "Dune, Messiah")],
                  Parameter.Holds equal contains parameter) :=
  ⟨_, rfl, by decide, unique_reading_true_iff_parameters_hold rfl⟩

end Filter
end BookLookup
