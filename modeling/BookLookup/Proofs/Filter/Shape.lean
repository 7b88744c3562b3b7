import BookLookup.Proofs.Elementwise
import BookLookup.Proofs.Filter.Placeholders
import BookLookup.Proofs.Text.Split
import BookLookup.Proofs.TextMap

/-!
# Values do not shape a filter

The text of a filter and the keys of its values depend on the fields of the
parameters and on how many values each field takes, and so does the fault of
parameters that give no filter. What the values are has no part in it.
-/

namespace BookLookup

/-- Two parameters differ in their values at most: they have the same field,
both or neither have a value, and if the field has many values, theirs have
equally many commas. -/
structure Parameter.Alike (first second : Parameter) : Prop where
  /-- They have the same field. -/
  field : first.1 = second.1
  /-- One has no value exactly if the other has none. -/
  missing : first.2 = none ↔ second.2 = none
  /-- The values of a field with many values have equally many commas. -/
  commas : ∀ value other, first.2 = some value -> second.2 = some other ->
    bookSchema.multiplicity? first.1 = some .many ->
    value.toList.count ',' = other.toList.count ','

namespace Filter

theorem valueCount_many (value : String) :
    valueCount .many value = value.toList.count ',' + 1 := by
  change (pieces value).length = _
  unfold pieces
  rw [List.length_map, Split.length_pieces, valueSeparator]

/-- The conditions of a field are determined by how many values it takes. -/
theorem map_fst_conditions
    (field : String)
    (multiplicity : Multiplicity)
    (value : String) :
    (conditions field multiplicity value).map Prod.fst =
      (placeholders field (valueCount multiplicity value)).map
        fun name => condition field name multiplicity := by
  cases multiplicity with
  | one => rfl
  | many =>
      unfold conditions
      apply List.map_fst_zip
      simp

/-- The keys after binding values are determined by those before and by the
placeholders. -/
theorem keys_bindValues_congr
    {bindings others : TextMap String}
    (sameKeys : bindings.keys = others.keys)
    {bound otherBound : List (Predicate × String)}
    (sameConditions : bound.map Prod.fst = otherBound.map Prod.fst) :
    (bindValues bindings bound).keys =
      (bindValues others otherBound).keys := by
  induction bound generalizing bindings others otherBound with
  | nil =>
      rw [List.map_nil, eq_comm, List.map_eq_nil_iff] at sameConditions
      rw [sameConditions]
      exact sameKeys
  | cons pair more inductionHypothesis =>
      cases otherBound with
      | nil => cases sameConditions
      | cons other otherMore =>
          rw [List.map_cons, List.map_cons, List.cons.injEq] at sameConditions
          obtain ⟨sameCondition, sameMore⟩ := sameConditions
          apply inductionHypothesis _ sameMore
          change (bindings.insert (bindingKey pair.1.placeholder) pair.2).keys =
            (others.insert (bindingKey other.1.placeholder) other.2).keys
          rw [sameCondition]
          exact Entries.keys_insert_congr sameKeys _ _ _

/-- Two drafts differ in their values at most. -/
structure Draft.Alike (first second : Draft) : Prop where
  /-- They have met the same fields. -/
  fields : first.fields = second.fields
  /-- They have the same conditions. -/
  expression : first.filter.expression = second.filter.expression
  /-- They have bound the same keys. -/
  keys : first.filter.bindings.keys = second.filter.bindings.keys

/-- Drafts and parameters that differ in their values at most give drafts that
do, or fail alike. -/
theorem Draft.Alike.add
    {first second : Draft}
    {parameter other : Parameter}
    (drafts : first.Alike second)
    (parameters : parameter.Alike other) :
    SameOutcome Draft.Alike (first.add parameter) (second.add other) := by
  obtain ⟨field, value?⟩ := parameter
  obtain ⟨otherField, otherValue?⟩ := other
  obtain rfl : field = otherField := parameters.field
  unfold Draft.add
  rw [← drafts.fields]
  dsimp only
  cases filterable : bookSchema.filterable? field with
  | none => exact .failed _
  | some multiplicity =>
      dsimp only
      by_cases met : field ∈ first.fields
      · simp only [met, if_true]
        exact .failed _
      · simp only [met, if_false]
        cases value? with
        | none =>
            obtain rfl : otherValue? = none := parameters.missing.mp rfl
            exact .failed _
        | some value =>
            cases otherValue? with
            | none => cases parameters.missing.mpr rfl
            | some otherValue =>
                have sameCount : valueCount multiplicity value =
                    valueCount multiplicity otherValue := by
                  cases multiplicity with
                  | one => rfl
                  | many =>
                      have commas := parameters.commas value otherValue rfl rfl
                        (multiplicity?_of_filterable? filterable)
                      rw [valueCount_many, valueCount_many, commas]
                have sameConditions :
                    (conditions field multiplicity value).map Prod.fst =
                      (conditions field multiplicity otherValue).map
                        Prod.fst := by
                  rw [map_fst_conditions, map_fst_conditions, sameCount]
                refine .succeeded ⟨rfl, ?_, ?_⟩
                · rw [drafts.expression, sameConditions]
                · exact keys_bindValues_congr drafts.keys sameConditions

/-- Parameters that differ in their values at most give filters with the same
text and the same placeholders, or fail alike. -/
theorem values_do_not_shape_filter
    {first second : List Parameter}
    (alike : List.Forall₂ Parameter.Alike first second) :
    SameOutcome
      (fun filter other : Filter =>
        filter.text = other.text ∧ filter.bindings.keys = other.bindings.keys)
      (ofParameters first) (ofParameters second) := by
  have drafted : SameOutcome Draft.Alike
      (first.foldlM Draft.add Draft.empty)
      (second.foldlM Draft.add Draft.empty) :=
    SameOutcome.foldlM
      (fun _ _ _ _ drafts parameters => drafts.add parameters)
      alike ⟨rfl, rfl, rfl⟩
  unfold ofParameters
  generalize first.foldlM Draft.add Draft.empty = result at drafted ⊢
  generalize second.foldlM Draft.add Draft.empty = otherResult at drafted ⊢
  cases drafted with
  | failed fault => exact .failed fault
  | succeeded drafts =>
      simp only [← drafts.expression]
      split
      · exact .failed _
      · refine .succeeded ⟨?_, drafts.keys⟩
        rw [text, text, drafts.expression]

/-- Values that look like a part of an expression give the same text as others
with as many commas. -/
theorem hostile_values_do_not_shape_filter :
    ∃ filter other,
      ofParameters [("title", some ") or attribute_exists(id"),
        ("genres", some ":genres0),contains(authors,:title")] = .ok filter ∧
      ofParameters [("title", some ""), ("genres", some ",,")] = .ok other ∧
      filter.text = other.text ∧
      filter.bindings.keys = other.bindings.keys := by
  have alike : List.Forall₂ Parameter.Alike
      [("title", some ") or attribute_exists(id"),
        ("genres", some ":genres0),contains(authors,:title")]
      [("title", some ""), ("genres", some ",,")] := by
    refine .cons ⟨rfl, by simp, ?_⟩ (.cons ⟨rfl, by simp, ?_⟩ .nil)
    · rintro _ _ ⟨⟩ ⟨⟩ isMany
      cases isMany
    · rintro _ _ ⟨⟩ ⟨⟩ -
      decide
  have outcome := values_do_not_shape_filter alike
  cases outcome with
  | succeeded same => exact ⟨_, _, rfl, rfl, same⟩

end Filter
end BookLookup
