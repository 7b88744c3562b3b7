import BookLookup.Filter

/-!
# When parameters give a filter, and which

Parameters give a filter exactly if there are some, each has a value and a
field that may be used to filter, and no field occurs twice. The filter has one
group for each parameter, in order, and binds the values of all of them.
-/

namespace BookLookup

namespace Parameter

/-- Whether a parameter can be part of a filter, the others apart. -/
def Usable (parameter : Parameter) : Prop :=
  (bookSchema.filterable? parameter.1).isSome ∧ parameter.2.isSome

instance (parameter : Parameter) : Decidable (Usable parameter) :=
  inferInstanceAs (Decidable (_ ∧ _))

/-- The conditions of a parameter, each with its value. A parameter that cannot
be used has none. -/
def conditions : Parameter -> List (Predicate × String)
  | (field, some value) =>
      match bookSchema.filterable? field with
      | some multiplicity => Filter.conditions field multiplicity value
      | none => []
  | (_, none) => []

/-- A usable parameter has a field of some multiplicity and a value. -/
theorem Usable.exists_eq
    {parameter : Parameter}
    (usable : Usable parameter) :
    ∃ field multiplicity value,
      parameter = (field, some value) ∧
        bookSchema.filterable? field = some multiplicity ∧
        conditions parameter = Filter.conditions field multiplicity value := by
  obtain ⟨field, value?⟩ := parameter
  obtain ⟨hasMultiplicity, hasValue⟩ := usable
  obtain ⟨multiplicity, filterable⟩ := Option.isSome_iff_exists.mp hasMultiplicity
  obtain ⟨value, rfl⟩ := Option.isSome_iff_exists.mp hasValue
  exact ⟨field, multiplicity, value, rfl, filterable,
    by simp only [conditions, filterable]⟩

end Parameter

namespace Filter

theorem bindValues_append
    (bindings : TextMap String)
    (first second : List (Predicate × String)) :
    bindValues bindings (first ++ second) =
      bindValues (bindValues bindings first) second := by
  simp [bindValues]

/-- A draft with some parameters more. -/
def Draft.extendedBy
    (draft : Draft)
    (parameters : List Parameter) : Draft where
  fields := draft.fields ++ parameters.map Prod.fst
  filter := {
    expression := draft.filter.expression ++
      parameters.map fun parameter =>
        (Parameter.conditions parameter).map Prod.fst
    bindings := bindValues draft.filter.bindings
      (parameters.flatMap Parameter.conditions) }

@[simp] theorem Draft.extendedBy_nil (draft : Draft) :
    draft.extendedBy [] = draft := by
  simp [extendedBy, bindValues]

theorem Draft.extendedBy_cons
    (draft : Draft)
    (parameter : Parameter)
    (others : List Parameter) :
    draft.extendedBy (parameter :: others) =
      (draft.extendedBy [parameter]).extendedBy others := by
  simp [extendedBy, bindValues_append]

/-- One parameter is added exactly if it is usable and its field is new. -/
theorem Draft.add_eq_ok_iff
    {draft next : Draft}
    {parameter : Parameter} :
    draft.add parameter = .ok next ↔
      Parameter.Usable parameter ∧ parameter.1 ∉ draft.fields ∧
        next = draft.extendedBy [parameter] := by
  obtain ⟨field, value?⟩ := parameter
  unfold Draft.add Parameter.Usable
  cases filterable : bookSchema.filterable? field with
  | none => simp [filterable]
  | some multiplicity =>
      by_cases met : field ∈ draft.fields
      · simp [filterable, met]
      · cases value? with
        | none => simp [filterable, met]
        | some value =>
            simp only [filterable, met, if_false, Option.isSome_some,
              not_false_eq_true, true_and, Except.ok.injEq]
            have extended : draft.extendedBy [(field, some value)] =
                { fields := draft.fields ++ [field]
                  filter := {
                    expression := draft.filter.expression ++
                      [(conditions field multiplicity value).map Prod.fst]
                    bindings := bindValues draft.filter.bindings
                      (conditions field multiplicity value) } } := by
              simp [extendedBy, Parameter.conditions, filterable]
            rw [extended]
            exact eq_comm

/-- Parameters are added one by one exactly if each is usable and no field is
met twice. -/
theorem Draft.foldlM_add_eq_ok_iff
    {draft last : Draft}
    {parameters : List Parameter}
    (distinct : draft.fields.Nodup) :
    parameters.foldlM Draft.add draft = .ok last ↔
      (∀ parameter ∈ parameters, Parameter.Usable parameter) ∧
        (draft.fields ++ parameters.map Prod.fst).Nodup ∧
        last = draft.extendedBy parameters := by
  induction parameters generalizing draft with
  | nil =>
      simp [pure, Except.pure, distinct, eq_comm]
  | cons parameter others inductionHypothesis =>
      have fieldsMoved : draft.fields ++ (parameter :: others).map Prod.fst =
          (draft.extendedBy [parameter]).fields ++ others.map Prod.fst := by
        simp [extendedBy]
      rw [List.foldlM_cons, List.forall_mem_cons, fieldsMoved,
        extendedBy_cons draft parameter others]
      constructor
      · intro added
        cases step : draft.add parameter with
        | error fault => simp [step, bind, Except.bind] at added
        | ok next =>
            obtain ⟨usable, new, rfl⟩ := Draft.add_eq_ok_iff.mp step
            have stillDistinct :
                (draft.extendedBy [parameter]).fields.Nodup := by
              refine List.nodup_append.mpr ⟨distinct, by simp, ?_⟩
              intro field met other isOther same
              rw [same, List.mem_singleton.mp isOther] at met
              exact new met
            rw [step] at added
            obtain ⟨usables, allDistinct, equal⟩ :=
              (inductionHypothesis stillDistinct).mp added
            exact ⟨⟨usable, usables⟩, allDistinct, equal⟩
      · rintro ⟨⟨usable, usables⟩, allDistinct, equal⟩
        have stillDistinct := (List.nodup_append.mp allDistinct).1
        have new : parameter.1 ∉ draft.fields := by
          intro met
          have apart := (List.nodup_append.mp stillDistinct).2.2
          exact apart _ met _ (by simp) rfl
        rw [Draft.add_eq_ok_iff.mpr ⟨usable, new, rfl⟩]
        exact (inductionHypothesis stillDistinct).mpr
          ⟨usables, allDistinct, equal⟩

/-- The filter of parameters, whatever their faults. -/
def compiled (parameters : List Parameter) : Filter :=
  (Draft.empty.extendedBy parameters).filter

theorem expression_compiled (parameters : List Parameter) :
    (compiled parameters).expression =
      parameters.map fun parameter =>
        (Parameter.conditions parameter).map Prod.fst := rfl

theorem bindings_compiled (parameters : List Parameter) :
    (compiled parameters).bindings =
      bindValues .empty (parameters.flatMap Parameter.conditions) := rfl

/-- The key of a condition and the value that is bound to it. -/
def binding (pair : Predicate × String) : String × String :=
  (bindingKey pair.1.placeholder, pair.2)

theorem bindings_compiled_eq_ofPairs (parameters : List Parameter) :
    (compiled parameters).bindings =
      .ofPairs ((parameters.flatMap Parameter.conditions).map binding) := by
  rw [bindings_compiled, bindValues, TextMap.ofPairs, List.foldl_map]
  rfl

/-- The parameters that give a filter, and which. -/
theorem ofParameters_eq_ok_iff
    {parameters : List Parameter}
    {filter : Filter} :
    ofParameters parameters = .ok filter ↔
      parameters ≠ [] ∧
        (∀ parameter ∈ parameters, Parameter.Usable parameter) ∧
        (parameters.map Prod.fst).Nodup ∧
        filter = compiled parameters := by
  have added (last : Draft) :
      parameters.foldlM Draft.add Draft.empty = .ok last ↔
        (∀ parameter ∈ parameters, Parameter.Usable parameter) ∧
          (parameters.map Prod.fst).Nodup ∧
          last = Draft.empty.extendedBy parameters :=
    Draft.foldlM_add_eq_ok_iff List.nodup_nil
  constructor
  · intro accepted
    have nonempty : parameters ≠ [] := by
      rintro rfl
      simp at accepted
    rw [ofParameters] at accepted
    cases run : parameters.foldlM Draft.add Draft.empty with
    | error fault => simp [run] at accepted
    | ok last =>
        obtain ⟨usable, distinct, rfl⟩ := (added last).mp run
        have someGroup : (Draft.empty.extendedBy parameters).filter.expression
            ≠ [] := by
          simpa [Draft.extendedBy, Draft.empty] using nonempty
        rw [run] at accepted
        simp only [List.isEmpty_iff, someGroup, if_false] at accepted
        exact ⟨nonempty, usable, distinct, (Except.ok.inj accepted).symm⟩
  · rintro ⟨nonempty, usable, distinct, rfl⟩
    have run := (added _).mpr ⟨usable, distinct, rfl⟩
    have someGroup : (Draft.empty.extendedBy parameters).filter.expression
        ≠ [] := by
      simpa [Draft.extendedBy, Draft.empty] using nonempty
    rw [ofParameters, run]
    simp only [List.isEmpty_iff, someGroup, if_false]
    rfl

end Filter
end BookLookup
