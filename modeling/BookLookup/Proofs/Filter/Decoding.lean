import BookLookup.Proofs.Filter.Meaning

/-!
# A filter loses nothing of its parameters

The parameters of a filter are found again from the text of its expression and
its bindings. Each group of the text names a field. The value of a scalar field
is bound to its placeholder; that of a field with many values is joined from the
pieces, in the order of their indices. Hence different parameters give different
filters.
-/

namespace BookLookup

namespace Filter

/-- The pieces bound for a field with many values, by how many there are. A
single piece is found under the name of the field, and several under the name
and their index, from zero on. -/
def boundPieces?
    (bindings : TextMap String)
    (field : String)
    (count : Nat) : Option (List String) :=
  if count = 1 then
    (bindings.get? (":" ++ field)).map fun value => [value]
  else
    (List.range count).mapM fun index =>
      bindings.get? (":" ++ field ++ Decimal.text index)

end Filter

/-- The parameter that a group stands for: its field is that of the first
condition, and its value is what is bound for the field. -/
def Group.parameter?
    (bindings : TextMap String)
    (group : Group) : Option Parameter :=
  match group with
  | [] => none
  | .equals field _ :: _ =>
      (bindings.get? (":" ++ field)).map fun value => (field, some value)
  | .contains field _ :: _ =>
      (Filter.boundPieces? bindings field group.length).map fun values =>
        (field, some (",".intercalate values))

/-- The parameters that the text of an expression and some bindings stand
for. -/
def Filter.parametersOf?
    (text : String)
    (bindings : TextMap String) : Option (List Parameter) :=
  (Expression.read? text.toList).bind fun expression =>
    expression.mapM (Group.parameter? bindings)

namespace Filter

/-- The pieces of a value are joined to it. -/
theorem intercalate_pieces (value : String) :
    ",".intercalate (pieces value) = value := by
  have texts : (pieces value).map String.toList =
      Split.pieces ',' value.toList := by
    unfold pieces valueSeparator
    rw [List.map_map]
    exact List.map_id'' (fun _ => String.toList_ofList) _
  rw [← String.toList_inj, String.toList_intercalate, texts]
  change [','].intercalate _ = _
  rw [← Split.join_eq_intercalate, Split.join_pieces]

/-- Pieces are bound under the placeholders of their field. -/
theorem boundPieces?_eq
    (bindings : TextMap String)
    (field : String)
    (count : Nat) :
    boundPieces? bindings field count =
      (placeholders field count).mapM fun name =>
        bindings.get? (":" ++ name) := by
  unfold boundPieces? placeholders
  split
  · rw [List.mapM_cons, List.mapM_nil]
    cases bindings.get? (":" ++ field) with
    | none => rfl
    | some value => rfl
  · have names : ((fun name => bindings.get? (":" ++ name)) ∘
        indexedName field) =
        fun index => bindings.get? (":" ++ field ++ Decimal.text index) := by
      funext index
      rw [Function.comp_apply, indexedName, String.append_assoc]
    rw [List.mapM_map, names]

/-- The pieces of a value are found again if its conditions are bound. -/
theorem boundPieces?_of_bound
    {bindings : TextMap String}
    {field value : String}
    (found : ∀ pair ∈ conditions field .many value,
      bindings.get? (":" ++ pair.1.placeholder) = some pair.2) :
    boundPieces? bindings field (pieces value).length =
      some (pieces value) := by
  have allFound := Elementwise.mapM_eq_some_map found
  rw [map_snd_conditions_many] at allFound
  have names := map_placeholder_conditions field .many value
  rw [boundPieces?_eq]
  change (placeholders field (valueCount .many value)).mapM _ = _
  rw [← names, List.mapM_map]
  exact allFound

/-- The group of a parameter stands for it if its conditions are bound. -/
theorem parameter?_map_fst_conditions
    {bindings : TextMap String}
    {parameter : Parameter}
    (usable : Parameter.Usable parameter)
    (found : ∀ pair ∈ Parameter.conditions parameter,
      bindings.get? (":" ++ pair.1.placeholder) = some pair.2) :
    Group.parameter? bindings
        ((Parameter.conditions parameter).map Prod.fst) =
      some parameter := by
  obtain ⟨field, multiplicity, value, rfl, -, conditionsEq⟩ :=
    usable.exists_eq
  rw [conditionsEq] at found ⊢
  cases multiplicity with
  | one =>
      have bound := found (.equals field field, value) List.mem_cons_self
      change (bindings.get? (":" ++ field)).map _ = _
      rw [show bindings.get? (":" ++ field) = some value from bound]
      rfl
  | many =>
      have piecesBound := boundPieces?_of_bound found
      obtain ⟨first, others, shape⟩ :=
        List.exists_cons_of_ne_nil (conditions_ne_nil field .many value)
      obtain ⟨name, -, isContainment⟩ := fst_of_mem_conditions
        (shape ▸ List.mem_cons_self : first ∈ conditions field .many value)
      have counted : (first.1 :: others.map Prod.fst).length =
          (pieces value).length := by
        rw [← length_conditions_many field, shape]
        simp
      rw [shape, List.map_cons]
      rw [isContainment] at counted ⊢
      change (boundPieces? bindings field
        (_ :: others.map Prod.fst).length).map _ = _
      rw [counted, piecesBound, Option.map_some, intercalate_pieces]

/-- The groups of a filter stand for its parameters. -/
theorem mapM_parameter?_expression
    {parameters : List Parameter}
    {filter : Filter}
    (accepted : ofParameters parameters = .ok filter) :
    filter.expression.mapM (Group.parameter? filter.bindings) =
      some parameters := by
  obtain ⟨-, usable, distinct, rfl⟩ := ofParameters_eq_ok_iff.mp accepted
  have each : ∀ parameter ∈ parameters,
      (Group.parameter? (compiled parameters).bindings ∘ fun parameter =>
        (Parameter.conditions parameter).map Prod.fst) parameter =
          some (id parameter) := by
    intro parameter isParameter
    refine parameter?_map_fst_conditions (usable parameter isParameter) ?_
    exact fun pair isCondition =>
      get?_bindings_compiled usable distinct isParameter isCondition
  rw [expression_compiled, List.mapM_map, Elementwise.mapM_eq_some_map each,
    List.map_id]

/-- Parameters that give the same filter are the same. -/
theorem ofParameters_injective
    {first second : List Parameter}
    {filter : Filter}
    (firstAccepted : ofParameters first = .ok filter)
    (secondAccepted : ofParameters second = .ok filter) :
    first = second :=
  Option.some.inj ((mapM_parameter?_expression firstAccepted).symm.trans
    (mapM_parameter?_expression secondAccepted))

/-- The parameters of a filter are found again from its text and its bindings,
and parameters that differ give filters that differ in one or the other. -/
theorem parametersOf?_text_bindings :
    (∀ parameters filter,
      ofParameters parameters = .ok filter ->
      parametersOf? filter.text filter.bindings = some parameters) ∧
    ∀ first second filter other,
      ofParameters first = .ok filter ->
      ofParameters second = .ok other ->
      filter.text = other.text ->
      filter.bindings = other.bindings ->
      first = second := by
  have decoded (parameters : List Parameter) (filter : Filter)
      (accepted : ofParameters parameters = .ok filter) :
      parametersOf? filter.text filter.bindings = some parameters := by
    obtain ⟨nonempty, usable, distinct, rfl⟩ :=
      ofParameters_eq_ok_iff.mp accepted
    unfold parametersOf?
    rw [(written_compiled nonempty usable).read?_eq, Option.bind_some,
      expression_compiled, List.mapM_map]
    have each : ∀ parameter ∈ parameters,
        (Group.parameter? (compiled parameters).bindings ∘ fun parameter =>
          (Parameter.conditions parameter).map Prod.fst) parameter =
            some (id parameter) := by
      intro parameter isParameter
      apply parameter?_map_fst_conditions (usable parameter isParameter)
      intro pair isCondition
      exact get?_bindings_compiled usable distinct isParameter isCondition
    rw [Elementwise.mapM_eq_some_map each, List.map_id]
  refine ⟨decoded, ?_⟩
  intro first second filter other firstAccepted secondAccepted sameText
    sameBindings
  have firstDecoded := decoded first filter firstAccepted
  have secondDecoded := decoded second other secondAccepted
  rw [sameText, sameBindings, secondDecoded] at firstDecoded
  exact (Option.some.inj firstDecoded).symm

/-- Empty pieces at either end and more than ten of them are found again, and
two orders of the same pieces give different filters. -/
theorem parametersOf?_of_many_genres :
    (∃ filter,
      ofParameters [("genres", some ",a,b,c,d,e,f,g,h,i,j,"),
          ("title", some "Dune, Messiah")] = .ok filter ∧
        parametersOf? filter.text filter.bindings =
          some [("genres", some ",a,b,c,d,e,f,g,h,i,j,"),
            ("title", some "Dune, Messiah")]) ∧
      ∃ filter other,
        ofParameters [("genres", some "A,B")] = .ok filter ∧
          ofParameters [("genres", some "B,A")] = .ok other ∧
          ¬ (filter.text = other.text ∧ filter.bindings = other.bindings) := by
  constructor
  · exact ⟨_, rfl, parametersOf?_text_bindings.1 _ _ rfl⟩
  · refine ⟨_, _, rfl, rfl, ?_⟩
    rintro ⟨sameText, sameBindings⟩
    have same := parametersOf?_text_bindings.2 [("genres", some "A,B")]
      [("genres", some "B,A")] _ _ rfl rfl sameText sameBindings
    revert same
    decide

end Filter
end BookLookup
