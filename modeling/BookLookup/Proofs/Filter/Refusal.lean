import BookLookup.Proofs.Elementwise
import BookLookup.Proofs.Filter.Compiled
import Mathlib.Data.List.Induction
import Mathlib.Data.List.Nodup
import Mathlib.Order.Bounds.Defs

/-!
# Which parameters give no filter, and why

A parameter is bad behind earlier ones if its field may not be used to filter,
if an earlier one has the field, or if it has no value. Parameters give a filter
exactly if there are some and none is bad. Otherwise the first bad one is
refused, for the first of these three reasons, whatever comes after it.
-/

namespace BookLookup

namespace Schema

/-- A name is that of a field that may be used to filter. -/
def Filterable (schema : Schema) (name : String) : Prop :=
  ∃ field ∈ schema.fields, field.name = name ∧ field.filterable

instance (schema : Schema) (name : String) :
    Decidable (schema.Filterable name) :=
  inferInstanceAs
    (Decidable (∃ field ∈ schema.fields, field.name = name ∧ field.filterable))

/-- If no two fields share a name, the field of a name is the one that has it. -/
theorem field?_eq_some_iff
    {schema : Schema}
    {name : String}
    {field : Field}
    (distinct : (schema.fields.map Field.name).Nodup) :
    schema.field? name = some field ↔
      field ∈ schema.fields ∧ field.name = name := by
  constructor
  · intro found
    exact ⟨List.mem_of_find?_eq_some found,
      by simpa using List.find?_some found⟩
  · rintro ⟨member, named⟩
    cases found : schema.field? name with
    | none =>
        have other := List.find?_eq_none.mp found field member
        simp [named] at other
    | some first =>
        have firstNamed : first.name = name := by
          simpa using List.find?_some found
        rw [List.inj_on_of_nodup_map distinct
          (List.mem_of_find?_eq_some found) member
          (firstNamed.trans named.symm)]

/-- If no two fields share a name, a filterable name is found as such. -/
theorem isSome_filterable?_iff
    {schema : Schema}
    {name : String}
    (distinct : (schema.fields.map Field.name).Nodup) :
    (schema.filterable? name).isSome ↔ schema.Filterable name := by
  rw [filterable?, Option.isSome_map, Option.isSome_iff_exists]
  simp only [Option.filter_eq_some_iff, field?_eq_some_iff distinct, and_assoc,
    Filterable]

end Schema

/-! ## Bad parameters -/

namespace Parameter

/-- A parameter is bad behind some earlier ones. -/
def Bad (earlier : List Parameter) (parameter : Parameter) : Prop :=
  ¬ bookSchema.Filterable parameter.1 ∨
    parameter.1 ∈ earlier.map Prod.fst ∨
    parameter.2 = none

/-- The fault of a parameter behind earlier ones. Of several, a field that may
not be used comes before one that was met, and both before a missing value. -/
inductive HasFault
    (earlier : List Parameter) : Parameter -> FilterFault -> Prop where
  /-- The field may not be used to filter. -/
  | unknownField
      {field : String}
      {value? : Option String}
      (unknown : ¬ bookSchema.Filterable field) :
      HasFault earlier (field, value?) (.unknownField field)
  /-- The field may be used, but an earlier parameter has it. -/
  | duplicateField
      {field : String}
      {value? : Option String}
      (filterable : bookSchema.Filterable field)
      (met : field ∈ earlier.map Prod.fst) :
      HasFault earlier (field, value?) (.duplicateField field)
  /-- The field may be used and is new, but there is no value. -/
  | missingValue
      {field : String}
      (filterable : bookSchema.Filterable field)
      (new : field ∉ earlier.map Prod.fst) :
      HasFault earlier (field, none) (.missingValue field)

/-- A parameter is bad exactly if it has a fault. -/
theorem bad_iff_exists_hasFault
    {earlier : List Parameter}
    {parameter : Parameter} :
    Bad earlier parameter ↔ ∃ fault, HasFault earlier parameter fault := by
  obtain ⟨field, value?⟩ := parameter
  constructor
  · intro bad
    by_cases filterable : bookSchema.Filterable field
    · by_cases met : field ∈ earlier.map Prod.fst
      · exact ⟨_, .duplicateField filterable met⟩
      · obtain rfl : value? = none :=
          (bad.resolve_left (not_not_intro filterable)).resolve_left met
        exact ⟨_, .missingValue filterable met⟩
    · exact ⟨_, .unknownField filterable⟩
  · rintro ⟨fault, hasFault⟩
    cases hasFault with
    | unknownField unknown => exact .inl unknown
    | duplicateField _ met => exact .inr (.inl met)
    | missingValue => exact .inr (.inr rfl)

/-- A parameter is not bad if it is usable and its field is new. -/
theorem not_bad_iff
    {earlier : List Parameter}
    {parameter : Parameter} :
    ¬ Bad earlier parameter ↔
      Usable parameter ∧ parameter.1 ∉ earlier.map Prod.fst := by
  rw [Bad, Usable, Schema.isSome_filterable?_iff bookSchema_names_nodup,
    Option.isSome_iff_ne_none]
  tauto

/-- The parameter at a place is bad behind those before. -/
def BadAt (parameters : List Parameter) (place : Nat) : Prop :=
  ∃ parameter, parameters[place]? = some parameter ∧
    Bad (parameters.take place) parameter

section Places

variable {front : List Parameter} {parameter : Parameter}

theorem badAt_append_iff
    {place : Nat}
    (rest : List Parameter)
    (inFront : place < front.length) :
    BadAt (front ++ rest) place ↔ BadAt front place := by
  rw [BadAt, BadAt, List.getElem?_append_left inFront,
    List.take_append_of_le_length (Nat.le_of_lt inFront)]

theorem badAt_length_iff (rest : List Parameter) :
    BadAt (front ++ parameter :: rest) front.length ↔ Bad front parameter := by
  simp [BadAt]

/-- No parameter is bad if none in front of the last is, and neither the last. -/
theorem forall_not_badAt_concat :
    (∀ place, ¬ BadAt (front ++ [parameter]) place) ↔
      (∀ place, ¬ BadAt front place) ∧ ¬ Bad front parameter := by
  constructor
  · intro good
    refine ⟨fun place bad => ?_, ?_⟩
    · obtain ⟨other, isOther, -⟩ := id bad
      have inFront := (List.getElem?_eq_some_iff.mp isOther).1
      exact good place ((badAt_append_iff _ inFront).mpr bad)
    · rw [← badAt_length_iff []]
      exact good front.length
  · rintro ⟨goodFront, goodLast⟩ place bad
    obtain ⟨other, isOther, -⟩ := id bad
    have inside : place < front.length + 1 := by
      simpa using (List.getElem?_eq_some_iff.mp isOther).1
    rcases Nat.lt_succ_iff_lt_or_eq.mp inside with inFront | rfl
    · exact goodFront place ((badAt_append_iff _ inFront).mp bad)
    · exact goodLast ((badAt_length_iff _).mp bad)

/-- A bad parameter behind others of which none is bad is the first. -/
theorem isLeast_badAt
    (rest : List Parameter)
    (good : ∀ place, ¬ BadAt front place)
    (bad : Bad front parameter) :
    IsLeast {place | BadAt (front ++ parameter :: rest) place}
      front.length := by
  refine ⟨(badAt_length_iff rest).mpr bad, fun place badThere => ?_⟩
  by_contra before
  have inFront : place < front.length := Nat.lt_of_not_le before
  exact good place ((badAt_append_iff _ inFront).mp badThere)

end Places

/-- In front of the first bad parameter none is bad. -/
theorem exists_of_isLeast_badAt
    {parameters : List Parameter}
    {place : Nat}
    (first : IsLeast {place | BadAt parameters place} place) :
    ∃ parameter, parameters[place]? = some parameter ∧
      Bad (parameters.take place) parameter ∧
      ∀ other, ¬ BadAt (parameters.take place) other := by
  obtain ⟨parameter, isThere, bad⟩ := first.1
  refine ⟨parameter, isThere, bad, fun other badBefore => ?_⟩
  obtain ⟨_, isOther, -⟩ := id badBefore
  have inFront := (List.getElem?_eq_some_iff.mp isOther).1
  have badThere : BadAt parameters other := by
    rw [← List.take_append_drop place parameters]
    exact (badAt_append_iff _ inFront).mpr badBefore
  have notEarlier : place ≤ other := first.2 badThere
  have earlier : other < place :=
    Nat.lt_of_lt_of_le inFront (List.length_take_le place parameters)
  exact absurd earlier (Nat.not_lt.mpr notEarlier)

/-- No parameter is bad exactly if each is usable and no field is met twice. -/
theorem forall_not_badAt_iff {parameters : List Parameter} :
    (∀ place, ¬ BadAt parameters place) ↔
      (∀ parameter ∈ parameters, Usable parameter) ∧
        (parameters.map Prod.fst).Nodup := by
  -- A parameter is bad behind those before it, so the last one comes off.
  induction parameters using List.reverseRecOn with
  | nil => simp [BadAt]
  | append_singleton front last inductionHypothesis =>
      rw [forall_not_badAt_concat, inductionHypothesis, not_bad_iff,
        List.forall_mem_append, List.forall_mem_singleton, List.map_append,
        List.map_singleton, List.nodup_append_comm, List.singleton_append,
        List.nodup_cons]
      tauto

end Parameter

/-! ## What is refused -/

namespace Filter

/-- A parameter is refused for its fault behind those read so far. -/
theorem Draft.add_eq_error_iff
    {draft : Draft}
    {earlier : List Parameter}
    {parameter : Parameter}
    {fault : FilterFault}
    (fields : draft.fields = earlier.map Prod.fst) :
    draft.add parameter = .error fault ↔
      parameter.HasFault earlier fault := by
  obtain ⟨field, value?⟩ := parameter
  have filterable_iff :
      (bookSchema.filterable? field).isSome ↔ bookSchema.Filterable field :=
    Schema.isSome_filterable?_iff bookSchema_names_nodup
  unfold Draft.add
  rw [fields]
  constructor
  · intro refused
    cases kind : bookSchema.filterable? field with
    | none =>
        simp only [kind] at refused
        obtain rfl := Except.error.inj refused
        exact .unknownField (by simp [← filterable_iff, kind])
    | some multiplicity =>
        have filterable := filterable_iff.mp (by simp [kind])
        by_cases met : field ∈ earlier.map Prod.fst
        · simp only [kind, met, if_true] at refused
          obtain rfl := Except.error.inj refused
          exact .duplicateField filterable met
        · cases value? with
          | none =>
              simp only [kind, met, if_false] at refused
              obtain rfl := Except.error.inj refused
              exact .missingValue filterable met
          | some value => simp [kind, met] at refused
  · intro hasFault
    cases hasFault with
    | unknownField unknown =>
        have kind : bookSchema.filterable? field = none := by
          simpa [← filterable_iff] using unknown
        simp only [kind]
    | duplicateField filterable met =>
        obtain ⟨multiplicity, kind⟩ :=
          Option.isSome_iff_exists.mp (filterable_iff.mpr filterable)
        simp only [kind, met, if_true]
    | missingValue filterable new =>
        obtain ⟨multiplicity, kind⟩ :=
          Option.isSome_iff_exists.mp (filterable_iff.mpr filterable)
        simp only [kind, new, if_false]

/-- All parameters are read exactly if none is bad. -/
theorem foldlM_add_empty_eq_ok_iff
    {parameters : List Parameter}
    {last : Draft} :
    parameters.foldlM Draft.add Draft.empty = .ok last ↔
      (∀ place, ¬ Parameter.BadAt parameters place) ∧
        last = Draft.empty.extendedBy parameters := by
  rw [Parameter.forall_not_badAt_iff, and_assoc]
  exact Draft.foldlM_add_eq_ok_iff List.nodup_nil

/-- Otherwise the first bad one is refused. -/
theorem foldlM_add_empty_eq_error_iff
    {parameters : List Parameter}
    {fault : FilterFault} :
    parameters.foldlM Draft.add Draft.empty = .error fault ↔
      ∃ front parameter rest, parameters = front ++ parameter :: rest ∧
        (∀ place, ¬ Parameter.BadAt front place) ∧
        parameter.HasFault front fault := by
  rw [Elementwise.foldlM_eq_error_iff]
  constructor
  · rintro ⟨front, parameter, rest, draft, rfl, reached, refused⟩
    obtain ⟨good, rfl⟩ := foldlM_add_empty_eq_ok_iff.mp reached
    exact ⟨front, parameter, rest, rfl, good,
      (Draft.add_eq_error_iff rfl).mp refused⟩
  · rintro ⟨front, parameter, rest, rfl, good, hasFault⟩
    exact ⟨front, parameter, rest, _, rfl,
      foldlM_add_empty_eq_ok_iff.mpr ⟨good, rfl⟩,
      (Draft.add_eq_error_iff rfl).mpr hasFault⟩

theorem exists_ofParameters_eq_ok_iff {parameters : List Parameter} :
    (∃ filter, ofParameters parameters = .ok filter) ↔
      parameters ≠ [] ∧ ∀ place, ¬ Parameter.BadAt parameters place := by
  rw [Parameter.forall_not_badAt_iff]
  simp only [ofParameters_eq_ok_iff, exists_and_left, exists_eq, and_true]

/-- Why parameters give no filter. -/
theorem ofParameters_eq_error_iff
    {parameters : List Parameter}
    {fault : FilterFault} :
    ofParameters parameters = .error fault ↔
      parameters = [] ∧ fault = .empty ∨
      ∃ front parameter rest, parameters = front ++ parameter :: rest ∧
        (∀ place, ¬ Parameter.BadAt front place) ∧
        parameter.HasFault front fault := by
  rw [← foldlM_add_empty_eq_error_iff, ofParameters]
  cases run : parameters.foldlM Draft.add Draft.empty with
  | error reason =>
      have nonempty : parameters ≠ [] := by
        rintro rfl
        cases run
      simp [nonempty]
  | ok last =>
      obtain ⟨-, rfl⟩ := foldlM_add_empty_eq_ok_iff.mp run
      cases parameters with
      | nil => simp [Draft.extendedBy, Draft.empty, eq_comm]
      | cons parameter others => simp [Draft.extendedBy, Draft.empty]

/-- Parameters are refused for being none exactly if they are. -/
theorem ofParameters_eq_empty_iff {parameters : List Parameter} :
    ofParameters parameters = .error .empty ↔ parameters = [] := by
  constructor
  · intro refused
    obtain ⟨isNone, -⟩ | ⟨_, _, _, _, _, hasFault⟩ :=
      ofParameters_eq_error_iff.mp refused
    · exact isNone
    · cases hasFault
  · rintro rfl
    rfl

theorem ofParameters_ne_empty
    {parameters : List Parameter}
    (nonempty : parameters ≠ []) :
    ofParameters parameters ≠ .error .empty :=
  mt ofParameters_eq_empty_iff.mp nonempty

/-- Parameters give a filter exactly if there are some and none is bad behind
those before it. If one is, the first is refused for its fault, and so are all
parameters that begin like these up to it. -/
theorem first_bad_parameter_is_refused (parameters : List Parameter) :
    ((∃ filter, ofParameters parameters = .ok filter) ↔
      parameters ≠ [] ∧ ∀ place, ¬ Parameter.BadAt parameters place) ∧
    (ofParameters parameters = .error .empty ↔ parameters = []) ∧
    ∀ place, IsLeast {place | Parameter.BadAt parameters place} place ->
      ∃ parameter fault, parameters[place]? = some parameter ∧
        parameter.HasFault (parameters.take place) fault ∧
        ofParameters parameters = .error fault ∧
        ∀ rest, ofParameters (parameters.take (place + 1) ++ rest) =
          .error fault := by
  refine ⟨exists_ofParameters_eq_ok_iff, ofParameters_eq_empty_iff, ?_⟩
  intro place first
  obtain ⟨parameter, isThere, bad, good⟩ :=
    Parameter.exists_of_isLeast_badAt first
  obtain ⟨fault, hasFault⟩ := Parameter.bad_iff_exists_hasFault.mp bad
  have upToPlace : parameters.take (place + 1) =
      parameters.take place ++ [parameter] := by
    rw [List.take_add_one, isThere]
    rfl
  have refused (rest : List Parameter) :
      ofParameters (parameters.take (place + 1) ++ rest) = .error fault := by
    refine ofParameters_eq_error_iff.mpr
      (.inr ⟨parameters.take place, parameter, rest, ?_, good, hasFault⟩)
    rw [upToPlace, List.append_assoc, List.singleton_append]
  have whole := refused (parameters.drop (place + 1))
  rw [List.take_append_drop] at whole
  exact ⟨parameter, fault, isThere, hasFault, whole, refused⟩

/-- A second title without a value is refused as a duplicate, although what comes
after it may not be used to filter. -/
theorem second_title_is_refused_first :
    let title : Parameter := ("title", some "Dune")
    let parameters : List Parameter :=
      [title, ("title", none), ("id", some "1"), ("genres", none)]
    IsLeast {place | Parameter.BadAt parameters place} 1 ∧
      ofParameters parameters = .error (.duplicateField "title") ∧
      ofParameters [title, ("title", none)] =
        .error (.duplicateField "title") := by
  intro title parameters
  have goodTitle : ∀ place, ¬ Parameter.BadAt [title] place :=
    Parameter.forall_not_badAt_iff.mpr (by decide)
  have first : IsLeast {place | Parameter.BadAt parameters place} 1 :=
    Parameter.isLeast_badAt _ goodTitle (.inr (.inr rfl))
  obtain ⟨parameter, fault, isThere, hasFault, whole, alike⟩ :=
    (first_bad_parameter_is_refused parameters).2.2 1 first
  obtain rfl := Option.some.inj isThere
  have isDuplicate : fault = .duplicateField "title" := by
    cases hasFault with
    | unknownField unknown => exact absurd (by decide) unknown
    | duplicateField => rfl
    | missingValue _ new => exact absurd (by decide) new
  rw [isDuplicate] at whole alike
  exact ⟨first, whole, alike []⟩

end Filter
end BookLookup
