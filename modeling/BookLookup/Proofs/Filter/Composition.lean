import BookLookup.Proofs.Filter.Tokens

/-!
# Filters of parameters one behind the other

Parameters that are put behind others give a filter exactly if both do and they
share no field. Its groups are those of the one filter and then those of the
other, and it binds what either of them binds. Parameters in another order give
the same bindings and the same groups in that order.
-/

namespace BookLookup

/-! ## Elements in another order -/

/-- The elements at some places, in the order of these. -/
def rearranged {α : Type} (order : List Nat) (elements : List α) : List α :=
  order.filterMap (elements[·]?)

section Rearranged

variable {α β : Type}

/-- In their own order, elements are as before. -/
theorem rearranged_range (elements : List α) :
    rearranged (List.range elements.length) elements = elements := by
  induction elements with
  | nil => rfl
  | cons first others inductionHypothesis =>
      rw [rearranged, List.length_cons, List.range_succ_eq_map,
        List.filterMap_cons_some List.getElem?_cons_zero, List.filterMap_map]
      exact congrArg (first :: ·) inductionHypothesis

theorem rearranged_map
    (order : List Nat)
    (replace : α -> β)
    (elements : List α) :
    rearranged order (elements.map replace) =
      (rearranged order elements).map replace := by
  simp only [rearranged, List.getElem?_map, List.map_filterMap]

theorem rearranged_perm
    {order : List Nat}
    {elements : List α}
    (isOrder : order.Perm (List.range elements.length)) :
    (rearranged order elements).Perm elements := by
  have permuted := isOrder.filterMap (elements[·]?)
  exact permuted.trans (.of_eq (rearranged_range elements))

end Rearranged

/-! ## Texts -/

/-- The text of some groups behind others. -/
theorem Expression.render_append
    {front back : Expression}
    (frontNonempty : front ≠ [])
    (backNonempty : back ≠ []) :
    render (front ++ back) =
      render front ++ " and ".toList ++ render back := by
  induction front with
  | nil => exact absurd rfl frontNonempty
  | cons group others inductionHypothesis =>
      simp only [render, List.cons_append, List.map_cons] at *
      by_cases last : others = []
      · subst last
        rw [List.nil_append, List.map_nil, List.intercalate_singleton,
          List.intercalate_cons_of_ne_nil (by simpa using backNonempty)]
      · rw [List.intercalate_cons_of_ne_nil (by simp [last]),
          inductionHypothesis last,
          List.intercalate_cons_of_ne_nil (by simpa using last)]
        simp only [List.append_assoc]

namespace Filter

/-! ## Bindings -/

/-- A filter binds the values of its conditions and nothing else. -/
theorem get?_bindings_compiled_eq_some_iff
    {parameters : List Parameter}
    {key value : String}
    (usable : ∀ parameter ∈ parameters, Parameter.Usable parameter)
    (distinct : (parameters.map Prod.fst).Nodup) :
    (compiled parameters).bindings.get? key = some value ↔
      ∃ parameter ∈ parameters,
        (key, value) ∈ (Parameter.conditions parameter).map binding := by
  have keysDiffer :
      (((parameters.flatMap Parameter.conditions).map binding).map
        Prod.fst).Nodup := by
    rw [List.map_map]
    exact nodup_bindingKeys usable distinct
  rw [bindings_compiled_eq_ofPairs, TextMap.get?_ofPairs_eq_some_iff keysDiffer,
    List.map_flatMap, List.mem_flatMap]

/-- The bindings of a filter do not depend on the order of the parameters. -/
theorem bindings_compiled_of_perm
    {parameters permuted : List Parameter}
    (usable : ∀ parameter ∈ parameters, Parameter.Usable parameter)
    (distinct : (parameters.map Prod.fst).Nodup)
    (reordered : permuted.Perm parameters) :
    (compiled permuted).bindings = (compiled parameters).bindings := by
  have stillUsable : ∀ parameter ∈ permuted, Parameter.Usable parameter :=
    fun parameter member => usable parameter (reordered.mem_iff.mp member)
  have stillDistinct : (permuted.map Prod.fst).Nodup :=
    (reordered.map Prod.fst).nodup_iff.mpr distinct
  apply TextMap.eq_of_get?_eq
  intro key
  ext value
  rw [get?_bindings_compiled_eq_some_iff stillUsable stillDistinct,
    get?_bindings_compiled_eq_some_iff usable distinct]
  simp only [reordered.mem_iff]

/-! ## Two filters -/

/-- A filter is made of two others, the one behind the other. -/
structure Joins (first second whole : Filter) : Prop where
  /-- The groups of the second come after those of the first. -/
  expression : whole.expression = first.expression ++ second.expression
  /-- So do their texts. -/
  text : whole.text = first.text ++ " and " ++ second.text
  /-- No key has a value in both. -/
  apart : ∀ key ∈ first.bindings.keys, key ∉ second.bindings.keys
  /-- What one of them binds is bound, and nothing else. -/
  bindings : ∀ key value, whole.bindings.get? key = some value ↔
    first.bindings.get? key = some value ∨
      second.bindings.get? key = some value

/-- Parameters that are put behind others are usable and have no field twice
exactly if this holds of both and they share no field. -/
theorem exists_ofParameters_append_iff
    {front back : List Parameter}
    (frontNonempty : front ≠ [])
    (backNonempty : back ≠ []) :
    (∃ whole, ofParameters (front ++ back) = .ok whole) ↔
      (∃ first, ofParameters front = .ok first) ∧
        (∃ second, ofParameters back = .ok second) ∧
        ∀ field ∈ front.map Prod.fst, field ∉ back.map Prod.fst := by
  have nonempty : front ++ back ≠ [] := by simp [frontNonempty]
  simp only [ofParameters_eq_ok_iff, exists_and_left, exists_eq, and_true,
    frontNonempty, backNonempty, nonempty, ne_eq, not_false_eq_true, true_and,
    List.forall_mem_append, List.map_append, List.nodup_append]
  constructor
  · rintro ⟨⟨frontUsable, backUsable⟩, frontDistinct, backDistinct, apart⟩
    refine ⟨⟨frontUsable, frontDistinct⟩, ⟨backUsable, backDistinct⟩, ?_⟩
    exact fun field inFront inBack => apart field inFront field inBack rfl
  · rintro ⟨⟨frontUsable, frontDistinct⟩, ⟨backUsable, backDistinct⟩, apart⟩
    refine ⟨⟨frontUsable, backUsable⟩, frontDistinct, backDistinct, ?_⟩
    rintro field inFront _ inBack rfl
    exact apart field inFront inBack

/-- The filter of parameters behind others is made of both filters. -/
theorem joins_compiled
    {front back : List Parameter}
    (frontNonempty : front ≠ [])
    (backNonempty : back ≠ [])
    (usable : ∀ parameter ∈ front ++ back, Parameter.Usable parameter)
    (distinct : ((front ++ back).map Prod.fst).Nodup) :
    Joins (compiled front) (compiled back) (compiled (front ++ back)) := by
  obtain ⟨frontUsable, backUsable⟩ := List.forall_mem_append.mp usable
  obtain ⟨frontDistinct, backDistinct, -⟩ :=
    List.nodup_append.mp (List.map_append ▸ distinct)
  have expression : (compiled (front ++ back)).expression =
      (compiled front).expression ++ (compiled back).expression := by
    simp only [expression_compiled, List.map_append]
  constructor
  case expression => exact expression
  case text =>
    rw [text, text, text, expression, Expression.render_append
      (by simpa [expression_compiled]) (by simpa [expression_compiled])]
    simp only [String.ofList_append, String.ofList_toList]
  case apart =>
    intro key inFirst inSecond
    rw [mem_keys_bindings_compiled] at inFirst inSecond
    -- The keys of both are keys of the whole, where none comes twice.
    have keysDiffer := nodup_bindingKeys usable distinct
    rw [List.flatMap_append, List.map_append] at keysDiffer
    exact (List.nodup_append.mp keysDiffer).2.2 key inFirst key inSecond rfl
  case bindings =>
    intro key value
    rw [get?_bindings_compiled_eq_some_iff usable distinct,
      get?_bindings_compiled_eq_some_iff frontUsable frontDistinct,
      get?_bindings_compiled_eq_some_iff backUsable backDistinct]
    simp only [List.mem_append, or_and_right, exists_or]

/-- Some parameters behind others give a filter exactly if both do and they
share no field, and this is made of the filters of both. Parameters in another
order give the same bindings, and the same groups in that order. -/
theorem filters_are_joined_and_rearranged :
    (∀ front back : List Parameter, front ≠ [] -> back ≠ [] ->
      ((∃ whole, ofParameters (front ++ back) = .ok whole) ↔
        (∃ first, ofParameters front = .ok first) ∧
          (∃ second, ofParameters back = .ok second) ∧
          ∀ field ∈ front.map Prod.fst, field ∉ back.map Prod.fst) ∧
      ∀ first second whole,
        ofParameters front = .ok first ->
        ofParameters back = .ok second ->
        ofParameters (front ++ back) = .ok whole ->
        Joins first second whole) ∧
    ∀ (parameters : List Parameter) (filter : Filter) (order : List Nat),
      ofParameters parameters = .ok filter ->
      order.Perm (List.range parameters.length) ->
      ∃ permuted,
        ofParameters (rearranged order parameters) = .ok permuted ∧
          permuted.bindings = filter.bindings ∧
          permuted.expression = rearranged order filter.expression := by
  constructor
  · intro front back frontNonempty backNonempty
    refine ⟨exists_ofParameters_append_iff frontNonempty backNonempty, ?_⟩
    intro first second whole frontAccepted backAccepted accepted
    obtain ⟨-, -, -, rfl⟩ := ofParameters_eq_ok_iff.mp frontAccepted
    obtain ⟨-, -, -, rfl⟩ := ofParameters_eq_ok_iff.mp backAccepted
    obtain ⟨-, usable, distinct, rfl⟩ := ofParameters_eq_ok_iff.mp accepted
    exact joins_compiled frontNonempty backNonempty usable distinct
  · intro parameters filter order accepted isOrder
    obtain ⟨nonempty, usable, distinct, rfl⟩ :=
      ofParameters_eq_ok_iff.mp accepted
    have reordered := rearranged_perm isOrder
    refine ⟨compiled (rearranged order parameters), ?_, ?_, ?_⟩
    · refine ofParameters_eq_ok_iff.mpr ⟨?_, ?_, ?_, rfl⟩
      · rw [Ne, ← List.perm_nil]
        intro isNone
        exact nonempty (List.perm_nil.mp (reordered.symm.trans isNone))
      · intro parameter member
        exact usable parameter (reordered.mem_iff.mp member)
      · exact (reordered.map Prod.fst).nodup_iff.mpr distinct
    · exact bindings_compiled_of_perm usable distinct reordered
    · rw [expression_compiled, expression_compiled, rearranged_map]

/-- Two genres behind a title, and before it. -/
theorem genres_joined_to_title_and_rearranged :
    let title : List Parameter := [("title", some "Dune")]
    let genres : List Parameter := [("genres", some "A,B")]
    ∃ first second whole permuted,
      ofParameters title = .ok first ∧
        ofParameters genres = .ok second ∧
        ofParameters (title ++ genres) = .ok whole ∧
        Joins first second whole ∧
        ofParameters (genres ++ title) = .ok permuted ∧
        permuted.bindings = whole.bindings ∧
        permuted.expression = rearranged [1, 0] whole.expression := by
  intro title genres
  obtain ⟨joined, rearranges⟩ := filters_are_joined_and_rearranged
  obtain ⟨permuted, accepted, sameBindings, sameGroups⟩ :=
    rearranges (title ++ genres) _ [1, 0] rfl (by decide)
  refine ⟨_, _, _, permuted, rfl, rfl, rfl, ?_, accepted, sameBindings,
    sameGroups⟩
  exact (joined title genres (by decide) (by decide)).2 _ _ _ rfl rfl rfl

end Filter
end BookLookup
