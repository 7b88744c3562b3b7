import BookLookup.Proofs.TextMap
import BookLookup.Proofs.Filter.Placeholders

/-!
# Placeholders and bindings match one to one

A placeholder is found in the text of an expression by its colon. While
parameters are read, no value is bound to a key that has one already, and the
placeholders of a finished filter are the keys of its bindings, each of which
stands in the text once.
-/

namespace BookLookup
namespace Filter

/-! ## Binding values -/

/-- Bind the value of a condition to its key, unless the key has a value. -/
def bindFresh?
    (bindings : TextMap String)
    (pair : Predicate × String) : Option (TextMap String) :=
  let key := bindingKey pair.1.placeholder
  if (bindings.get? key).isSome then none
  else some (bindings.insert key pair.2)

/-- Values are bound without meeting a key twice, if their placeholders differ
from each other and from those bound before. -/
theorem foldlM_bindFresh?
    {bindings : TextMap String}
    {bound : List (Predicate × String)}
    (distinct : (bound.map (·.1.placeholder)).Nodup)
    (fresh : ∀ pair ∈ bound,
      bindings.get? (bindingKey pair.1.placeholder) = none) :
    bound.foldlM bindFresh? bindings = some (bindValues bindings bound) := by
  induction bound generalizing bindings with
  | nil => rfl
  | cons first others inductionHypothesis =>
      obtain ⟨firstFresh, othersFresh⟩ := List.forall_mem_cons.mp fresh
      rw [List.map_cons, List.nodup_cons] at distinct
      obtain ⟨firstNew, othersDistinct⟩ := distinct
      have step : bindFresh? bindings first =
          some (bindings.insert (bindingKey first.1.placeholder) first.2) := by
        simp [bindFresh?, firstFresh]
      have stillFresh : ∀ pair ∈ others,
          (bindings.insert (bindingKey first.1.placeholder) first.2).get?
            (bindingKey pair.1.placeholder) = none := by
        intro pair member
        rw [TextMap.get?_insert, if_neg]
        · exact othersFresh pair member
        · intro same
          have placeholder := bindingKey_injective same
          exact firstNew (List.mem_map.mpr ⟨pair, member, placeholder⟩)
      rw [List.foldlM_cons, step]
      exact inductionHypothesis othersDistinct stillFresh

/-- After some parameters have been read, the values of the next one are bound
to keys that have none. -/
theorem foldlM_bindFresh?_of_add
    {front : List Parameter}
    {parameter : Parameter}
    {draft next : Draft}
    (drafted : front.foldlM Draft.add Draft.empty = .ok draft)
    (added : draft.add parameter = .ok next) :
    (Parameter.conditions parameter).foldlM bindFresh? draft.filter.bindings =
      some next.filter.bindings := by
  have together : (front ++ [parameter]).foldlM Draft.add Draft.empty =
      .ok next := by
    rw [List.foldlM_append, drafted]
    change [parameter].foldlM Draft.add draft = .ok next
    rw [List.foldlM_cons, added]
    rfl
  obtain ⟨-, -, rfl⟩ :=
    (Draft.foldlM_add_eq_ok_iff List.nodup_nil).mp drafted
  obtain ⟨usable, distinct, same⟩ :=
    (Draft.foldlM_add_eq_ok_iff List.nodup_nil).mp together
  have allDiffer := Parameter.nodup_placeholders usable distinct
  rw [List.flatMap_append, List.flatMap_singleton, List.map_append] at allDiffer
  obtain ⟨-, distinctHere, apart⟩ := List.nodup_append.mp allDiffer
  rw [foldlM_bindFresh? distinctHere]
  · rw [same]
    simp [Draft.extendedBy, bindValues_append]
  · intro pair member
    have absent : pair.1.placeholder ∉
        (front.flatMap Parameter.conditions).map (·.1.placeholder) := by
      intro met
      exact apart _ met _ (List.mem_map_of_mem member) rfl
    exact get?_bindValues_of_not_mem absent

/-! ## Placeholders in a text -/

/-- The placeholders of a text in order: every colon with the longest run of
ASCII letters and digits behind it. -/
def tokens : List Char -> List String
  | [] => []
  | symbol :: rest =>
      if symbol = ':' then
        String.ofList (':' :: rest.takeWhile Char.isAlphanum) :: tokens rest
      else tokens rest

/-- A text without a colon has no placeholder. -/
theorem tokens_append_of_not_mem
    {front : List Char}
    (back : List Char)
    (noColon : ':' ∉ front) :
    tokens (front ++ back) = tokens back := by
  induction front with
  | nil => rfl
  | cons symbol rest inductionHypothesis =>
      rw [List.mem_cons, not_or] at noColon
      obtain ⟨differs, restPlain⟩ := noColon
      rw [List.cons_append, tokens, if_neg (Ne.symm differs)]
      exact inductionHypothesis restPlain

/-- No placeholder goes on at the beginning of a text. -/
def StopsToken (text : List Char) : Prop :=
  text.takeWhile Char.isAlphanum = []

@[simp] theorem stopsToken_nil : StopsToken [] := rfl

@[simp] theorem stopsToken_cons
    (symbol : Char)
    (rest : List Char) :
    StopsToken (symbol :: rest) ↔ symbol.isAlphanum = false := by
  simp [StopsToken, List.takeWhile_cons]

/-- A run of letters and digits ends where a text stops it. -/
theorem takeWhile_append_of_stopsToken
    (front : List Char)
    {back : List Char}
    (stops : StopsToken back) :
    (front ++ back).takeWhile Char.isAlphanum =
      front.takeWhile Char.isAlphanum := by
  rw [List.takeWhile_append, stops, List.append_nil]
  split
  · rename_i wholeLength
    have whole := List.takeWhile_sublist (p := Char.isAlphanum) (l := front)
    exact (whole.eq_of_length wholeLength).symm
  · rfl

/-- The placeholders of two texts one after the other. -/
theorem tokens_append
    (front : List Char)
    {back : List Char}
    (stops : StopsToken back) :
    tokens (front ++ back) = tokens front ++ tokens back := by
  induction front with
  | nil => rfl
  | cons symbol rest inductionHypothesis =>
      rw [List.cons_append, tokens, tokens, inductionHypothesis,
        takeWhile_append_of_stopsToken rest stops]
      split
      · rfl
      · rfl

/-- A name behind the first colon is the first placeholder, if it is made of
letters and digits. -/
theorem tokens_append_colon
    {front rest : List Char}
    {name : String}
    (noColon : ':' ∉ front)
    (alphanumeric : ∀ symbol ∈ name.toList, symbol.isAlphanum)
    (stops : StopsToken rest) :
    tokens (front ++ ':' :: (name.toList ++ rest)) =
      bindingKey name :: tokens rest := by
  have nameHasNone : ':' ∉ name.toList := by
    intro member
    exact absurd (alphanumeric ':' member) (by decide)
  have key : String.ofList (':' :: name.toList) = bindingKey name := by
    rw [bindingKey, ← String.toList_inj]
    simp
  rw [tokens_append_of_not_mem _ noColon, tokens, if_pos rfl,
    takeWhile_append_of_stopsToken _ stops,
    List.takeWhile_eq_self_iff.mpr alphanumeric, key,
    tokens_append_of_not_mem rest nameHasNone]

/-- The placeholders of texts with a separator between them that neither has
nor continues any. -/
theorem tokens_intercalate
    {separator : List Char}
    (noColon : ':' ∉ separator)
    (stops : ∀ rest, StopsToken (separator ++ rest))
    (parts : List (List Char)) :
    tokens (separator.intercalate parts) = parts.flatMap tokens := by
  induction parts with
  | nil => rfl
  | cons first others inductionHypothesis =>
      cases others with
      | nil => simp
      | cons second more =>
          rw [List.intercalate_cons_cons, List.append_assoc,
            tokens_append first (stops _),
            tokens_append_of_not_mem _ noColon, inductionHypothesis,
            List.flatMap_cons (x := first)]

/-! ## The placeholders of a filter -/

/-- The placeholder of a field of letters is made of letters and digits. -/
theorem isAlphanum_of_mem_placeholders
    {field placeholder : String}
    {count : Nat}
    (letters : ∀ symbol ∈ field.toList, symbol.isAlpha)
    (member : placeholder ∈ placeholders field count) :
    ∀ symbol ∈ placeholder.toList, symbol.isAlphanum := by
  intro symbol inPlaceholder
  rcases mem_placeholders member with rfl | ⟨index, rfl⟩
  · simp [Char.isAlphanum, letters symbol inPlaceholder]
  · rw [indexedName, String.toList_append, Decimal.text,
      String.toList_ofList] at inPlaceholder
    rcases List.mem_append.mp inPlaceholder with inField | inDigits
    · simp [Char.isAlphanum, letters symbol inField]
    · simp [Char.isAlphanum, Decimal.isDigit_of_mem_digits inDigits]

/-- The text of a condition has its placeholder, if the field is a name of
letters and the placeholder one of letters and digits. -/
theorem tokens_render_condition
    {field name : String}
    (letters : ∀ symbol ∈ field.toList, symbol.isAlpha)
    (alphanumeric : ∀ symbol ∈ name.toList, symbol.isAlphanum)
    (multiplicity : Multiplicity) :
    tokens (condition field name multiplicity).render = [bindingKey name] := by
  have noColon : ':' ∉ field.toList := by
    intro member
    have isLetter := letters ':' member
    revert isLetter
    decide
  cases multiplicity with
  | one =>
      have literal : " = :".toList = " = ".toList ++ [':'] := rfl
      have shape : (condition field name .one).render =
          (field.toList ++ " = ".toList) ++ ':' :: (name.toList ++ []) := by
        change field.toList ++ " = :".toList ++ name.toList = _
        rw [literal]
        simp only [List.append_assoc, List.singleton_append, List.append_nil]
      have before : ':' ∉ field.toList ++ " = ".toList := by
        simp [noColon]
      rw [shape, tokens_append_colon before alphanumeric stopsToken_nil, tokens]
  | many =>
      have literal : ",:".toList = [','] ++ [':'] := rfl
      have shape : (condition field name .many).render =
          ("contains(".toList ++ field.toList ++ [',']) ++
            ':' :: (name.toList ++ [')']) := by
        change "contains(".toList ++ field.toList ++ ",:".toList ++
          name.toList ++ [')'] = _
        rw [literal]
        simp only [List.append_assoc, List.cons_append, List.nil_append]
      have before : ':' ∉ "contains(".toList ++ field.toList ++ [','] := by
        simp [noColon]
      have stops : StopsToken [')'] := by simp
      have noMore : tokens [')'] = [] := rfl
      rw [shape, tokens_append_colon before alphanumeric stops, noMore]

/-- The text of a group has the placeholders of its conditions. -/
theorem tokens_render_group (group : Group) :
    tokens group.render = group.flatMap fun predicate =>
      tokens predicate.render := by
  have shape : group.render =
      ['('] ++ (" or ".toList.intercalate (group.map Predicate.render) ++
        [')']) := rfl
  have stops : StopsToken [')'] := by simp
  rw [shape, tokens_append_of_not_mem _ (by simp), tokens_append _ stops,
    tokens_intercalate (by simp) (by simp), List.flatMap_map]
  exact List.append_nil _

theorem tokens_render_expression (expression : Expression) :
    tokens expression.render = expression.flatMap fun group =>
      tokens (Group.render group) := by
  rw [Expression.render, tokens_intercalate (by simp) (by simp),
    List.flatMap_map]

/-- The text of a filter has the keys of its values, in order. -/
theorem tokens_text_compiled
    {parameters : List Parameter}
    (usable : ∀ parameter ∈ parameters, Parameter.Usable parameter) :
    tokens (compiled parameters).text.toList =
      (parameters.flatMap Parameter.conditions).map fun pair =>
        bindingKey pair.1.placeholder := by
  rw [text, String.toList_ofList, tokens_render_expression,
    expression_compiled, List.flatMap_map, List.map_flatMap]
  apply List.flatMap_congr
  intro parameter isParameter
  obtain ⟨field, multiplicity, value, -, filterable, conditionsEq⟩ :=
    (usable parameter isParameter).exists_eq
  have letters := (isAlpha_of_filterable? filterable).2
  rw [tokens_render_group, List.flatMap_map, conditionsEq,
    List.map_eq_flatMap]
  apply List.flatMap_congr
  intro pair isCondition
  obtain ⟨name, isName, shape⟩ := fst_of_mem_conditions isCondition
  have pairName : pair.1.placeholder = name := by
    rw [shape]
    cases multiplicity with
    | one => rfl
    | many => rfl
  rw [pairName, shape]
  exact tokens_render_condition letters
    (isAlphanum_of_mem_placeholders letters isName) multiplicity

/-- The keys of the values of a filter are those of its conditions. -/
theorem mem_keys_bindings_compiled
    {parameters : List Parameter}
    {key : String} :
    key ∈ (compiled parameters).bindings.keys ↔
      key ∈ (parameters.flatMap Parameter.conditions).map fun pair =>
        bindingKey pair.1.placeholder := by
  rw [bindings_compiled_eq_ofPairs, TextMap.mem_keys_ofPairs, List.map_map]
  rfl

/-- The values of each parameter that is read are bound to keys without a value,
whatever comes behind it, and the placeholders in the text of a filter are the
keys of its values, each once. -/
theorem placeholders_bound_once_and_named_once (parameters : List Parameter) :
    (∀ front parameter rest draft next,
      parameters = front ++ parameter :: rest ->
      front.foldlM Draft.add Draft.empty = .ok draft ->
      draft.add parameter = .ok next ->
      (Parameter.conditions parameter).foldlM bindFresh?
        draft.filter.bindings = some next.filter.bindings) ∧
    ∀ filter, ofParameters parameters = .ok filter ->
      (tokens filter.text.toList).Nodup ∧
        (∀ token, token ∈ tokens filter.text.toList ↔
          token ∈ filter.bindings.keys) ∧
        filter.bindings.keys ≠ [] := by
  constructor
  · intro front parameter rest draft next _ drafted added
    exact foldlM_bindFresh?_of_add drafted added
  · intro filter accepted
    obtain ⟨nonempty, usable, distinct, rfl⟩ :=
      ofParameters_eq_ok_iff.mp accepted
    have allDiffer := Parameter.nodup_placeholders usable distinct
    rw [tokens_text_compiled usable]
    refine ⟨?_, fun token => mem_keys_bindings_compiled.symm, ?_⟩
    · have keysDiffer := allDiffer.map bindingKey_injective
      rw [List.map_map] at keysDiffer
      exact keysDiffer
    · obtain ⟨first, others, rfl⟩ := List.exists_cons_of_ne_nil nonempty
      obtain ⟨field, multiplicity, value, -, -, conditionsEq⟩ :=
        (usable first List.mem_cons_self).exists_eq
      obtain ⟨pair, more, shape⟩ := List.exists_cons_of_ne_nil
        (conditions_ne_nil field multiplicity value)
      have member : bindingKey pair.1.placeholder ∈
          (compiled (first :: others)).bindings.keys := by
        rw [mem_keys_bindings_compiled, List.flatMap_cons, conditionsEq, shape]
        exact List.mem_cons_self
      exact List.ne_nil_of_mem member

/-- A field with two values behind a title, and the same before a parameter that
is rejected. -/
theorem placeholders_of_title_and_genres :
    (∃ filter,
      ofParameters [("title", some "Dune"), ("genres", some "A,B")] =
          .ok filter ∧
        (tokens filter.text.toList).Nodup ∧
        (∀ token, token ∈ tokens filter.text.toList ↔
          token ∈ filter.bindings.keys) ∧
        filter.bindings.keys ≠ []) ∧
      ∃ draft next,
        [("title", some "Dune")].foldlM Draft.add Draft.empty = .ok draft ∧
          draft.add ("genres", some "A,B") = .ok next ∧
          (Parameter.conditions ("genres", some "A,B")).foldlM bindFresh?
            draft.filter.bindings = some next.filter.bindings := by
  constructor
  · exact ⟨_, rfl, (placeholders_bound_once_and_named_once
      [("title", some "Dune"), ("genres", some "A,B")]).2 _ rfl⟩
  · have bound := (placeholders_bound_once_and_named_once
      [("title", some "Dune"), ("genres", some "A,B"), ("isbn", none)]).1
    exact ⟨_, _, rfl, rfl, bound [("title", some "Dune")]
      ("genres", some "A,B") [("isbn", none)] _ _ rfl rfl rfl⟩

end Filter
end BookLookup
