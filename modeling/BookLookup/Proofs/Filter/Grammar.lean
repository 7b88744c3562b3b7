import BookLookup.Filter

/-!
# The language of filter expressions

An expression is written as groups with ` and ` between them, a group as
predicates with ` or ` between them in parentheses, and a predicate as an
equality or a containment of two words. A word is any run of characters that
have no meaning of their own in the language. The relations of this module say
which text writes what, without regard to how the text is produced.
-/

namespace BookLookup

/-- Whether a character may stand in a word, since it is not one of those that
separate words. -/
def isWordSymbol (symbol : Char) : Bool :=
  symbol ∉ [' ', '(', ')', ',', ':', '=']

/-- ASCII letters and digits may stand in a word. -/
theorem isWordSymbol_of_isAlphanum
    {symbol : Char}
    (alphanumeric : symbol.isAlphanum) :
    isWordSymbol symbol := by
  have separators : ∀ separator ∈ [' ', '(', ')', ',', ':', '='],
      separator.isAlphanum = false := by
    simp
  apply decide_eq_true
  intro member
  rw [separators symbol member] at alphanumeric
  cases alphanumeric

/-- A name that is not empty. -/
def IsWord (word : String) : Prop :=
  word.toList ≠ [] ∧ ∀ symbol ∈ word.toList, isWordSymbol symbol

instance : DecidablePred IsWord := fun word =>
  decidable_of_iff
    (word.toList ≠ [] ∧ word.toList.all isWordSymbol)
    (by rw [IsWord, List.all_eq_true])

/-- The field of a condition. -/
def Predicate.field : Predicate -> String
  | equals field _ => field
  | contains field _ => field

/-- A text of items, of which there is at least one, with a separator between
neighbours. -/
inductive Separated
    {α : Type}
    (separator : List Char)
    (Writes : α -> List Char -> Prop) : List α -> List Char -> Prop where
  | last {item : α} {text : List Char} :
      Writes item text ->
      Separated separator Writes [item] text
  | more {item : α} {others : List α} {text rest : List Char} :
      Writes item text ->
      Separated separator Writes others rest ->
      Separated separator Writes (item :: others) (text ++ separator ++ rest)

/-- The texts of a predicate. -/
inductive Predicate.Written : Predicate -> List Char -> Prop where
  | equals {field name : String} :
      IsWord field -> IsWord name ->
      Predicate.Written (.equals field name)
        (field.toList ++ " = :".toList ++ name.toList)
  | contains {field name : String} :
      IsWord field -> IsWord name ->
      Predicate.Written (.contains field name)
        ("contains(".toList ++ field.toList ++ ",:".toList ++ name.toList ++
          ")".toList)

/-- The texts of a group. -/
inductive Group.Written : Group -> List Char -> Prop where
  | parenthesized {group : Group} {text : List Char} :
      Separated " or ".toList Predicate.Written group text ->
      Group.Written group ("(".toList ++ text ++ ")".toList)

/-- The texts of an expression. -/
def Expression.Written (expression : Expression) (text : List Char) : Prop :=
  Separated " and ".toList Group.Written expression text

/-! ## What is rendered is written -/

/-- Items are written by the texts that write them, put between separators. -/
theorem Separated.of_intercalate
    {α : Type}
    {separator : List Char}
    {Writes : α -> List Char -> Prop}
    {render : α -> List Char}
    {items : List α}
    (nonempty : items ≠ [])
    (written : ∀ item ∈ items, Writes item (render item)) :
    Separated separator Writes items
      (separator.intercalate (items.map render)) := by
  induction items with
  | nil => exact absurd rfl nonempty
  | cons first others inductionHypothesis =>
      obtain ⟨firstWritten, othersWritten⟩ := List.forall_mem_cons.mp written
      cases others with
      | nil => simpa using Separated.last firstWritten
      | cons second rest =>
          have restWritten :=
            inductionHypothesis (List.cons_ne_nil _ _) othersWritten
          rw [List.map_cons, List.map_cons, List.intercalate_cons_cons]
          exact .more firstWritten restWritten

/-- The text of a condition writes it, if it names words. -/
theorem Predicate.written_render
    {predicate : Predicate}
    (fieldWord : IsWord predicate.field)
    (nameWord : IsWord predicate.placeholder) :
    Predicate.Written predicate predicate.render := by
  cases predicate with
  | equals field name => exact .equals fieldWord nameWord
  | contains field name => exact .contains fieldWord nameWord

theorem Group.written_render
    {group : Group}
    (nonempty : group ≠ [])
    (written : ∀ predicate ∈ group,
      Predicate.Written predicate predicate.render) :
    Group.Written group group.render :=
  .parenthesized (.of_intercalate nonempty written)

theorem Expression.written_render
    {expression : Expression}
    (nonempty : expression ≠ [])
    (written : ∀ group ∈ expression, Group.Written group (Group.render group)) :
    Expression.Written expression expression.render :=
  .of_intercalate nonempty written

end BookLookup
