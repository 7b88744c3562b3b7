import BookLookup.Proofs.Filter.Grammar
import Mathlib.Data.List.Basic

/-!
# Reading filter expressions

A reader for the language of filter expressions goes through a text once from
left to right. It finds everything that is written, whatever follows, so that a
text has at most one reading.
-/

namespace BookLookup

/-- The word at the beginning of a text and what follows it. -/
def word? (text : List Char) : Option (String × List Char) :=
  match text.takeWhile isWordSymbol with
  | [] => none
  | word => some (String.ofList word, text.dropWhile isWordSymbol)

/-- Whether no word goes on at the beginning of a text. -/
def StopsWord (text : List Char) : Prop :=
  ∀ symbol ∈ text.head?, isWordSymbol symbol = false

@[simp] theorem stopsWord_cons
    (symbol : Char)
    (rest : List Char) :
    StopsWord (symbol :: rest) ↔ isWordSymbol symbol = false := by
  simp [StopsWord]

/-- A word is read to its end. -/
theorem word?_append
    {word : String}
    {rest : List Char}
    (isWord : IsWord word)
    (stops : StopsWord rest) :
    word? (word.toList ++ rest) = some (word, rest) := by
  obtain ⟨nonempty, inside⟩ := isWord
  have restTaken : rest.takeWhile isWordSymbol = [] := by
    cases rest with
    | nil => rfl
    | cons symbol others =>
        rw [stopsWord_cons] at stops
        simp [stops]
  have restDropped : rest.dropWhile isWordSymbol = rest := by
    cases rest with
    | nil => rfl
    | cons symbol others =>
        rw [stopsWord_cons] at stops
        simp [stops]
  unfold word?
  rw [List.takeWhile_append_of_pos inside,
    List.dropWhile_append_of_pos inside, restTaken, restDropped,
    List.append_nil]
  cases letters : word.toList with
  | nil => exact absurd letters nonempty
  | cons first others => simp [← letters]

@[simp] theorem dropPrefix?_append_self
    (literal rest : List Char) :
    (literal ++ rest).dropPrefix? literal = some rest :=
  List.dropPrefix?_append_of_beq rest (by simp)

/-- The word behind a literal at the beginning of a text and what follows
it. -/
def wordBehind?
    (literal : String)
    (text : List Char) : Option (String × List Char) :=
  (text.dropPrefix? literal.toList).bind word?

/-- A word behind a literal is read to its end. -/
theorem wordBehind?_append
    {literal word : String}
    {rest : List Char}
    (isWord : IsWord word)
    (stops : StopsWord rest) :
    wordBehind? literal (literal.toList ++ (word.toList ++ rest)) =
      some (word, rest) := by
  rw [wordBehind?, dropPrefix?_append_self, Option.bind_some,
    word?_append isWord stops]

namespace Predicate

/-- The predicate at the beginning of a text and what follows it. -/
def read? (text : List Char) : Option (Predicate × List Char) :=
  match word? text with
  | none => none
  | some (first, rest) =>
      match wordBehind? " = :" rest with
      | some (name, after) => some (.equals first name, after)
      | none =>
          if first = "contains" then do
            let (field, afterField) <- wordBehind? "(" rest
            let (name, afterName) <- wordBehind? ",:" afterField
            let after <- afterName.dropPrefix? ")".toList
            return (.contains field name, after)
          else none

/-- A predicate is read back, whatever follows its last word. -/
theorem Written.read?_append
    {predicate : Predicate}
    {text rest : List Char}
    (written : Predicate.Written predicate text)
    (stops : StopsWord rest) :
    read? (text ++ rest) = some (predicate, rest) := by
  cases written with
  | @equals field name fieldWord nameWord =>
      have fieldRead : word? (field.toList ++
          (" = :".toList ++ (name.toList ++ rest))) =
          some (field, " = :".toList ++ (name.toList ++ rest)) :=
        word?_append fieldWord (by simp [isWordSymbol])
      simp only [List.append_assoc]
      simp only [read?, fieldRead, wordBehind?_append nameWord stops]
  | @contains field name fieldWord nameWord =>
      let arguments := "(".toList ++ (field.toList ++
        (",:".toList ++ (name.toList ++ (")".toList ++ rest))))
      have markRead : word? ("contains".toList ++ arguments) =
          some ("contains", arguments) :=
        word?_append (by decide) (by simp [arguments, isWordSymbol])
      have noEquality : wordBehind? " = :" arguments = none := by
        simp [wordBehind?, arguments, List.dropPrefix?]
      have fieldRead : wordBehind? "(" arguments =
          some (field, ",:".toList ++ (name.toList ++ (")".toList ++ rest))) :=
        wordBehind?_append fieldWord (by simp [isWordSymbol])
      have nameRead : wordBehind? ",:"
          (",:".toList ++ (name.toList ++ (")".toList ++ rest))) =
          some (name, ")".toList ++ rest) :=
        wordBehind?_append nameWord (by simp [isWordSymbol])
      have split : "contains(".toList ++ field.toList ++ ",:".toList ++
          name.toList ++ ")".toList ++ rest =
          "contains".toList ++ arguments := by
        simp [arguments]
      rw [split]
      simp only [read?, markRead, noEquality, fieldRead, nameRead, if_true,
        Option.bind_eq_bind, Option.bind_some, dropPrefix?_append_self]
      rfl

end Predicate

/-- The items at the beginning of a text, within a number of steps, and what
follows them. -/
def items?
    {α : Type}
    (separator : List Char)
    (item? : List Char -> Option (α × List Char)) :
    Nat -> List Char -> Option (List α × List Char)
  | 0, _ => none
  | steps + 1, text =>
      match item? text with
      | none => none
      | some (item, rest) =>
          match rest.dropPrefix? separator with
          | none => some ([item], rest)
          | some more =>
              (items? separator item? steps more).map fun (others, after) =>
                (item :: others, after)

/-- Separated items are read back if every item is, in front of a separator
and in front of what follows the last. -/
theorem Separated.items?_append
    {α : Type}
    {separator : List Char}
    {Writes : α -> List Char -> Prop}
    {item? : List Char -> Option (α × List Char)}
    {Stops : List Char -> Prop}
    (itemRead : ∀ item text rest,
      Writes item text -> Stops rest -> item? (text ++ rest) = some (item, rest))
    (separatorStops : ∀ rest, Stops (separator ++ rest))
    {items : List α}
    {text rest : List Char}
    (written : Separated separator Writes items text)
    (stops : Stops rest)
    (ended : rest.dropPrefix? separator = none)
    {steps : Nat}
    (enough : items.length ≤ steps) :
    items? separator item? steps (text ++ rest) = some (items, rest) := by
  induction written generalizing steps with
  | @last item text writes =>
      obtain ⟨fewer, rfl⟩ : ∃ fewer, steps = fewer + 1 :=
        ⟨steps - 1, by simp at enough; omega⟩
      simp only [items?, itemRead item text rest writes stops, ended]
  | @more item others text restText writes _ inductionHypothesis =>
      obtain ⟨fewer, rfl⟩ : ∃ fewer, steps = fewer + 1 :=
        ⟨steps - 1, by simp at enough; omega⟩
      have othersRead : items? separator item? fewer (restText ++ rest) =
          some (others, rest) :=
        inductionHypothesis (by simpa using enough)
      have firstRead := itemRead item text (separator ++ (restText ++ rest))
        writes (separatorStops _)
      simp only [List.append_assoc]
      simp only [items?, firstRead, dropPrefix?_append_self, othersRead,
        Option.map_some]

/-- There are no more items than symbols, if no item has the empty text. -/
theorem Separated.length_le
    {α : Type}
    {separator : List Char}
    {Writes : α -> List Char -> Prop}
    (nonempty : ∀ item text, Writes item text -> 1 ≤ text.length)
    {items : List α}
    {text : List Char}
    (written : Separated separator Writes items text) :
    items.length ≤ text.length := by
  induction written with
  | last writes => simpa using nonempty _ _ writes
  | more writes _ inductionHypothesis =>
      have first := nonempty _ _ writes
      simp only [List.length_cons, List.length_append]
      omega

/-- A written predicate has a symbol. -/
theorem Predicate.Written.length_pos
    {predicate : Predicate}
    {text : List Char}
    (written : Predicate.Written predicate text) :
    1 ≤ text.length := by
  cases written with
  | equals => simp only [List.length_append, String.reduceToList,
      List.length_cons]; omega
  | contains => simp only [List.length_append, String.reduceToList,
      List.length_cons]; omega

namespace Group

/-- The group at the beginning of a text and what follows it. -/
def read? (text : List Char) : Option (Group × List Char) := do
  let inside <- text.dropPrefix? "(".toList
  let (group, rest) <- items? " or ".toList Predicate.read? text.length inside
  let after <- rest.dropPrefix? ")".toList
  return (group, after)

/-- A group is read back, whatever follows its parenthesis. -/
theorem Written.read?_append
    {group : Group}
    {text : List Char}
    (rest : List Char)
    (written : Group.Written group text) :
    read? (text ++ rest) = some (group, rest) := by
  cases written with
  | @parenthesized inside separated =>
      let whole := "(".toList ++ (inside ++ (")".toList ++ rest))
      have enough : group.length ≤ whole.length := by
        have fewer := separated.length_le
          fun _ _ written => written.length_pos
        simp only [whole, List.length_append]
        omega
      have insideRead : items? " or ".toList Predicate.read? whole.length
          (inside ++ (")".toList ++ rest)) =
          some (group, ")".toList ++ rest) :=
        separated.items?_append
          (fun _ _ _ written stops => written.read?_append stops)
          (fun _ => by simp [isWordSymbol]) (by simp [isWordSymbol])
          (by simp [List.dropPrefix?]) enough
      simp only [List.append_assoc]
      change read? whole = some (group, rest)
      simp only [read?, insideRead, whole, dropPrefix?_append_self,
        Option.bind_eq_bind, Option.bind_some]
      rfl

theorem Written.length_pos
    {group : Group}
    {text : List Char}
    (written : Group.Written group text) :
    1 ≤ text.length := by
  cases written with
  | parenthesized => simp

end Group

namespace Expression

/-- The expression that a text writes. -/
def read? (text : List Char) : Option Expression :=
  match items? " and ".toList Group.read? text.length text with
  | some (expression, []) => some expression
  | _ => none

/-- An expression is read back. -/
theorem Written.read?_eq
    {expression : Expression}
    {text : List Char}
    (written : Expression.Written expression text) :
    read? text = some expression := by
  have enough : expression.length ≤ text.length :=
    Separated.length_le (fun _ _ written => written.length_pos) written
  have wholeRead : items? " and ".toList Group.read? text.length
      (text ++ []) = some (expression, []) :=
    Separated.items?_append
      (fun _ _ rest written (_ : True) => written.read?_append rest)
      (fun _ => trivial) written trivial rfl enough
  rw [List.append_nil] at wholeRead
  rw [read?, wholeRead]

/-- A text has at most one reading. -/
theorem Written.unique
    {first second : Expression}
    {text : List Char}
    (firstWritten : Expression.Written first text)
    (secondWritten : Expression.Written second text) :
    first = second := by
  have same := firstWritten.read?_eq.symm.trans secondWritten.read?_eq
  exact Option.some.inj same

end Expression

end BookLookup
