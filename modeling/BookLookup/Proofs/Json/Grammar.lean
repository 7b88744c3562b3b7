import BookLookup.Proofs.Elementwise
import BookLookup.Proofs.Json.Literal
import BookLookup.Proofs.Json.Number
import Mathlib.Data.List.DropRight

/-!
# The grammar of values

A text writes a value by the standard grammar: a word, a number, a string
literal, or a sequence of elements or of members in brackets, with white space
around every part. Every text of the grammar is read as the value that it
writes, in at most two steps for each character.
-/

namespace BookLookup
namespace Json

/-! ## What texts write -/

/-- White space, or nothing. -/
def IsSpacing (text : List Char) : Prop :=
  ∀ symbol ∈ text, symbol ∈ [' ', '\n', '\t', '\r']

theorem isSpacing_nil : IsSpacing [] :=
  fun _ member => absurd member List.not_mem_nil

/-- What a stretch of text may write. -/
inductive Part where
  | value (value : Json)
  /-- A value with white space around it. -/
  | spaced (value : Json)
  /-- The elements of an array between its brackets. -/
  | elements (elements : List Json)
  /-- A name and the value that stands behind it. -/
  | member (member : String × Json)
  /-- The members of an object between its braces. -/
  | members (members : List (String × Json))

/-- A text writes a value or a part of one. -/
inductive Writes : List Char -> Part -> Prop where
  | null : Writes "null".toList (.value .null)
  | yes : Writes "true".toList (.value (.bool true))
  | no : Writes "false".toList (.value (.bool false))
  /-- A number is kept as it is written. -/
  | number
      {text : List Char}
      (isNumber : IsNumber text) :
      Writes text (.value (.number (String.ofList text)))
  /-- A literal between its marks. -/
  | string
      {literal text : List Char}
      (writesText : WritesText literal text) :
      Writes ('"' :: (literal ++ ['"'])) (.value (.string (String.ofList text)))
  | noElements
      {space : List Char}
      (isSpacing : IsSpacing space) :
      Writes ('[' :: (space ++ [']'])) (.value (.array []))
  | array
      {text : List Char}
      {elements : List Json}
      (writes : Writes text (.elements elements)) :
      Writes ('[' :: (text ++ [']'])) (.value (.array elements))
  | noMembers
      {space : List Char}
      (isSpacing : IsSpacing space) :
      Writes ('\x7b' :: (space ++ ['\x7d'])) (.value (.object []))
  | object
      {text : List Char}
      {members : List (String × Json)}
      (writes : Writes text (.members members)) :
      Writes ('\x7b' :: (text ++ ['\x7d'])) (.value (.object members))
  /-- White space may stand around a value. -/
  | spaced
      {front text back : List Char}
      {value : Json}
      (frontSpacing : IsSpacing front)
      (writes : Writes text (.value value))
      (backSpacing : IsSpacing back) :
      Writes (front ++ (text ++ back)) (.spaced value)
  /-- The last element stands alone. -/
  | lastElement
      {text : List Char}
      {value : Json}
      (writes : Writes text (.spaced value)) :
      Writes text (.elements [value])
  /-- A comma stands behind every other element. -/
  | nextElement
      {text more : List Char}
      {value : Json}
      {others : List Json}
      (writes : Writes text (.spaced value))
      (writesOthers : Writes more (.elements others)) :
      Writes (text ++ ',' :: more) (.elements (value :: others))
  /-- A colon stands between a name and its value. -/
  | member
      {front literal name back text : List Char}
      {value : Json}
      (frontSpacing : IsSpacing front)
      (writesName : WritesText literal name)
      (backSpacing : IsSpacing back)
      (writes : Writes text (.spaced value)) :
      Writes (front ++ '"' :: (literal ++ '"' :: (back ++ ':' :: text)))
        (.member (String.ofList name, value))
  /-- The last member stands alone. -/
  | lastMember
      {text : List Char}
      {member : String × Json}
      (writes : Writes text (.member member)) :
      Writes text (.members [member])
  /-- A comma stands behind every other member. -/
  | nextMember
      {text more : List Char}
      {member : String × Json}
      {others : List (String × Json)}
      (writes : Writes text (.member member))
      (writesOthers : Writes more (.members others)) :
      Writes (text ++ ',' :: more) (.members (member :: others))

theorem Writes.unspaced
    {text : List Char}
    {value : Json}
    (writes : Writes text (.value value)) :
    Writes text (.spaced value) := by
  simpa using Writes.spaced isSpacing_nil writes isSpacing_nil

/-! ## White space -/

/-- White space is not skipped where there is none. -/
theorem skipSpace_cons
    {symbol : Char}
    (noSpace : symbol ∉ [' ', '\n', '\t', '\r'])
    (rest : List InputUnit) :
    skipSpace (some symbol :: rest) = some symbol :: rest := by
  have stays : isSpace (some symbol) = false := by
    simpa [isSpace, and_assoc] using noSpace
  rw [skipSpace, List.dropWhile_cons_of_neg (by simp [stays])]

/-- White space is skipped. -/
theorem IsSpacing.skipSpace_append
    {space : List Char}
    (isSpacing : IsSpacing space)
    (rest : List InputUnit) :
    skipSpace (space.map some ++ rest) = skipSpace rest := by
  refine List.dropWhile_append_of_pos fun next member => ?_
  obtain ⟨symbol, inSpace, rfl⟩ := List.mem_map.mp member
  simpa [isSpace, or_assoc] using isSpacing symbol inSpace

/-- White space in front of a value is skipped. -/
theorem IsSpacing.value?_append
    {space : List Char}
    (isSpacing : IsSpacing space)
    (steps : Nat)
    (rest : List InputUnit) :
    value? steps (space.map some ++ rest) = value? steps rest := by
  cases steps with
  | zero => simp only [value?]
  | succ steps => rw [value?, value?, isSpacing.skipSpace_append]

/-- White space does not go on with a number. -/
theorem IsSpacing.stopsNumber
    {space : List Char}
    (isSpacing : IsSpacing space)
    {rest : List InputUnit}
    (stops : StopsNumber rest) :
    StopsNumber (space.map some ++ rest) := by
  cases space with
  | nil => exact stops
  | cons first others =>
      have spaces : ∀ symbol ∈ [' ', '\n', '\t', '\r'],
          isDigit (some symbol) = false ∧
            some symbol ∉ [some '.', some 'e', some 'E'] := by
        simp [isDigit]
      intro next isNext
      obtain rfl := Option.mem_some_iff.mp isNext
      exact spaces first (isSpacing first List.mem_cons_self)

/-- A mark between or behind values does not go on with a number. -/
theorem stopsNumber_cons
    {mark : Char}
    (isMark : mark ∈ [',', ']', '\x7d'])
    (rest : List InputUnit) :
    StopsNumber (some mark :: rest) := by
  have marks : ∀ mark ∈ [',', ']', '\x7d'], isDigit (some mark) = false ∧
      some mark ∉ [some '.', some 'e', some 'E'] := by
    simp [isDigit]
  intro next isNext
  obtain rfl := Option.mem_some_iff.mp isNext
  exact marks mark isMark

/-! ## First symbols -/

/-- A value begins with a symbol that is no space and closes nothing. -/
theorem Writes.exists_eq_cons
    {text : List Char}
    {value : Json}
    (writes : Writes text (.value value)) :
    ∃ first others, text = first :: others ∧
      first ∉ [' ', '\n', '\t', '\r', ']'] := by
  cases writes with
  | null => exact ⟨'n', _, rfl, by decide⟩
  | yes => exact ⟨'t', _, rfl, by decide⟩
  | no => exact ⟨'f', _, rfl, by decide⟩
  | number isNumber =>
      obtain ⟨first, others, shape, isFirst⟩ := isNumber.exists_eq_cons
      have noNumbers : ∀ symbol ∈ [' ', '\n', '\t', '\r', ']'],
          ¬ (symbol = '-' ∨ symbol.isDigit) := by
        simp
      exact ⟨first, others, shape, fun member => noNumbers _ member isFirst⟩
  | string _ => exact ⟨'"', _, rfl, by decide⟩
  | noElements _ => exact ⟨'[', _, rfl, by decide⟩
  | array _ => exact ⟨'[', _, rfl, by decide⟩
  | noMembers _ => exact ⟨'\x7b', _, rfl, by decide⟩
  | object _ => exact ⟨'\x7b', _, rfl, by decide⟩

/-- Behind the white space in front of it, a value does not close a bracket. -/
theorem Writes.skipSpace_spaced
    {text : List Char}
    {value : Json}
    (writes : Writes text (.spaced value))
    (rest : List InputUnit) :
    ∃ first others, skipSpace (text.map some ++ rest) = some first :: others ∧
      first ≠ ']' := by
  cases writes with
  | spaced frontSpacing core backSpacing =>
      obtain ⟨first, others, rfl, opens⟩ := core.exists_eq_cons
      have noSpace : first ∉ [' ', '\n', '\t', '\r'] :=
        fun member => opens (List.mem_append_left [']'] member)
      rw [List.map_append, List.append_assoc, frontSpacing.skipSpace_append,
        List.cons_append, List.map_cons, List.cons_append,
        skipSpace_cons noSpace]
      exact ⟨first, _, rfl, fun closes => opens (by simp [closes])⟩

/-- Elements do not close a bracket. -/
theorem Writes.skipSpace_elements
    {text : List Char}
    {elements : List Json}
    (writes : Writes text (.elements elements))
    (rest : List InputUnit) :
    ∃ first others, skipSpace (text.map some ++ rest) = some first :: others ∧
      first ≠ ']' := by
  cases writes with
  | lastElement writes => exact writes.skipSpace_spaced rest
  | nextElement writes writesOthers =>
      rw [List.map_append, List.append_assoc]
      exact writes.skipSpace_spaced _

/-- A member begins with a mark. -/
theorem Writes.skipSpace_member
    {text : List Char}
    {member : String × Json}
    (writes : Writes text (.member member))
    (rest : List InputUnit) :
    ∃ others, skipSpace (text.map some ++ rest) = some '"' :: others := by
  cases writes with
  | member frontSpacing _ _ _ =>
      rw [List.map_append, List.append_assoc, frontSpacing.skipSpace_append,
        List.map_cons, List.cons_append, skipSpace_cons (by decide)]
      exact ⟨_, rfl⟩

/-- Members begin with a mark. -/
theorem Writes.skipSpace_members
    {text : List Char}
    {members : List (String × Json)}
    (writes : Writes text (.members members))
    (rest : List InputUnit) :
    ∃ others, skipSpace (text.map some ++ rest) = some '"' :: others := by
  cases writes with
  | lastMember writes => exact writes.skipSpace_member rest
  | nextMember writes writesOthers =>
      rw [List.map_append, List.append_assoc]
      exact writes.skipSpace_member _

/-! ## How values are opened -/

/-- A value that begins with a sign or a digit is a number. -/
theorem value?_number
    {symbol : Char}
    (opens : symbol = '-' ∨ symbol.isDigit)
    (steps : Nat)
    (rest : List InputUnit) :
    value? (steps + 1) (some symbol :: rest) =
      number? (some symbol :: rest) := by
  have others : ∀ other ∈ [' ', '\n', '\t', '\r', 'n', 't', 'f', '"', '[',
      '\x7b'], ¬ (other = '-' ∨ other.isDigit) := by
    simp
  have noSpace : symbol ∉ [' ', '\n', '\t', '\r'] := by
    intro member
    exact others symbol (List.mem_append_left _ member) opens
  rw [value?, skipSpace_cons noSpace]
  split
  case h_7 => rfl
  all_goals
    rename_i same
    obtain rfl := Option.some.inj (List.cons.inj same).1
    exact absurd opens (by decide)

theorem skipSpace_skipSpace (input : List InputUnit) :
    skipSpace (skipSpace input) = skipSpace input :=
  List.dropWhile_idempotent ..

/-- The input after the white space in front of it is read as elements alike. -/
theorem elements?_skipSpace
    (steps : Nat)
    (input : List InputUnit) :
    elements? steps (skipSpace input) = elements? steps input := by
  have valueAlike (steps : Nat) :
      value? steps (skipSpace input) = value? steps input := by
    cases steps with
    | zero => simp only [value?]
    | succ steps => rw [value?, value?, skipSpace_skipSpace]
  cases steps with
  | zero => simp only [elements?]
  | succ steps => rw [elements?, elements?, valueAlike]

theorem members?_skipSpace
    (steps : Nat)
    (input : List InputUnit) :
    members? steps (skipSpace input) = members? steps input := by
  cases steps with
  | zero => simp only [members?]
  | succ steps => rw [members?, members?, skipSpace_skipSpace]

/-- An array is read by its elements, unless it is closed at once. -/
theorem value?_array
    {input : List InputUnit}
    {first : Char}
    {others : List InputUnit}
    (opens : skipSpace input = some first :: others)
    (notClosed : first ≠ ']')
    (steps : Nat) :
    value? (steps + 1) (some '[' :: input) =
      (elements? steps input).map fun (elements, after) =>
        (.array elements, after) := by
  rw [← elements?_skipSpace steps input]
  simp only [value?, skipSpace_cons (by decide : '[' ∉ _), opens]
  split
  · rename_i same
    exact absurd (Option.some.inj (List.cons.inj same).1) notClosed
  · rfl

/-- An object is read by its members, unless it is closed at once. -/
theorem value?_object
    {input others : List InputUnit}
    (opens : skipSpace input = some '"' :: others)
    (steps : Nat) :
    value? (steps + 1) (some '\x7b' :: input) =
      (members? steps input).map fun (members, after) =>
        (ofMembers members, after) := by
  rw [← members?_skipSpace steps input]
  simp only [value?, skipSpace_cons (by decide : '\x7b' ∉ _), opens]
  rfl

/-! ## How sequences go on -/

/-- An element in front of a bracket is the last. -/
theorem elements?_last
    {steps : Nat}
    {input after rest : List InputUnit}
    {value : Json}
    (read : value? steps input = some (value, after))
    (skipped : skipSpace after = skipSpace (some ']' :: rest)) :
    elements? (steps + 1) input = some ([value], rest) := by
  simp only [elements?, read, skipped, skipSpace_cons (by decide : ']' ∉ _)]

/-- Behind an element in front of a comma there are more. -/
theorem elements?_next
    {steps : Nat}
    {input after more : List InputUnit}
    {value : Json}
    (read : value? steps input = some (value, after))
    (skipped : skipSpace after = skipSpace (some ',' :: more)) :
    elements? (steps + 1) input =
      (elements? steps more).map fun (others, after) =>
        (value :: others, after) := by
  simp only [elements?, read, skipped, skipSpace_cons (by decide : ',' ∉ _)]

/-- A name and a value are read from some input up to what follows them. -/
def ReadsMember
    (steps : Nat)
    (input : List InputUnit)
    (member : String × Json)
    (rest : List InputUnit) : Prop :=
  ∃ nameInput afterName valueInput after,
    skipSpace input = some '"' :: nameInput ∧
    string? nameInput = some (some member.1, afterName) ∧
    skipSpace afterName = some ':' :: valueInput ∧
    value? steps valueInput = some (member.2, after) ∧
    skipSpace after = skipSpace rest

/-- A member in front of a brace is the last. -/
theorem ReadsMember.members?_last
    {steps : Nat}
    {input rest : List InputUnit}
    {member : String × Json}
    (reads : ReadsMember steps input member (some '\x7d' :: rest)) :
    members? (steps + 1) input = some ([(some member.1, member.2)], rest) := by
  obtain ⟨_, _, _, after, opens, named, colon, read, skipped⟩ := reads
  simp only [members?, opens, named, colon, read, skipped,
    skipSpace_cons (by decide : '\x7d' ∉ _)]

/-- Behind a member in front of a comma there are more. -/
theorem ReadsMember.members?_next
    {steps : Nat}
    {input more : List InputUnit}
    {member : String × Json}
    (reads : ReadsMember steps input member (some ',' :: more)) :
    members? (steps + 1) input =
      (members? steps more).map fun (others, after) =>
        ((some member.1, member.2) :: others, after) := by
  obtain ⟨_, _, _, after, opens, named, colon, read, skipped⟩ := reads
  simp only [members?, opens, named, colon, read, skipped,
    skipSpace_cons (by decide : ',' ∉ _)]

/-- Members whose names are texts are an object. -/
theorem ofMembers_map (members : List (String × Json)) :
    ofMembers (members.map fun member => (some member.1, member.2)) =
      .object members := by
  have named : (members.map fun member => (some member.1, member.2)).mapM
      (fun member : Option String × Json =>
        member.1.map fun name => (name, member.2)) = some members := by
    have each : members.mapM (fun member => some (member.1, member.2)) =
        some (members.map id) :=
      Elementwise.mapM_eq_some_map fun _ _ => rfl
    rw [List.map_id] at each
    rw [List.mapM_map]
    exact each
  rw [ofMembers, named]

/-! ## Texts are read -/

/-- A text is read as the part that it writes, whatever follows it that does not
go on with the part. -/
def Part.IsRead (text : List Char) : Part -> Prop
  | .value json => ∀ steps rest, 2 * text.length ≤ steps + 1 ->
      StopsNumber rest ->
      value? steps (text.map some ++ rest) = some (json, rest)
  | .spaced json => ∀ steps rest, 2 * text.length ≤ steps + 1 ->
      StopsNumber rest ->
      ∃ after, value? steps (text.map some ++ rest) = some (json, after) ∧
        skipSpace after = skipSpace rest
  | .elements values => ∀ steps rest, 2 * (text.length + 1) ≤ steps ->
      elements? steps (text.map some ++ some ']' :: rest) = some (values, rest)
  | .member named => ∀ steps rest, 2 * text.length ≤ steps + 1 ->
      StopsNumber rest ->
      ReadsMember steps (text.map some ++ rest) named rest
  | .members named => ∀ steps rest, 2 * (text.length + 1) ≤ steps ->
      members? steps (text.map some ++ some '\x7d' :: rest) =
        some (named.map fun member => (some member.1, member.2), rest)

/-- A value is read if it is within more than no steps. -/
theorem Writes.isRead_of_succ
    {text : List Char}
    {value : Json}
    (writes : Writes text (.value value))
    (read : ∀ steps rest, 2 * text.length ≤ steps + 2 -> StopsNumber rest ->
      value? (steps + 1) (text.map some ++ rest) = some (value, rest)) :
    (Part.value value).IsRead text := by
  obtain ⟨first, others, shape, -⟩ := writes.exists_eq_cons
  intro steps rest enough stops
  cases steps with
  | zero =>
      rw [shape, List.length_cons] at enough
      omega
  | succ steps => exact read steps rest enough stops

/-- An array is read if its elements are. -/
theorem Writes.isRead_array
    {text : List Char}
    {elements : List Json}
    (writes : Writes text (.elements elements))
    (isRead : (Part.elements elements).IsRead text) :
    (Part.value (.array elements)).IsRead ('[' :: (text ++ [']'])) := by
  refine (Writes.array writes).isRead_of_succ fun steps rest enough _ => ?_
  simp only [List.length_cons, List.length_append, List.length_nil] at enough
  have read := isRead steps rest (by omega)
  obtain ⟨first, others, opens, notClosed⟩ :=
    writes.skipSpace_elements (some ']' :: rest)
  rw [List.map_cons, List.map_append, List.cons_append, List.append_assoc]
  change value? (steps + 1) (some '[' :: (_ ++ some ']' :: rest)) = _
  rw [value?_array opens notClosed, read]
  rfl

/-- An object is read if its members are. -/
theorem Writes.isRead_object
    {text : List Char}
    {members : List (String × Json)}
    (writes : Writes text (.members members))
    (isRead : (Part.members members).IsRead text) :
    (Part.value (.object members)).IsRead ('\x7b' :: (text ++ ['\x7d'])) := by
  refine (Writes.object writes).isRead_of_succ fun steps rest enough _ => ?_
  simp only [List.length_cons, List.length_append, List.length_nil] at enough
  have read := isRead steps rest (by omega)
  obtain ⟨others, opens⟩ := writes.skipSpace_members (some '\x7d' :: rest)
  rw [List.map_cons, List.map_append, List.cons_append, List.append_assoc]
  change value? (steps + 1) (some '\x7b' :: (_ ++ some '\x7d' :: rest)) = _
  simp only [value?_object opens, read, Option.map_some, ofMembers_map]

/-- A value is read with white space around it. -/
theorem Part.IsRead.spaced
    {front text back : List Char}
    {json : Json}
    (frontSpacing : IsSpacing front)
    (isRead : (Part.value json).IsRead text)
    (backSpacing : IsSpacing back) :
    (Part.spaced json).IsRead (front ++ (text ++ back)) := by
  intro steps rest enough stops
  simp only [List.length_append] at enough
  have read := isRead steps (back.map some ++ rest) (by omega)
    (backSpacing.stopsNumber stops)
  refine ⟨back.map some ++ rest, ?_, backSpacing.skipSpace_append rest⟩
  rw [List.map_append, List.map_append, List.append_assoc, List.append_assoc,
    frontSpacing.value?_append, read]

/-- One element is read. -/
theorem Part.IsRead.lastElement
    {text : List Char}
    {json : Json}
    (isRead : (Part.spaced json).IsRead text) :
    (Part.elements [json]).IsRead text := by
  intro steps rest enough
  cases steps with
  | zero => omega
  | succ steps =>
      obtain ⟨after, read, skipped⟩ := isRead steps (some ']' :: rest)
        (by omega) (stopsNumber_cons (by decide) rest)
      exact elements?_last read skipped

/-- An element is read in front of others. -/
theorem Part.IsRead.nextElement
    {text more : List Char}
    {json : Json}
    {others : List Json}
    (isRead : (Part.spaced json).IsRead text)
    (othersRead : (Part.elements others).IsRead more) :
    (Part.elements (json :: others)).IsRead (text ++ ',' :: more) := by
  intro steps rest enough
  simp only [List.length_append, List.length_cons] at enough
  cases steps with
  | zero => omega
  | succ steps =>
      obtain ⟨after, read, skipped⟩ := isRead steps
        (some ',' :: (more.map some ++ some ']' :: rest)) (by omega)
        (stopsNumber_cons (by decide) _)
      have readMore := othersRead steps rest (by omega)
      rw [List.map_append, List.map_cons, List.append_assoc, List.cons_append,
        elements?_next read skipped, readMore]
      rfl

/-- A member is read if its value is. -/
theorem Part.IsRead.member
    {front literal name back text : List Char}
    {json : Json}
    (frontSpacing : IsSpacing front)
    (writesName : WritesText literal name)
    (backSpacing : IsSpacing back)
    (isRead : (Part.spaced json).IsRead text) :
    (Part.member (String.ofList name, json)).IsRead
      (front ++ '"' :: (literal ++ '"' :: (back ++ ':' :: text))) := by
  intro steps rest enough stops
  simp only [List.length_append, List.length_cons] at enough
  obtain ⟨after, read, skipped⟩ := isRead steps rest (by omega) stops
  let afterName := back.map some ++ some ':' :: (text.map some ++ rest)
  refine ⟨_, afterName, _, after, ?_, writesName.string?_append _, ?_, read,
    skipped⟩
  · simp only [List.map_append, List.map_cons, List.append_assoc,
      List.cons_append, frontSpacing.skipSpace_append,
      skipSpace_cons (by decide : '"' ∉ _)]
    rfl
  · rw [backSpacing.skipSpace_append, skipSpace_cons (by decide)]

/-- One member is read. -/
theorem Part.IsRead.lastMember
    {text : List Char}
    {named : String × Json}
    (isRead : (Part.member named).IsRead text) :
    (Part.members [named]).IsRead text := by
  intro steps rest enough
  cases steps with
  | zero => omega
  | succ steps =>
      have reads := isRead steps (some '\x7d' :: rest) (by omega)
        (stopsNumber_cons (by decide) rest)
      rw [reads.members?_last]
      rfl

/-- A member is read in front of others. -/
theorem Part.IsRead.nextMember
    {text more : List Char}
    {named : String × Json}
    {others : List (String × Json)}
    (isRead : (Part.member named).IsRead text)
    (othersRead : (Part.members others).IsRead more) :
    (Part.members (named :: others)).IsRead (text ++ ',' :: more) := by
  intro steps rest enough
  simp only [List.length_append, List.length_cons] at enough
  cases steps with
  | zero => omega
  | succ steps =>
      have reads := isRead steps
        (some ',' :: (more.map some ++ some '\x7d' :: rest)) (by omega)
        (stopsNumber_cons (by decide) _)
      have readMore := othersRead steps rest (by omega)
      rw [List.map_append, List.map_cons, List.append_assoc, List.cons_append,
        reads.members?_next, readMore]
      rfl

/-- A text of the grammar is read as the part that it writes. -/
theorem Writes.isRead
    {text : List Char}
    {part : Part}
    (writes : Writes text part) :
    part.IsRead text := by
  induction writes with
  | null =>
      refine Writes.null.isRead_of_succ fun steps rest _ _ => ?_
      simp [value?, skipSpace_cons, afterWord?]
  | yes =>
      refine Writes.yes.isRead_of_succ fun steps rest _ _ => ?_
      simp [value?, skipSpace_cons, afterWord?]
  | no =>
      refine Writes.no.isRead_of_succ fun steps rest _ _ => ?_
      simp [value?, skipSpace_cons, afterWord?]
  | number isNumber =>
      refine (Writes.number isNumber).isRead_of_succ fun steps rest _ stops => ?_
      have read := isNumber.number?_append stops
      obtain ⟨first, others, rfl, opens⟩ := isNumber.exists_eq_cons
      rw [List.map_cons, List.cons_append] at read ⊢
      rw [value?_number opens, read]
  | string writesText =>
      refine (Writes.string writesText).isRead_of_succ fun steps rest _ _ => ?_
      simp only [List.map_cons, List.map_append, List.map_nil,
        List.cons_append, List.append_assoc, List.nil_append, value?,
        skipSpace_cons (by decide : '"' ∉ _), writesText.string?_append]
      rfl
  | noElements isSpacing =>
      refine (Writes.noElements isSpacing).isRead_of_succ
        fun steps rest _ _ => ?_
      simp only [List.map_cons, List.map_append, List.map_nil,
        List.cons_append, List.append_assoc, List.nil_append, value?,
        skipSpace_cons (by decide : '[' ∉ _), isSpacing.skipSpace_append,
        skipSpace_cons (by decide : ']' ∉ _)]
  | array writes inductionHypothesis =>
      exact writes.isRead_array inductionHypothesis
  | noMembers isSpacing =>
      refine (Writes.noMembers isSpacing).isRead_of_succ
        fun steps rest _ _ => ?_
      simp only [List.map_cons, List.map_append, List.map_nil,
        List.cons_append, List.append_assoc, List.nil_append, value?,
        skipSpace_cons (by decide : '\x7b' ∉ _), isSpacing.skipSpace_append,
        skipSpace_cons (by decide : '\x7d' ∉ _)]
  | object writes inductionHypothesis =>
      exact writes.isRead_object inductionHypothesis
  | spaced frontSpacing _ backSpacing inductionHypothesis =>
      exact .spaced frontSpacing inductionHypothesis backSpacing
  | lastElement _ inductionHypothesis => exact .lastElement inductionHypothesis
  | nextElement _ _ inductionHypothesis othersHypothesis =>
      exact .nextElement inductionHypothesis othersHypothesis
  | member frontSpacing writesName backSpacing _ inductionHypothesis =>
      exact .member frontSpacing writesName backSpacing inductionHypothesis
  | lastMember _ inductionHypothesis => exact .lastMember inductionHypothesis
  | nextMember _ _ inductionHypothesis othersHypothesis =>
      exact .nextMember inductionHypothesis othersHypothesis

/-- A text that writes a value, with white space around it, is read as the
value. -/
theorem Writes.read?_eq
    {text : List Char}
    {value : Json}
    (writes : Writes text (.spaced value)) :
    read? (String.ofList text) = some value := by
  obtain ⟨after, read, skipped⟩ := writes.isRead (2 * text.length + 2) []
    (by omega) nofun
  rw [List.append_nil] at read
  rw [read?, String.toList_ofList, readUnits?, List.length_map, read]
  exact if_pos skipped

end Json
end BookLookup
