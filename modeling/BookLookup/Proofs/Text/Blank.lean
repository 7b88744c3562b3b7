import BookLookup.Text.Blank
import Mathlib.Data.List.DropRight
import Mathlib.Data.List.TakeWhile

/-!
# What trimming leaves

A trimmed text is the one part of the text that white space stands around and
that neither begins nor ends with white space. Nothing is left exactly if there
is nothing but white space. Around a symbol that is no white space, the two ends
of a text are trimmed for themselves.
-/

namespace BookLookup

/-- A text is what white space stands around. -/
structure IsCore (core text : List Char) : Prop where
  /-- In front of it and behind it there is only white space. -/
  around : ∃ front back, text = front ++ (core ++ back) ∧
    (∀ symbol ∈ front, isBlank symbol) ∧ ∀ symbol ∈ back, isBlank symbol
  /-- It does not begin with white space. -/
  first : ∀ symbol ∈ core.head?, isBlank symbol = false
  /-- It does not end with white space. -/
  last : ∀ symbol ∈ core.getLast?, isBlank symbol = false

/-- White space in front of a text that does not begin with any is dropped. -/
theorem dropWhile_isBlank_append
    {front core : List Char}
    (blank : ∀ symbol ∈ front, isBlank symbol)
    (first : ∀ symbol ∈ core.head?, isBlank symbol = false) :
    (front ++ core).dropWhile isBlank = core := by
  rw [List.dropWhile_append_of_pos blank]
  cases core with
  | nil => rfl
  | cons symbol others =>
      rw [List.dropWhile_cons_of_neg]
      simp [first symbol rfl]

/-- A core with white space behind it is what is left of it. -/
theorem trimEnd_append
    {core back : List Char}
    (blank : ∀ symbol ∈ back, isBlank symbol)
    (last : ∀ symbol ∈ core.getLast?, isBlank symbol = false) :
    trimEnd (core ++ back) = core := by
  have dropped := @dropWhile_isBlank_append back.reverse core.reverse
    (fun symbol member => blank symbol (List.mem_reverse.mp member))
    (by rwa [List.head?_reverse])
  rw [trimEnd, List.reverse_append, dropped, List.reverse_reverse]

/-- A trimmed text is a core. -/
theorem isCore_trim (text : List Char) : IsCore (trim text) text := by
  let kept := text.dropWhile isBlank
  let dropped := (kept.reverse.takeWhile isBlank).reverse
  have keptParts : trimEnd kept ++ dropped = kept := by
    rw [trimEnd, ← List.reverse_append, List.takeWhile_append_dropWhile,
      List.reverse_reverse]
  constructor
  case around =>
    refine ⟨text.takeWhile isBlank, dropped, ?_, ?_, ?_⟩
    · rw [trim, keptParts, List.takeWhile_append_dropWhile]
    · exact fun _ member => List.mem_takeWhile_imp member
    · exact fun _ member =>
        List.mem_takeWhile_imp (List.mem_reverse.mp member)
  case first =>
    intro symbol isFirst
    have keptFirst : kept.head? = some symbol := by
      rw [← keptParts, List.head?_append]
      change (trim text).head?.or _ = _
      rw [isFirst]
      rfl
    have stops := List.head?_dropWhile_not isBlank text
    rwa [show (text.dropWhile isBlank).head? = some symbol from keptFirst]
      at stops
  case last =>
    intro symbol isLast
    have stops := List.head?_dropWhile_not isBlank kept.reverse
    rw [trim, trimEnd, List.getLast?_reverse] at isLast
    rwa [isLast] at stops

/-- There is only one core. -/
theorem IsCore.trim_eq
    {core text : List Char}
    (isCore : IsCore core text) :
    trim text = core := by
  obtain ⟨front, back, rfl, frontBlank, backBlank⟩ := isCore.around
  by_cases isNil : core = []
  · have allBlank : ∀ symbol ∈ front ++ back, isBlank symbol := by
      intro symbol member
      exact (List.mem_append.mp member).elim (frontBlank symbol)
        (backBlank symbol)
    rw [isNil, List.nil_append, trim, List.dropWhile_eq_nil_iff.mpr allBlank]
    rfl
  · have begins : (core ++ back).head? = core.head? := by
      rw [List.head?_append]
      obtain ⟨symbol, others, rfl⟩ := List.exists_cons_of_ne_nil isNil
      rfl
    rw [trim, dropWhile_isBlank_append frontBlank (begins ▸ isCore.first),
      trimEnd_append backBlank isCore.last]

/-- Nothing is left exactly if there is nothing but white space. -/
theorem trim_eq_nil_iff {text : List Char} :
    trim text = [] ↔ ∀ symbol ∈ text, isBlank symbol := by
  constructor
  · intro isNil
    obtain ⟨front, back, whole, frontBlank, backBlank⟩ :=
      (isCore_trim text).around
    rw [whole, isNil]
    intro symbol member
    exact (List.mem_append.mp member).elim (frontBlank symbol)
      (backBlank symbol)
  · intro allBlank
    have isCore : IsCore [] text :=
      ⟨⟨text, [], by simp, allBlank, by simp⟩, by simp, by simp⟩
    exact isCore.trim_eq

/-- A text that is not blank has its core, which is not empty. -/
theorem nonBlank?_eq_some_iff {text core : String} :
    nonBlank? text = some core ↔
      core ≠ "" ∧ IsCore core.toList text.toList := by
  have ofCore : trimmed text = core ↔ IsCore core.toList text.toList := by
    rw [← String.toList_inj, trimmed, String.toList_ofList]
    exact ⟨fun same => same ▸ isCore_trim _, IsCore.trim_eq⟩
  rw [← ofCore, nonBlank?]
  constructor
  · intro found
    split at found
    · cases found
    · rename_i notEmpty
      obtain rfl := Option.some.inj found
      exact ⟨notEmpty, rfl⟩
  · rintro ⟨notEmpty, rfl⟩
    exact if_neg notEmpty

theorem nonBlank?_eq_none_iff {text : String} :
    nonBlank? text = none ↔ ∀ symbol ∈ text.toList, isBlank symbol := by
  rw [← trim_eq_nil_iff, nonBlank?, trimmed]
  simp

/-! ## Trimming around a symbol -/

/-- White space behind a symbol that is none is dropped. -/
theorem trimEnd_append_cons
    {symbol : Char}
    (visible : isBlank symbol = false)
    (front back : List Char) :
    trimEnd (front ++ symbol :: back) = front ++ symbol :: trimEnd back := by
  have stops : (symbol :: front.reverse).dropWhile isBlank =
      symbol :: front.reverse :=
    List.dropWhile_cons_of_neg (by simp [visible])
  rw [trimEnd, trimEnd, List.reverse_append, List.reverse_cons,
    List.append_assoc, List.singleton_append, List.dropWhile_append, stops]
  split
  · rename_i allBlank
    simp [List.isEmpty_iff.mp allBlank]
  · simp

/-- White space at both ends of a text with such a symbol is dropped. -/
theorem trim_append_cons
    {symbol : Char}
    (visible : isBlank symbol = false)
    (front back : List Char) :
    trim (front ++ symbol :: back) =
      front.dropWhile isBlank ++ symbol :: trimEnd back := by
  have stops : (symbol :: back).dropWhile isBlank = symbol :: back :=
    List.dropWhile_cons_of_neg (by simp [visible])
  rw [trim, List.dropWhile_append, stops]
  split
  · rename_i allBlank
    rw [List.isEmpty_iff.mp allBlank]
    exact trimEnd_append_cons visible [] back
  · exact trimEnd_append_cons visible (front.dropWhile isBlank) back

theorem trim_dropWhile (text : List Char) :
    trim (text.dropWhile isBlank) = trim text := by
  rw [trim, List.dropWhile_idempotent, trim]

/-- White space behind may be dropped before the other. -/
theorem trim_trimEnd (text : List Char) : trim (trimEnd text) = trim text := by
  let dropped := (text.reverse.takeWhile isBlank).reverse
  have parts : trimEnd text ++ dropped = text := by
    rw [trimEnd, ← List.reverse_append, List.takeWhile_append_dropWhile,
      List.reverse_reverse]
  have isCore := isCore_trim (trimEnd text)
  obtain ⟨front, back, whole, frontBlank, backBlank⟩ := isCore.around
  refine (IsCore.trim_eq ⟨⟨front, back ++ dropped, ?_, frontBlank, ?_⟩,
    isCore.first, isCore.last⟩).symm
  · rw [← List.append_assoc, ← List.append_assoc, List.append_assoc front,
      ← whole, parts]
  · rw [List.forall_mem_append]
    exact ⟨backBlank, fun symbol member =>
      List.mem_takeWhile_imp (List.mem_reverse.mp member)⟩

/-- What is left of a text stood in it. -/
theorem mem_of_mem_trim
    {text : List Char}
    {symbol : Char}
    (member : symbol ∈ trim text) :
    symbol ∈ text := by
  obtain ⟨front, back, whole, -, -⟩ := (isCore_trim text).around
  rw [whole]
  simp [member]

end BookLookup
