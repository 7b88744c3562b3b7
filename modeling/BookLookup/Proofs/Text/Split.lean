import BookLookup.Text.Split

/-!
# Cutting and joining undo each other

Cutting at a separator agrees with the splitting of lists, and joining with
their intercalation. Pieces without the separator are therefore found again
after they have been joined.
-/

namespace BookLookup
namespace Split

variable {α : Type} [DecidableEq α]

/-- The pieces of a sequence are its splitting at the separator. -/
theorem pieces_eq_splitOn
    (separator : α)
    (sequence : List α) :
    pieces separator sequence = sequence.splitOn separator := by
  induction sequence with
  | nil => rfl
  | cons symbol rest inductionHypothesis =>
      rw [List.splitOn_cons_eq_if_modifyHead, ← inductionHypothesis]
      by_cases same : symbol = separator
      · simp [pieces, same]
      · cases restPieces : pieces separator rest with
        | nil => exact absurd restPieces (pieces_ne_nil separator rest)
        | cons first others => simp [pieces, same, restPieces]

omit [DecidableEq α] in
/-- Joining is intercalation of the separator. -/
theorem join_eq_intercalate
    (separator : α)
    (parts : List (List α)) :
    join separator parts = [separator].intercalate parts := by
  induction parts with
  | nil => rfl
  | cons first others inductionHypothesis =>
      cases others with
      | nil => simp
      | cons second rest =>
          rw [join_cons_cons, inductionHypothesis,
            List.intercalate_cons_cons]
          simp

omit [DecidableEq α] in
/-- What stands in joined parts is the separator or stands in one of them. -/
theorem mem_join
    {separator symbol : α}
    {parts : List (List α)}
    (member : symbol ∈ join separator parts) :
    symbol = separator ∨ ∃ part ∈ parts, symbol ∈ part := by
  induction parts with
  | nil => cases member
  | cons first others inductionHypothesis =>
      cases others with
      | nil => exact .inr ⟨first, List.mem_cons_self, member⟩
      | cons second more =>
          rw [join_cons_cons, List.mem_append, List.mem_cons] at member
          rcases member with inFirst | isSeparator | inOthers
          · exact .inr ⟨first, List.mem_cons_self, inFirst⟩
          · exact .inl isSeparator
          · rcases inductionHypothesis inOthers with same | ⟨part, isPart, inPart⟩
            · exact .inl same
            · exact .inr ⟨part, List.mem_cons_of_mem _ isPart, inPart⟩

/-- What stands in a piece stands in the sequence. -/
theorem mem_of_mem_pieces
    {separator symbol : α}
    {sequence piece : List α}
    (isPiece : piece ∈ pieces separator sequence)
    (inPiece : symbol ∈ piece) :
    symbol ∈ sequence := by
  induction sequence generalizing piece with
  | nil =>
      rw [pieces_nil, List.mem_singleton] at isPiece
      exact isPiece ▸ inPiece
  | cons first rest inductionHypothesis =>
      rw [pieces] at isPiece
      split at isPiece
      · rcases List.mem_cons.mp isPiece with rfl | inRest
        · cases inPiece
        · exact List.mem_cons_of_mem _ (inductionHypothesis inRest inPiece)
      · cases restPieces : pieces separator rest with
        | nil => exact absurd restPieces (pieces_ne_nil separator rest)
        | cons front others =>
            rw [restPieces] at isPiece inductionHypothesis
            rcases List.mem_cons.mp isPiece with rfl | inOthers
            · rcases List.mem_cons.mp inPiece with rfl | inFront
              · exact List.mem_cons_self
              · exact List.mem_cons_of_mem _
                  (inductionHypothesis List.mem_cons_self inFront)
            · exact List.mem_cons_of_mem _
                (inductionHypothesis (List.mem_cons_of_mem _ inOthers) inPiece)

/-- Parts without the separator are the pieces of what they are joined to. -/
theorem pieces_join
    {separator : α}
    {parts : List (List α)}
    (nonempty : parts ≠ [])
    (absent : ∀ part ∈ parts, separator ∉ part) :
    pieces separator (join separator parts) = parts := by
  rw [pieces_eq_splitOn, join_eq_intercalate]
  exact List.splitOn_intercalate separator absent nonempty

/-- There is one piece more than there are separators. -/
theorem length_pieces
    (separator : α)
    (sequence : List α) :
    (pieces separator sequence).length = sequence.count separator + 1 := by
  induction sequence with
  | nil => rfl
  | cons symbol rest inductionHypothesis =>
      rw [pieces]
      by_cases same : symbol = separator
      · simp [same, inductionHypothesis]
      · cases restPieces : pieces separator rest with
        | nil => exact absurd restPieces (pieces_ne_nil separator rest)
        | cons first others =>
            rw [restPieces, List.length_cons] at inductionHypothesis
            simp [same, inductionHypothesis]

theorem pieces_append_cons
    (separator : α)
    (before after : List α) :
    pieces separator (before ++ separator :: after) =
      pieces separator before ++ pieces separator after := by
  simp only [pieces_eq_splitOn, List.splitOn_append_cons_self]

theorem pieces_of_not_mem
    {separator : α}
    {sequence : List α}
    (absent : separator ∉ sequence) :
    pieces separator sequence = [sequence] := by
  rw [pieces_eq_splitOn, List.splitOn_eq_singleton absent]

/-- All pieces are empty exactly if there is nothing but separators. -/
theorem forall_pieces_eq_nil_iff
    {separator : α}
    {sequence : List α} :
    (∀ piece ∈ pieces separator sequence, piece = []) ↔
      ∀ symbol ∈ sequence, symbol = separator := by
  induction sequence with
  | nil => simp
  | cons symbol rest inductionHypothesis =>
      rw [List.forall_mem_cons, ← inductionHypothesis, pieces]
      by_cases same : symbol = separator
      · simp [same]
      · cases restPieces : pieces separator rest with
        | nil => exact absurd restPieces (pieces_ne_nil separator rest)
        | cons first others => simp [same]

/-- A cut at a separator that does not occur before it. -/
theorem atFirst?_append
    {separator : α}
    {before : List α}
    (after : List α)
    (absent : separator ∉ before) :
    atFirst? separator (before ++ separator :: after) =
      some (before, after) := by
  induction before with
  | nil => simp [atFirst?]
  | cons symbol rest inductionHypothesis =>
      rw [List.mem_cons, not_or] at absent
      obtain ⟨different, restAbsent⟩ := absent
      have restCut := inductionHypothesis restAbsent
      simp [atFirst?, restCut, Ne.symm different]

/-- A sequence without the separator is not cut. -/
theorem atFirst?_of_not_mem
    {separator : α}
    {sequence : List α}
    (absent : separator ∉ sequence) :
    atFirst? separator sequence = none := by
  cases cut : atFirst? separator sequence with
  | none => rfl
  | some parts =>
      obtain ⟨before, after⟩ := parts
      obtain ⟨rfl, -⟩ := eq_of_atFirst?_eq_some cut
      exact absurd (by simp) absent

end Split
end BookLookup
