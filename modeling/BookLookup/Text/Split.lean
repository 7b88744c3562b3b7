/-!
# Splitting at a separator

A sequence is cut at every occurrence of a separator, which gives one piece
more than there are separators. Joining the pieces with the separator between
them gives the sequence back, and no piece holds the separator.
-/

namespace BookLookup
namespace Split

variable {α : Type} [DecidableEq α]

/-- The pieces of a sequence between the occurrences of a separator. -/
def pieces (separator : α) : List α -> List (List α)
  | [] => [[]]
  | symbol :: rest =>
      if symbol = separator then [] :: pieces separator rest
      else
        match pieces separator rest with
        | [] => [[symbol]]
        | first :: others => (symbol :: first) :: others

@[simp] theorem pieces_nil (separator : α) :
    pieces separator [] = [[]] := rfl

/-- There is always at least one piece. -/
theorem pieces_ne_nil
    (separator : α)
    (sequence : List α) :
    pieces separator sequence ≠ [] := by
  cases sequence with
  | nil => simp [pieces]
  | cons symbol rest =>
      simp only [pieces]
      split
      · simp
      · split <;> simp

/-- The pieces with the separator written between neighbours. -/
def join (separator : α) : List (List α) -> List α
  | [] => []
  | [last] => last
  | first :: second :: others =>
      first ++ separator :: join separator (second :: others)

omit [DecidableEq α] in
@[simp] theorem join_nil (separator : α) :
    join separator [] = [] := rfl

omit [DecidableEq α] in
@[simp] theorem join_singleton
    (separator : α)
    (last : List α) :
    join separator [last] = last := rfl

omit [DecidableEq α] in
@[simp] theorem join_cons_cons
    (separator : α)
    (first second : List α)
    (others : List (List α)) :
    join separator (first :: second :: others) =
      first ++ separator :: join separator (second :: others) := rfl

@[simp] theorem join_pieces
    (separator : α)
    (sequence : List α) :
    join separator (pieces separator sequence) = sequence := by
  induction sequence with
  | nil => rfl
  | cons symbol rest joined =>
      simp only [pieces]
      split
      · rename_i same
        cases rests : pieces separator rest with
        | nil => exact absurd rests (pieces_ne_nil separator rest)
        | cons first others =>
            rw [rests] at joined
            simp [joined, same]
      · cases rests : pieces separator rest with
        | nil => exact absurd rests (pieces_ne_nil separator rest)
        | cons first others =>
            rw [rests] at joined
            cases others with
            | nil => simpa using joined
            | cons second more => simpa using joined

/-- No piece holds the separator. -/
theorem separator_not_mem
    (separator : α)
    (sequence : List α) :
    forall piece, piece ∈ pieces separator sequence -> separator ∉ piece := by
  induction sequence with
  | nil => simp
  | cons symbol rest absent =>
      intro piece member
      simp only [pieces] at member
      split at member
      · rcases List.mem_cons.1 member with rfl | inRest
        · simp
        · exact absent piece inRest
      · rename_i different
        cases rests : pieces separator rest with
        | nil => exact absurd rests (pieces_ne_nil separator rest)
        | cons first others =>
            rw [rests] at member absent
            rcases List.mem_cons.1 member with rfl | inOthers
            · have := absent first (List.mem_cons_self ..)
              simp only [List.mem_cons, not_or]
              exact ⟨fun same => different same.symm, this⟩
            · exact absent piece (List.mem_cons_of_mem _ inOthers)

/-- The parts before and after the first occurrence of a separator, if it
occurs at all. -/
def atFirst? (separator : α) : List α -> Option (List α × List α)
  | [] => none
  | symbol :: rest =>
      if symbol = separator then some ([], rest)
      else (atFirst? separator rest).map fun (before, after) =>
        (symbol :: before, after)

/-- A cut at the first separator keeps every symbol, and the part before it
holds no separator. -/
theorem eq_of_atFirst?_eq_some
    {separator : α}
    {sequence before after : List α}
    (cut : atFirst? separator sequence = some (before, after)) :
    sequence = before ++ separator :: after ∧ separator ∉ before := by
  induction sequence generalizing before with
  | nil => simp [atFirst?] at cut
  | cons symbol rest hypothesis =>
      simp only [atFirst?] at cut
      split at cut
      · rename_i same
        obtain ⟨rfl, rfl⟩ := by simpa using cut
        simp [same]
      · rename_i different
        obtain ⟨⟨front, back⟩, restCut, parts⟩ := Option.map_eq_some_iff.1 cut
        obtain ⟨rfl, rfl⟩ := by simpa using parts
        obtain ⟨restEq, absent⟩ := hypothesis restCut
        refine ⟨by simp [restEq], ?_⟩
        simp only [List.mem_cons, not_or]
        exact ⟨fun same => different same.symm, absent⟩

end Split
end BookLookup
