import Mathlib.Data.List.Forall2

/-!
# Reading step by step

What is read in steps is read successfully only if every step is. A list is read
successfully exactly if each of its elements is, and the results stand in the
order of the elements. Two lists whose elements are read with the same outcome
one by one are read with the same outcome.
-/

namespace BookLookup

/-- What succeeds in two steps succeeds in the first. -/
theorem exists_of_bind_eq_ok
    {ε α β : Type}
    {first : Except ε α}
    {second : α -> Except ε β}
    {result : β}
    (succeeds : (first >>= second) = .ok result) :
    ∃ value, first = .ok value ∧ second value = .ok result := by
  cases first with
  | error fault => cases succeeds
  | ok value => exact ⟨value, rfl, succeeds⟩

section Replaced

variable {ε δ α β : Type}

/-- A replaced value was there before. -/
theorem map_eq_ok_iff
    {read : Except ε α}
    {replace : α -> β}
    {result : β} :
    read.map replace = .ok result ↔
      ∃ value, read = .ok value ∧ replace value = result := by
  cases read with
  | error fault => simp [Except.map]
  | ok value => simp [Except.map]

/-- A fault stays if the value is replaced. -/
theorem map_eq_error_iff
    {read : Except ε α}
    {replace : α -> β}
    {fault : ε} :
    read.map replace = .error fault ↔ read = .error fault := by
  cases read with
  | error reason => simp [Except.map]
  | ok value => simp [Except.map]

/-- A value stays if the fault is replaced. -/
theorem mapError_eq_ok_iff
    {read : Except ε α}
    {replace : ε -> δ}
    {result : α} :
    read.mapError replace = .ok result ↔ read = .ok result := by
  cases read with
  | error fault => simp [Except.mapError]
  | ok value => simp [Except.mapError]

/-- A replaced fault was there before. -/
theorem mapError_eq_error_iff
    {read : Except ε α}
    {replace : ε -> δ}
    {fault : δ} :
    read.mapError replace = .error fault ↔
      ∃ reason, read = .error reason ∧ replace reason = fault := by
  cases read with
  | error reason => simp [Except.mapError]
  | ok value => simp [Except.mapError]

end Replaced

namespace Elementwise

variable {α β ε : Type}

/-- Every element has a result exactly if there is a list of results. -/
theorem exists_forall₂_iff
    {related : α -> β -> Prop}
    {elements : List α} :
    (∃ results, List.Forall₂ related elements results) ↔
      ∀ element ∈ elements, ∃ result, related element result := by
  induction elements with
  | nil => exact ⟨fun _ => by simp, fun _ => ⟨[], .nil⟩⟩
  | cons first others inductionHypothesis =>
      rw [List.forall_mem_cons, ← inductionHypothesis]
      constructor
      · rintro ⟨results, every⟩
        cases every with
        | cons firstResult othersResults =>
            exact ⟨⟨_, firstResult⟩, ⟨_, othersResults⟩⟩
      · rintro ⟨⟨result, firstResult⟩, results, othersResults⟩
        exact ⟨result :: results, .cons firstResult othersResults⟩

/-- The results of a reader that may fail without a reason. -/
theorem mapM_eq_some_iff
    {read : α -> Option β}
    {elements : List α}
    {results : List β} :
    elements.mapM read = some results ↔
      List.Forall₂ (fun element result => read element = some result)
        elements results := by
  induction elements generalizing results with
  | nil => simp [eq_comm]
  | cons first others inductionHypothesis =>
      rw [List.mapM_cons]
      cases firstRead : read first with
      | none => simp [firstRead, List.forall₂_cons_left_iff]
      | some result =>
          cases othersRead : others.mapM read with
          | none =>
              have noResults (rest : List β) :
                  ¬ List.Forall₂ (fun element result =>
                    read element = some result) others rest := by
                rw [← inductionHypothesis, othersRead]
                simp
              simp [firstRead, List.forall₂_cons_left_iff, noResults]
          | some rest =>
              have restUnique (other : List β) :
                  List.Forall₂ (fun element result =>
                    read element = some result) others other ↔
                    rest = other := by
                rw [← inductionHypothesis, othersRead, Option.some.injEq]
              simp [firstRead, List.forall₂_cons_left_iff, restUnique,
                eq_comm]

/-- Every result is that of an element. -/
theorem exists_of_mem_mapM
    {read : α -> Option β}
    {elements : List α}
    {results : List β}
    (allRead : elements.mapM read = some results) :
    ∀ result ∈ results, ∃ element ∈ elements, read element = some result := by
  rw [mapM_eq_some_iff] at allRead
  induction allRead with
  | nil => simp
  | cons here _ inductionHypothesis =>
      rw [List.forall_mem_cons]
      refine ⟨⟨_, List.mem_cons_self, here⟩, ?_⟩
      intro result member
      obtain ⟨element, isElement, isResult⟩ := inductionHypothesis result member
      exact ⟨element, List.mem_cons_of_mem _ isElement, isResult⟩

/-- Elements that are all read give the list of what they give. -/
theorem mapM_eq_some_map
    {read : α -> Option β}
    {result : α -> β}
    {elements : List α}
    (allRead : ∀ element ∈ elements, read element = some (result element)) :
    elements.mapM read = some (elements.map result) := by
  rw [mapM_eq_some_iff, List.forall₂_map_right_iff, List.forall₂_same]
  exact allRead

/-- Readers that read every element alike read the list alike. -/
theorem mapM_congr
    {read readAlike : α -> Option β}
    {elements : List α}
    (alike : ∀ element ∈ elements, read element = readAlike element) :
    elements.mapM read = elements.mapM readAlike := by
  induction elements with
  | nil => rfl
  | cons first others inductionHypothesis =>
      rw [List.forall_mem_cons] at alike
      rw [List.mapM_cons, List.mapM_cons, alike.1, inductionHypothesis alike.2]

/-- The results of a reader that gives a reason when it fails. -/
theorem mapM_eq_ok_iff
    {read : α -> Except ε β}
    {elements : List α}
    {results : List β} :
    elements.mapM read = .ok results ↔
      List.Forall₂ (fun element result => read element = .ok result)
        elements results := by
  induction elements generalizing results with
  | nil => cases results <;> simp [pure, Except.pure]
  | cons first others inductionHypothesis =>
      rw [List.mapM_cons]
      cases firstRead : read first with
      | error fault =>
          simp [bind, Except.bind, firstRead, List.forall₂_cons_left_iff]
      | ok result =>
          cases othersRead : others.mapM read with
          | error fault =>
              have noResults (rest : List β) :
                  ¬ List.Forall₂ (fun element result =>
                    read element = .ok result) others rest := by
                rw [← inductionHypothesis, othersRead]
                simp
              simp [bind, Except.bind, firstRead, List.forall₂_cons_left_iff,
                noResults]
          | ok rest =>
              have restUnique (other : List β) :
                  List.Forall₂ (fun element result =>
                    read element = .ok result) others other ↔
                    rest = other := by
                rw [← inductionHypothesis, othersRead, Except.ok.injEq]
              simp [bind, Except.bind, pure, Except.pure, firstRead,
                List.forall₂_cons_left_iff, restUnique, eq_comm]

/-- A reader fails for the reason of the first element that is not read. -/
theorem mapM_eq_error_iff
    {read : α -> Except ε β}
    {elements : List α}
    {fault : ε} :
    elements.mapM read = .error fault ↔
      ∃ front element rest, elements = front ++ element :: rest ∧
        (∀ other ∈ front, ∃ result, read other = .ok result) ∧
        read element = .error fault := by
  constructor
  · intro failed
    induction elements with
    | nil => cases failed
    | cons first others inductionHypothesis =>
        rw [List.mapM_cons] at failed
        cases firstRead : read first with
        | error reason =>
            rw [firstRead] at failed
            obtain rfl := Except.error.inj failed
            exact ⟨[], first, others, rfl, by simp, firstRead⟩
        | ok result =>
            rw [firstRead] at failed
            cases othersRead : others.mapM read with
            | ok rest =>
                rw [othersRead] at failed
                cases failed
            | error reason =>
                rw [othersRead] at failed
                obtain rfl := Except.error.inj failed
                obtain ⟨front, element, rest, rfl, allRead, notRead⟩ :=
                  inductionHypothesis othersRead
                refine ⟨first :: front, element, rest, rfl, ?_, notRead⟩
                intro other member
                rcases List.mem_cons.mp member with rfl | inFront
                · exact ⟨result, firstRead⟩
                · exact allRead other inFront
  · rintro ⟨front, element, rest, rfl, allRead, notRead⟩
    induction front with
    | nil =>
        rw [List.nil_append, List.mapM_cons, notRead]
        rfl
    | cons first others inductionHypothesis =>
        obtain ⟨result, firstRead⟩ := allRead first List.mem_cons_self
        have othersFailed := inductionHypothesis fun other member =>
          allRead other (List.mem_cons_of_mem _ member)
        rw [List.cons_append, List.mapM_cons, firstRead]
        change (do
          let others <- (others ++ element :: rest).mapM read
          pure (result :: others)) = _
        rw [othersFailed]
        rfl

/-- A reading in steps fails like the checks of its steps, if what follows the
first step fails like the checks of the others. -/
theorem bind_eq_error_iff_of_check
    {κ : Type}
    {check : κ -> Except ε Unit}
    {first : κ}
    {others : List κ}
    {read : Except ε α}
    {onwards : α -> Except ε β}
    {fault : ε}
    (firstCheck : check first = read.map fun _ => ())
    (later : ∀ content, onwards content = .error fault ↔
      others.mapM check = .error fault) :
    (read >>= onwards) = .error fault ↔
      (first :: others).mapM check = .error fault := by
  rw [List.mapM_cons, firstCheck]
  cases read with
  | error reason =>
      change (Except.error reason : Except ε β) = .error fault ↔
        (Except.error reason : Except ε (List Unit)) = .error fault
      rw [Except.error.injEq, Except.error.injEq]
  | ok content =>
      change onwards content = .error fault ↔ (do
        let checked <- others.mapM check
        pure (() :: checked)) = .error fault
      rw [later content]
      cases others.mapM check with
      | error reason => exact Iff.rfl
      | ok checked => exact ⟨nofun, nofun⟩

/-- A reading that fails like some checks succeeds exactly if all of them
do. -/
theorem exists_eq_ok_iff_of_checks
    {κ : Type}
    {check : κ -> Except ε Unit}
    {checks : List κ}
    {read : Except ε α}
    (sameFault : ∀ fault,
      read = .error fault ↔ checks.mapM check = .error fault) :
    (∃ result, read = .ok result) ↔ ∀ key ∈ checks, check key = .ok () := by
  have checked : (∃ results, checks.mapM check = .ok results) ↔
      ∀ key ∈ checks, check key = .ok () := by
    simp only [mapM_eq_ok_iff, exists_forall₂_iff]
    exact forall₂_congr fun key _ =>
      ⟨fun ⟨_, passed⟩ => passed, fun passed => ⟨(), passed⟩⟩
  rw [← checked]
  constructor
  · rintro ⟨result, isRead⟩
    cases outcome : checks.mapM check with
    | error fault => cases isRead.symm.trans ((sameFault fault).mpr outcome)
    | ok results => exact ⟨results, rfl⟩
  · rintro ⟨results, passed⟩
    cases outcome : read with
    | error fault => cases passed.symm.trans ((sameFault fault).mp outcome)
    | ok result => exact ⟨result, rfl⟩

/-- Steps from a state fail for the reason of the first that fails, in the state
to which those before have led. -/
theorem foldlM_eq_error_iff
    {σ : Type}
    {step : σ -> α -> Except ε σ}
    {start : σ}
    {elements : List α}
    {fault : ε} :
    elements.foldlM step start = .error fault ↔
      ∃ front element rest state, elements = front ++ element :: rest ∧
        front.foldlM step start = .ok state ∧
        step state element = .error fault := by
  constructor
  · intro failed
    induction elements generalizing start with
    | nil => cases failed
    | cons first others inductionHypothesis =>
        rw [List.foldlM_cons] at failed
        cases firstStep : step start first with
        | error reason =>
            rw [firstStep] at failed
            obtain rfl := Except.error.inj failed
            exact ⟨[], first, others, start, rfl, rfl, firstStep⟩
        | ok next =>
            rw [firstStep] at failed
            obtain ⟨front, element, rest, state, rfl, reached, refused⟩ :=
              inductionHypothesis failed
            refine ⟨first :: front, element, rest, state, rfl, ?_, refused⟩
            rw [List.foldlM_cons, firstStep]
            exact reached
  · rintro ⟨front, element, rest, state, rfl, reached, refused⟩
    rw [List.foldlM_append, reached]
    change (element :: rest).foldlM step state = .error fault
    rw [List.foldlM_cons, refused]
    rfl

end Elementwise

/-- Two results are the same fault, or two related values. -/
inductive SameOutcome
    {ε α β : Type}
    (Related : α -> β -> Prop) : Except ε α -> Except ε β -> Prop where
  | failed (fault : ε) : SameOutcome Related (.error fault) (.error fault)
  | succeeded
      {first : α}
      {second : β}
      (related : Related first second) :
      SameOutcome Related (.ok first) (.ok second)

/-- Reading two lists in step has the same outcome, if every two steps from
related states have. -/
theorem SameOutcome.foldlM
    {ε σ τ α β : Type}
    {States : σ -> τ -> Prop}
    {Elements : α -> β -> Prop}
    {firstStep : σ -> α -> Except ε σ}
    {secondStep : τ -> β -> Except ε τ}
    (step : ∀ first second element other,
      States first second -> Elements element other ->
      SameOutcome States (firstStep first element) (secondStep second other))
    {elements : List α}
    {others : List β}
    (inStep : List.Forall₂ Elements elements others)
    {first : σ}
    {second : τ}
    (related : States first second) :
    SameOutcome States (elements.foldlM firstStep first)
      (others.foldlM secondStep second) := by
  induction inStep generalizing first second with
  | nil => exact .succeeded related
  | @cons element other elements others alike _ inductionHypothesis =>
      have here := step first second element other related alike
      rw [List.foldlM_cons, List.foldlM_cons]
      generalize firstStep first element = firstResult at here ⊢
      generalize secondStep second other = secondResult at here ⊢
      cases here with
      | failed fault => exact .failed fault
      | succeeded stillRelated => exact inductionHypothesis stillRelated

end BookLookup
