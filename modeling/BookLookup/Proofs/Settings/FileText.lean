import BookLookup.Proofs.Elementwise
import BookLookup.Proofs.Text.Blank
import BookLookup.Proofs.Text.Split
import BookLookup.Proofs.TextMap
import BookLookup.Settings.File

/-!
# Settings files as they are written

An assignment is written on a line of its own, with its value between quotation
marks and with white space wherever it does not count. Whatever lines without an
assignment stand around it, a file that was written gives back each key with its
last value. Any other text is refused exactly if there is a line that is no
assignment and is not skipped either, and the first such line is named by its
number.
-/

namespace BookLookup

namespace SettingsFile

/-! ## Lines without an assignment -/

/-- A line is skipped: it is blank, or a number sign comes first in it. -/
inductive IsRemark : List Char -> Prop where
  | blank
      {line : List Char}
      (allBlank : ∀ symbol ∈ line, isBlank symbol) :
      IsRemark line
  /-- In front of the number sign there is nothing but white space. -/
  | comment
      {gap text : List Char}
      (allBlank : ∀ symbol ∈ gap, isBlank symbol) :
      IsRemark (gap ++ '#' :: text)

/-- These are the lines that are skipped. -/
theorem isSkipped_trim_iff {line : List Char} :
    isSkipped (trim line) ↔ IsRemark line := by
  rw [isSkipped, Bool.or_eq_true, List.isEmpty_iff, beq_iff_eq,
    trim_eq_nil_iff]
  constructor
  · rintro (allBlank | begins)
    · exact .blank allBlank
    · obtain ⟨front, back, whole, frontBlank, -⟩ := (isCore_trim line).around
      obtain ⟨text, isTrim⟩ := List.head?_eq_some_iff.mp begins
      rw [whole, isTrim]
      exact .comment frontBlank
  · intro isRemark
    cases isRemark with
    | blank allBlank => exact .inl allBlank
    | @comment gap text allBlank =>
        refine .inr ?_
        rw [trim_append_cons (by decide),
          List.dropWhile_eq_nil_iff.mpr allBlank]
        rfl

/-- A line is faulty: it is not skipped, and it has no equals sign, or nothing
but white space before the first one. -/
structure IsFaulty (line : List Char) : Prop where
  /-- The line is not skipped. -/
  counts : ¬ IsRemark line
  /-- There is no key in front of an equals sign. -/
  noKey : '=' ∉ line ∨
    ∃ gap rest, line = gap ++ '=' :: rest ∧ ∀ symbol ∈ gap, isBlank symbol

/-- What is reported of a faulty line with some number. -/
def faultAt (number : Nat) (line : List Char) : SettingsFault :=
  if '=' ∈ line then .emptyKey number else .malformedLine number

/-- It is a fault of the file that names the line. -/
theorem faultAt_names_line (number : Nat) (line : List Char) :
    (faultAt number line).code = "ERR_CONFIG_FILE_PARSE" ∧
      ∃ reason, (faultAt number line).message =
        "invalid config line " ++ Decimal.text number ++ reason := by
  unfold faultAt
  split
  · exact ⟨rfl, _, rfl⟩
  · exact ⟨rfl, _, rfl⟩

/-! ## How a line is read -/

/-- The assignment of a line, if it is not skipped. -/
def readLine
    (number : Nat)
    (line : List Char) : Except SettingsFault (Option (String × String)) :=
  if isSkipped (trim line) then .ok none
  else (assignment number (trim line)).map some

/-- Lines are read one by one. -/
theorem assignments_eq_mapM (lines : List (List Char × Nat)) :
    assignments lines =
      (lines.mapM fun line => readLine line.2 line.1).map
        (List.flatMap Option.toList) := by
  induction lines with
  | nil => rfl
  | cons numbered others inductionHypothesis =>
      obtain ⟨line, number⟩ := numbered
      rw [assignments, List.mapM_cons, readLine, inductionHypothesis]
      cases others.mapM fun line => readLine line.2 line.1 with
      | error fault =>
          split
          · rfl
          · cases assignment number (trim line) <;> rfl
      | ok found =>
          split
          · rfl
          · cases assignment number (trim line) <;> rfl

/-- A line is cut at its first equals sign, and the key and the value are
trimmed. -/
theorem assignment_trim
    (number : Nat)
    {before : List Char}
    (noEquals : '=' ∉ before)
    (after : List Char) :
    assignment number (trim (before ++ '=' :: after)) =
      if trim before = [] then .error (.emptyKey number)
      else .ok (String.ofList (trim before),
        String.ofList (unquoted (trim after))) := by
  have stillNone : '=' ∉ before.dropWhile isBlank :=
    fun member => noEquals ((List.dropWhile_sublist _).subset member)
  rw [trim_append_cons (by decide), assignment,
    Split.atFirst?_append _ stillNone]
  simp only [trim_dropWhile, trim_trimEnd, List.isEmpty_iff]

theorem assignment_of_not_mem
    (number : Nat)
    {line : List Char}
    (noEquals : '=' ∉ line) :
    assignment number line = .error (.malformedLine number) := by
  rw [assignment, Split.atFirst?_of_not_mem noEquals]

/-- In front of the first equals sign there is nothing but white space, if there
is nothing else in front of any. -/
theorem exists_gap_iff
    {before : List Char}
    (noEquals : '=' ∉ before)
    (after : List Char) :
    (∃ gap rest, before ++ '=' :: after = gap ++ '=' :: rest ∧
      ∀ symbol ∈ gap, isBlank symbol) ↔ ∀ symbol ∈ before, isBlank symbol := by
  constructor
  · rintro ⟨gap, rest, same, allBlank⟩
    have noneInGap : '=' ∉ gap := fun member =>
      absurd (allBlank '=' member) (by decide)
    have cut := Split.atFirst?_append after noEquals
    rw [same, Split.atFirst?_append rest noneInGap] at cut
    exact (Prod.mk.inj (Option.some.inj cut)).1 ▸ allBlank
  · exact fun allBlank => ⟨before, after, rfl, allBlank⟩

/-- Exactly a faulty line is refused, and with its fault. -/
theorem readLine_eq_error_iff
    {number : Nat}
    {line : List Char}
    {fault : SettingsFault} :
    readLine number line = .error fault ↔
      IsFaulty line ∧ fault = faultAt number line := by
  by_cases isRemark : IsRemark line
  · rw [readLine, if_pos (isSkipped_trim_iff.mpr isRemark)]
    exact ⟨nofun, fun ⟨isFaulty, _⟩ => absurd isRemark isFaulty.counts⟩
  · rw [readLine, if_neg (isSkipped_trim_iff.not.mpr isRemark),
      map_eq_error_iff, faultAt]
    by_cases equals : '=' ∈ line
    · obtain ⟨before, after, rfl, noEquals⟩ := List.eq_append_cons_of_mem equals
      rw [assignment_trim number noEquals, if_pos equals]
      constructor
      · intro refused
        split at refused
        · rename_i noKey
          refine ⟨⟨isRemark, .inr ?_⟩, (Except.error.inj refused).symm⟩
          exact (exists_gap_iff noEquals after).mpr (trim_eq_nil_iff.mp noKey)
        · cases refused
      · rintro ⟨isFaulty, rfl⟩
        have gap := isFaulty.noKey.resolve_left (not_not_intro equals)
        exact if_pos (trim_eq_nil_iff.mpr
          ((exists_gap_iff noEquals after).mp gap))
    · have noneLeft : '=' ∉ trim line := fun member =>
        equals (mem_of_mem_trim member)
      rw [assignment_of_not_mem number noneLeft, if_neg equals]
      constructor
      · intro refused
        exact ⟨⟨isRemark, .inl equals⟩, (Except.error.inj refused).symm⟩
      · rintro ⟨-, rfl⟩
        rfl

/-- Every other line is read. -/
theorem exists_readLine_eq_ok_iff {number : Nat} {line : List Char} :
    (∃ result, readLine number line = .ok result) ↔ ¬ IsFaulty line := by
  cases outcome : readLine number line with
  | error fault =>
      have isFaulty := (readLine_eq_error_iff.mp outcome).1
      exact ⟨nofun, fun notFaulty => absurd isFaulty notFaulty⟩
  | ok result =>
      refine ⟨fun _ isFaulty => ?_, fun _ => ⟨result, rfl⟩⟩
      cases outcome.symm.trans (readLine_eq_error_iff.mpr ⟨isFaulty, rfl⟩)

/-! ## Which texts are refused -/

/-- Numbered lines that come after one another are lines that do. -/
theorem zipIdx_eq_append_cons_iff
    {lines : List (List Char)}
    {start : Nat}
    {front rest : List (List Char × Nat)}
    {line : List Char × Nat} :
    lines.zipIdx start = front ++ line :: rest ↔
      ∃ before after, lines = before ++ line.1 :: after ∧
        front = before.zipIdx start ∧ line.2 = start + before.length ∧
        rest = after.zipIdx (start + before.length + 1) := by
  obtain ⟨text, number⟩ := line
  rw [List.zipIdx_eq_append_iff]
  constructor
  · rintro ⟨before, behind, rfl, rfl, shape⟩
    cases behind with
    | nil => cases shape
    | cons first after =>
        rw [List.zipIdx_cons, List.cons.injEq, Prod.mk.injEq] at shape
        obtain ⟨⟨rfl, isNumber⟩, isRest⟩ := shape
        exact ⟨before, after, rfl, rfl, isNumber, isRest⟩
  · rintro ⟨before, after, rfl, rfl, rfl, rfl⟩
    exact ⟨before, text :: after, rfl, rfl, rfl⟩

/-- What holds of all numbered lines holds of all lines. -/
theorem forall_mem_zipIdx_iff
    {holds : List Char -> Prop}
    {lines : List (List Char)}
    {start : Nat} :
    (∀ numbered ∈ lines.zipIdx start, holds numbered.1) ↔
      ∀ line ∈ lines, holds line := by
  have mapped := List.forall_mem_map (f := Prod.fst) (l := lines.zipIdx start)
    (P := holds)
  rw [List.zipIdx_map_fst] at mapped
  exact mapped.symm

/-- A text is refused for its first faulty line, whose number counts all
lines. -/
theorem read_eq_error_iff
    {text : String}
    {fault : SettingsFault} :
    read text = .error fault ↔
      ∃ front line rest, text.toList.splitOn '\n' = front ++ line :: rest ∧
        (∀ earlier ∈ front, ¬ IsFaulty earlier) ∧ IsFaulty line ∧
        fault = faultAt (front.length + 1) line := by
  rw [read, map_eq_error_iff, assignments_eq_mapM, map_eq_error_iff,
    Elementwise.mapM_eq_error_iff, Split.pieces_eq_splitOn]
  simp only [readLine_eq_error_iff, exists_readLine_eq_ok_iff,
    zipIdx_eq_append_cons_iff]
  constructor
  · rintro ⟨-, ⟨line, -⟩, -, ⟨front, rest, whole, rfl, rfl, -⟩, earlier,
      isFaulty, rfl⟩
    exact ⟨front, line, rest, whole, forall_mem_zipIdx_iff.mp earlier, isFaulty,
      by rw [Nat.add_comm]⟩
  · rintro ⟨front, line, rest, whole, earlier, isFaulty, rfl⟩
    exact ⟨front.zipIdx 1, (line, 1 + front.length),
      rest.zipIdx (1 + front.length + 1), ⟨front, rest, whole, rfl, rfl, rfl⟩,
      forall_mem_zipIdx_iff.mpr earlier, isFaulty, by rw [Nat.add_comm]⟩

/-- A text is read exactly if none of its lines is faulty. -/
theorem exists_read_eq_ok_iff {text : String} :
    (∃ values, read text = .ok values) ↔
      ∀ line ∈ text.toList.splitOn '\n', ¬ IsFaulty line := by
  rw [read, assignments_eq_mapM, Split.pieces_eq_splitOn]
  constructor
  · rintro ⟨values, isRead⟩
    obtain ⟨pairs, areRead, -⟩ := map_eq_ok_iff.mp isRead
    obtain ⟨results, linesRead, -⟩ := map_eq_ok_iff.mp areRead
    have everyRead := Elementwise.exists_forall₂_iff.mp
      ⟨results, Elementwise.mapM_eq_ok_iff.mp linesRead⟩
    exact forall_mem_zipIdx_iff.mp fun numbered member =>
      exists_readLine_eq_ok_iff.mp (everyRead numbered member)
  · intro noneFaulty
    obtain ⟨results, everyRead⟩ := Elementwise.exists_forall₂_iff.mpr
      fun numbered member => (@exists_readLine_eq_ok_iff numbered.2 _).mpr
        ((@forall_mem_zipIdx_iff _ _ 1).mpr noneFaulty numbered member)
    rw [Elementwise.mapM_eq_ok_iff.mpr everyRead]
    exact ⟨_, rfl⟩

/-- A text is refused exactly if one of its lines is faulty. -/
theorem exists_read_eq_error_iff {text : String} :
    (∃ fault, read text = .error fault) ↔
      ∃ line ∈ text.toList.splitOn '\n', IsFaulty line := by
  have refused : (∃ fault, read text = .error fault) ↔
      ¬ ∃ values, read text = .ok values := by
    cases read text <;> simp
  rw [refused, exists_read_eq_ok_iff]
  simp only [not_forall, not_not, exists_prop]

/-! ## What is written -/

/-- White space that does not end a line. -/
def IsGap (gap : List Char) : Prop :=
  ∀ symbol ∈ gap, isBlank symbol ∧ symbol ≠ '\n'

theorem isGap_nil : IsGap [] := nofun

/-- A key and a value that can be written: a key that is neither empty nor a
remark, with no white space around it and no equals sign in it, and any value.
Neither of them ends the line. -/
structure IsAssignment (pair : String × String) : Prop where
  /-- The key is not empty. -/
  nonempty : pair.1 ≠ ""
  /-- It is trimmed. -/
  isTrimmed : trimmed pair.1 = pair.1
  /-- It does not begin with a number sign. -/
  noSign : pair.1.toList.head? ≠ some '#'
  /-- It has no equals sign. -/
  noEquals : '=' ∉ pair.1.toList
  /-- It does not end the line. -/
  keyOnLine : '\n' ∉ pair.1.toList
  /-- The value does not end the line. -/
  valueOnLine : '\n' ∉ pair.2.toList

/-- A line, without its end, writes an assignment or nothing. -/
inductive WritesLine : List Char -> Option (String × String) -> Prop where
  | blank {gap : List Char} (isGap : IsGap gap) : WritesLine gap none
  | comment
      {gap text : List Char}
      (isGap : IsGap gap)
      (onLine : '\n' ∉ text) :
      WritesLine (gap ++ '#' :: text) none
  /-- A key, an equals sign and a value between quotation marks, with white space
  around each of them. -/
  | assignment
      {key value : String}
      {front before after back : List Char}
      (isAssignment : IsAssignment (key, value))
      (frontGap : IsGap front)
      (beforeGap : IsGap before)
      (afterGap : IsGap after)
      (backGap : IsGap back) :
      WritesLine
        (front ++ (key.toList ++ before) ++
          '=' :: (after ++ ('"' :: (value.toList ++ ['"']) ++ back)))
        (some (key, value))

/-- A text writes assignments, line by line. -/
inductive WritesText : List Char -> List (String × String) -> Prop where
  /-- The last line need not be ended. -/
  | last
      {line : List Char}
      {pair : Option (String × String)}
      (writes : WritesLine line pair) :
      WritesText line pair.toList
  /-- A line is ended by a line feed, perhaps with a carriage return before
  it. -/
  | line
      {line ending text : List Char}
      {pair : Option (String × String)}
      {others : List (String × String)}
      (writes : WritesLine line pair)
      (ends : ending = ['\n'] ∨ ending = ['\r', '\n'])
      (writesOthers : WritesText text others) :
      WritesText (line ++ ending ++ text) (pair.toList ++ others)

/-! ## What is written is read -/

section Written

variable {line : List Char} {pair : Option (String × String)}

/-- White space may follow a line. -/
theorem WritesLine.append_gap
    {gap : List Char}
    (writes : WritesLine line pair)
    (isGap : IsGap gap) :
    WritesLine (line ++ gap) pair := by
  have joined {front : List Char} (frontGap : IsGap front) :
      IsGap (front ++ gap) :=
    List.forall_mem_append.mpr ⟨frontGap, isGap⟩
  cases writes with
  | blank frontGap => exact .blank (joined frontGap)
  | comment frontGap onLine =>
      rw [List.append_assoc, List.cons_append]
      refine .comment frontGap ?_
      rw [List.mem_append, not_or]
      exact ⟨onLine, fun member => (isGap _ member).2 rfl⟩
  | assignment isAssignment frontGap beforeGap afterGap backGap =>
      have whole := WritesLine.assignment isAssignment frontGap beforeGap
        afterGap (joined backGap)
      simpa only [List.append_assoc, List.cons_append] using whole

/-- No line feed stands in a line. -/
theorem WritesLine.lineFeed_not_mem
    (writes : WritesLine line pair) :
    '\n' ∉ line := by
  have notInGap {gap : List Char} (isGap : IsGap gap) : '\n' ∉ gap :=
    fun member => (isGap _ member).2 rfl
  cases writes with
  | blank isGap => exact notInGap isGap
  | comment isGap onLine => simp [notInGap isGap, onLine]
  | assignment isAssignment frontGap beforeGap afterGap backGap =>
      simp [notInGap frontGap, notInGap beforeGap, notInGap afterGap,
        notInGap backGap, isAssignment.keyOnLine, isAssignment.valueOnLine]

/-- A key or a value is found between the white space around it. -/
theorem trim_gaps
    {front core back : List Char}
    (frontGap : IsGap front)
    (first : ∀ symbol ∈ core.head?, isBlank symbol = false)
    (last : ∀ symbol ∈ core.getLast?, isBlank symbol = false)
    (backGap : IsGap back) :
    trim (front ++ (core ++ back)) = core :=
  IsCore.trim_eq ⟨⟨front, back, rfl, fun symbol member => (frontGap symbol member).1,
    fun symbol member => (backGap symbol member).1⟩, first, last⟩

/-- Between its marks a value stands as it is, whatever marks are in it. -/
theorem unquoted_quoted (value : List Char) :
    unquoted ('"' :: (value ++ ['"'])) = value := by
  have stripped : unquotedBy? '"' ('"' :: (value ++ ['"'])) = some value := by
    cases value with
    | nil => rfl
    | cons first others =>
        rw [List.cons_append, unquotedBy?,
          if_pos ⟨rfl, by rw [← List.cons_append, List.getLast?_concat]⟩,
          ← List.cons_append, List.dropLast_concat]
  rw [unquoted, stripped]
  rfl

/-- A line is not skipped if another character than a number sign comes first in
it. -/
theorem isSkipped_trim_append_cons
    {front : List Char}
    {symbol : Char}
    (frontGap : IsGap front)
    (visible : isBlank symbol = false)
    (noSign : symbol ≠ '#')
    (rest : List Char) :
    isSkipped (trim (front ++ symbol :: rest)) = false := by
  have allBlank : ∀ symbol ∈ front, isBlank symbol :=
    fun symbol member => (frontGap symbol member).1
  rw [trim_append_cons visible, List.dropWhile_eq_nil_iff.mpr allBlank]
  simp [isSkipped, noSign]

/-- A key is what stands between the white space around it. -/
theorem IsAssignment.isCore
    {pair : String × String}
    (isAssignment : IsAssignment pair) :
    IsCore pair.1.toList pair.1.toList := by
  have isTrimmed := congrArg String.toList isAssignment.isTrimmed
  rw [trimmed, String.toList_ofList] at isTrimmed
  have isCore := isCore_trim pair.1.toList
  rwa [isTrimmed] at isCore

/-- The line of an assignment is not skipped. -/
theorem IsAssignment.isSkipped_trim
    {pair : String × String}
    (isAssignment : IsAssignment pair)
    {front : List Char}
    (frontGap : IsGap front)
    (rest : List Char) :
    isSkipped (trim (front ++ (pair.1.toList ++ rest))) = false := by
  obtain ⟨first, others, shape⟩ := List.exists_cons_of_ne_nil
    (String.toList_eq_nil_iff.not.mpr isAssignment.nonempty)
  have begins : pair.1.toList.head? = some first := by rw [shape]; rfl
  rw [shape, List.cons_append]
  refine isSkipped_trim_append_cons frontGap
    (isAssignment.isCore.first first begins) ?_ _
  rintro rfl
  exact isAssignment.noSign begins

/-- What a line writes is read. -/
theorem WritesLine.readLine_eq_ok
    (writes : WritesLine line pair)
    (number : Nat) :
    readLine number line = .ok pair := by
  have allBlank {gap : List Char} (isGap : IsGap gap) :
      ∀ symbol ∈ gap, isBlank symbol :=
    fun symbol member => (isGap symbol member).1
  cases writes with
  | blank isGap =>
      exact if_pos (isSkipped_trim_iff.mpr (.blank (allBlank isGap)))
  | comment isGap onLine =>
      exact if_pos (isSkipped_trim_iff.mpr (.comment (allBlank isGap)))
  | @assignment key value front before after back isAssignment frontGap
      beforeGap afterGap backGap =>
      have isCore := isAssignment.isCore
      have keyFound : trim (front ++ (key.toList ++ before)) = key.toList :=
        trim_gaps frontGap isCore.first isCore.last beforeGap
      have valueFound : trim (after ++ ('"' :: (value.toList ++ ['"']) ++ back)) =
          '"' :: (value.toList ++ ['"']) := by
        refine trim_gaps afterGap (by rintro symbol ⟨⟩; rfl) ?_ backGap
        rw [← List.cons_append, List.getLast?_concat]
        rintro symbol ⟨⟩
        rfl
      have notInGap {gap : List Char} (isGap : IsGap gap) : '=' ∉ gap :=
        fun member => absurd (isGap _ member).1 (by decide)
      have noEquals : '=' ∉ front ++ (key.toList ++ before) := by
        simp [notInGap frontGap, isAssignment.noEquals, notInGap beforeGap]
      have nonempty : key.toList ≠ [] :=
        String.toList_eq_nil_iff.not.mpr isAssignment.nonempty
      have counts := isAssignment.isSkipped_trim frontGap (before ++
        '=' :: (after ++ ('"' :: (value.toList ++ ['"']) ++ back)))
      rw [← List.append_assoc key.toList, ← List.append_assoc front] at counts
      rw [readLine, counts, assignment_trim number noEquals, keyFound,
        valueFound, unquoted_quoted, if_neg nonempty, String.ofList_toList,
        String.ofList_toList]
      rfl

/-- A line that is ended is read for itself. -/
theorem WritesLine.assignments_eq
    (writes : WritesLine line pair)
    (number : Nat)
    (text : List Char) :
    assignments ((Split.pieces '\n' (line ++ '\n' :: text)).zipIdx number) =
      (assignments ((Split.pieces '\n' text).zipIdx (number + 1))).map
        (pair.toList ++ ·) := by
  rw [Split.pieces_append_cons,
    Split.pieces_of_not_mem writes.lineFeed_not_mem, List.singleton_append,
    List.zipIdx_cons, assignments_eq_mapM, assignments_eq_mapM, List.mapM_cons,
    writes.readLine_eq_ok]
  cases ((Split.pieces '\n' text).zipIdx (number + 1)).mapM
      fun line => readLine line.2 line.1 with
  | error fault => rfl
  | ok pairs => rfl

end Written

/-- What a text writes is read, whatever the number of its first line. -/
theorem WritesText.assignments_eq_ok
    {text : List Char}
    {pairs : List (String × String)}
    (writes : WritesText text pairs)
    (number : Nat) :
    assignments ((Split.pieces '\n' text).zipIdx number) = .ok pairs := by
  induction writes generalizing number with
  | @last line pair writes =>
      rw [Split.pieces_of_not_mem writes.lineFeed_not_mem, List.zipIdx_singleton,
        assignments_eq_mapM, List.mapM_cons, writes.readLine_eq_ok]
      exact congrArg Except.ok (List.append_nil pair.toList)
  | @line line ending text pair others writes ends _ inductionHypothesis =>
      rcases ends with rfl | rfl
      · rw [List.append_assoc, List.singleton_append, writes.assignments_eq,
          inductionHypothesis]
        rfl
      · have isGap : IsGap ['\r'] := by simp [IsGap, isBlank]
        have ended : line ++ ['\r', '\n'] ++ text =
            line ++ ['\r'] ++ '\n' :: text := by
          simp
        rw [ended, (writes.append_gap isGap).assignments_eq,
          inductionHypothesis]
        rfl

/-- Every list of assignments is written by some text, line by line without
anything that does not count. -/
theorem exists_writesText
    {pairs : List (String × String)}
    (areAssignments : ∀ pair ∈ pairs, IsAssignment pair) :
    ∃ text : String, WritesText text.toList pairs := by
  have general : ∃ text, WritesText text pairs := by
    induction pairs with
    | nil => exact ⟨[], .last (.blank isGap_nil)⟩
    | cons pair others inductionHypothesis =>
        obtain ⟨isAssignment, othersAre⟩ :=
          List.forall_mem_cons.mp areAssignments
        obtain ⟨text, writesOthers⟩ := inductionHypothesis othersAre
        exact ⟨_, .line (.assignment isAssignment isGap_nil isGap_nil isGap_nil
          isGap_nil) (.inl rfl) writesOthers⟩
  obtain ⟨text, writes⟩ := general
  exact ⟨String.ofList text, by rwa [String.toList_ofList]⟩

/-- Whatever assignments can be written are read back from every text that
writes them: the text is accepted, and what is found at a key is its last value.
A text is refused exactly if one of its lines is faulty, with a fault of the file
that names the first such line by its number among all lines. -/
theorem written_assignments_are_read_and_first_faulty_line_is_named :
    (∀ pairs : List (String × String), (∀ pair ∈ pairs, IsAssignment pair) ->
      ∃ text : String, WritesText text.toList pairs) ∧
    (∀ (text : String) (pairs : List (String × String)),
      WritesText text.toList pairs ->
        ∃ values, read text = .ok values ∧
          ∀ key value, values.get? key = some value ↔
            TextMap.IsLast pairs key value) ∧
    ∀ text : String,
      ((∃ fault, read text = .error fault) ↔
        ∃ line ∈ text.toList.splitOn '\n', IsFaulty line) ∧
      ∀ fault, read text = .error fault ↔
        ∃ front line rest, text.toList.splitOn '\n' = front ++ line :: rest ∧
          (∀ earlier ∈ front, ¬ IsFaulty earlier) ∧ IsFaulty line ∧
          fault = faultAt (front.length + 1) line ∧
          fault.code = "ERR_CONFIG_FILE_PARSE" ∧
          ∃ reason, fault.message = "invalid config line " ++
            Decimal.text (front.length + 1) ++ reason := by
  refine ⟨fun _ => exists_writesText, fun text pairs writes => ?_,
    fun text => ⟨exists_read_eq_error_iff, fun fault => ?_⟩⟩
  · refine ⟨TextMap.ofPairs pairs, ?_, fun _ _ =>
      TextMap.get?_ofPairs_iff_isLast⟩
    rw [read, writes.assignments_eq_ok]
    rfl
  · rw [read_eq_error_iff]
    constructor
    · rintro ⟨front, line, rest, whole, earlier, isFaulty, rfl⟩
      exact ⟨front, line, rest, whole, earlier, isFaulty, rfl,
        faultAt_names_line _ line⟩
    · rintro ⟨front, line, rest, whole, earlier, isFaulty, isFault, -⟩
      exact ⟨front, line, rest, whole, earlier, isFaulty, isFault⟩

/-- A file with a remark, an assignment in the midst of white space and a second
one to the same key, whose line is not ended. -/
def sampleText : String :=
  "# catalog\r\n\n A =\t\"say \"hi\" = # \" \r\nA=\"'\""

/-- It writes both assignments. -/
theorem writesText_sampleText :
    WritesText sampleText.toList [("A", "say \"hi\" = # "), ("A", "'")] := by
  have space : IsGap [' '] := by simp [IsGap, isBlank]
  have tab : IsGap ['\t'] := by simp [IsGap, isBlank]
  have first : IsAssignment ("A", "say \"hi\" = # ") := by
    constructor <;> decide
  have second : IsAssignment ("A", "'") := by
    constructor <;> decide
  have whole := WritesText.line
    (.comment isGap_nil (by decide : '\n' ∉ " catalog".toList)) (.inr rfl)
    (.line (.blank isGap_nil) (.inl rfl)
      (.line (.assignment first space space tab space) (.inr rfl)
        (.last (.assignment second isGap_nil isGap_nil isGap_nil isGap_nil))))
  exact whole

/-- The second value is found in it. Of another text the third line is
named. -/
theorem sampleText_is_read_and_third_line_is_named :
    (∃ values, read sampleText = .ok values ∧
      values.get? "A" = some "'") ∧
    read "A=1\n\n = 2\nB" = .error (.emptyKey 3) := by
  obtain ⟨-, isRead, isRefused⟩ :=
    written_assignments_are_read_and_first_faulty_line_is_named
  constructor
  · obtain ⟨values, accepted, last⟩ := isRead _ _ writesText_sampleText
    exact ⟨values, accepted,
      (last _ _).mpr ⟨[("A", "say \"hi\" = # ")], [], rfl, nofun⟩⟩
  · refine ((isRefused _).2 _).mpr
      ⟨["A=1".toList, []], " = 2".toList, ["B".toList], by decide, ?_⟩
    have firstRead : readLine 1 "A=1".toList = .ok (some ("A", "1")) := by
      decide
    have secondRead : readLine 2 [] = .ok none := rfl
    have thirdRefused : readLine 3 " = 2".toList = .error (.emptyKey 3) := by
      decide
    obtain ⟨isFaulty, isFault⟩ := readLine_eq_error_iff.mp thirdRefused
    refine ⟨?_, isFaulty, isFault, rfl, _, rfl⟩
    rw [List.forall_mem_cons, List.forall_mem_singleton]
    exact ⟨exists_readLine_eq_ok_iff.mp ⟨_, firstRead⟩,
      exists_readLine_eq_ok_iff.mp ⟨_, secondRead⟩⟩

end SettingsFile
end BookLookup
