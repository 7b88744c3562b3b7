import BookLookup.Proofs.Settings.FileText
import BookLookup.Proofs.Settings.NormalForm
import BookLookup.Proofs.Text.WellFormed

/-!
# Two layers of values

The values of an environment lie above those of its settings file: a value of
the environment hides all assignments of the file to the same key, even if it is
blank, and of the assignments to any other key the last one counts. A file that
is no text or has a faulty line is reported whatever the environment gives.

What a line assigns is told for every line that is not faulty, however its value
is quoted, so that two files are alike if they make the same assignments to each
key that is not hidden.
-/

namespace BookLookup

namespace SettingsFile

/-! ## What a line assigns -/

/-- The two marks that may stand around a value. -/
inductive IsMark : Char -> Prop where
  | quotation : IsMark '"'
  | apostrophe : IsMark '\''

/-- What is written for a value stands for it: with a pair of marks around it,
or, if no pair stands around it, as it is. -/
inductive StandsFor : List Char -> List Char -> Prop where
  /-- One pair of marks stands around the value. -/
  | marked
      {mark : Char}
      {value : List Char}
      (isMark : IsMark mark) :
      StandsFor (mark :: (value ++ [mark])) value
  /-- No pair of marks stands around it. -/
  | bare
      {value : List Char}
      (noMarks : ∀ mark inner, IsMark mark -> value ≠ mark :: (inner ++ [mark])) :
      StandsFor value value

/-- A line assigns a value to a key, or nothing if it is skipped. -/
inductive Assigns : List Char -> Option (String × String) -> Prop where
  | remark {line : List Char} (isRemark : IsRemark line) : Assigns line none
  /-- The key stands in front of the first equals sign, and behind it stands
  what is written for the value. White space around both does not count. -/
  | assignment
      {before after written : List Char}
      {key value : String}
      (counts : ¬ IsRemark (before ++ '=' :: after))
      (noEquals : '=' ∉ before)
      (nonempty : key ≠ "")
      (isKey : IsCore key.toList before)
      (isWritten : IsCore written after)
      (standsFor : StandsFor written value.toList) :
      Assigns (before ++ '=' :: after) (some (key, value))

/-- A pair of equal marks is taken off if there is one. -/
theorem unquotedBy?_eq_some_iff
    {mark : Char}
    {written value : List Char} :
    unquotedBy? mark written = some value ↔
      written = mark :: (value ++ [mark]) := by
  match written with
  | [] => simp [unquotedBy?]
  | [only] => simp [unquotedBy?]
  | first :: second :: others =>
      rw [unquotedBy?]
      constructor
      · intro taken
        split at taken
        · rename_i marks
          obtain ⟨rfl, isLast⟩ := marks
          rw [← Option.some.inj taken, List.dropLast_append_getLast? _ isLast]
        · cases taken
      · intro isMarked
        obtain ⟨rfl, behind⟩ := List.cons.inj isMarked
        rw [behind, List.getLast?_concat, List.dropLast_concat]
        exact if_pos ⟨rfl, rfl⟩

/-- A value is taken out of the marks around it. -/
theorem unquoted_eq_iff {written value : List Char} :
    unquoted written = value ↔ StandsFor written value := by
  rw [unquoted]
  constructor
  · rintro rfl
    cases quotation : unquotedBy? '"' written with
    | some value =>
        rw [unquotedBy?_eq_some_iff.mp quotation]
        exact .marked .quotation
    | none =>
        cases apostrophe : unquotedBy? '\'' written with
        | some value =>
            rw [unquotedBy?_eq_some_iff.mp apostrophe]
            exact .marked .apostrophe
        | none =>
            refine .bare fun mark inner isMark isMarked => ?_
            have taken := unquotedBy?_eq_some_iff.mpr isMarked
            cases isMark with
            | quotation => cases quotation.symm.trans taken
            | apostrophe => cases apostrophe.symm.trans taken
  · intro standsFor
    cases standsFor with
    | @marked mark value isMark =>
        have taken := unquotedBy?_eq_some_iff.mpr
          (rfl : mark :: (value ++ [mark]) = mark :: (value ++ [mark]))
        cases isMark with
        | quotation =>
            rw [taken]
            rfl
        | apostrophe =>
            have noQuotation :
                unquotedBy? '"' ('\'' :: (value ++ ['\''])) = none := by
              refine Option.eq_none_iff_forall_ne_some.mpr fun inner found => ?_
              have begins := (List.cons.inj
                (unquotedBy?_eq_some_iff.mp found)).1
              exact absurd begins (by decide)
            rw [noQuotation, taken]
            rfl
    | bare noMarks =>
        have notTaken {mark : Char} (isMark : IsMark mark) :
            unquotedBy? mark written = none := by
          refine Option.eq_none_iff_forall_ne_some.mpr fun inner found => ?_
          exact noMarks mark inner isMark (unquotedBy?_eq_some_iff.mp found)
        rw [notTaken .quotation, notTaken .apostrophe]
        rfl

/-- A line is read as what it assigns. -/
theorem readLine_eq_ok_iff
    {number : Nat}
    {line : List Char}
    {pair : Option (String × String)} :
    readLine number line = .ok pair ↔ Assigns line pair := by
  constructor
  · intro isRead
    by_cases isRemark : IsRemark line
    · rw [readLine, if_pos (isSkipped_trim_iff.mpr isRemark)] at isRead
      obtain rfl := Except.ok.inj isRead
      exact .remark isRemark
    · by_cases equals : '=' ∈ line
      · obtain ⟨before, after, rfl, noEquals⟩ :=
          List.eq_append_cons_of_mem equals
        rw [readLine, if_neg (isSkipped_trim_iff.not.mpr isRemark),
          assignment_trim number noEquals] at isRead
        split at isRead
        · cases isRead
        · rename_i hasKey
          obtain rfl := Except.ok.inj isRead
          refine .assignment isRemark noEquals ?_ ?_ (isCore_trim after) ?_
          · rwa [Ne, ← String.toList_eq_nil_iff, String.toList_ofList]
          · rw [String.toList_ofList]
            exact isCore_trim before
          · rw [String.toList_ofList]
            exact unquoted_eq_iff.mp rfl
      · have isFaulty : IsFaulty line := ⟨isRemark, .inl equals⟩
        cases isRead.symm.trans (readLine_eq_error_iff.mpr ⟨isFaulty, rfl⟩)
  · intro assigns
    cases assigns with
    | remark isRemark => exact if_pos (isSkipped_trim_iff.mpr isRemark)
    | assignment counts noEquals nonempty isKey isWritten standsFor =>
        rw [readLine, if_neg (isSkipped_trim_iff.not.mpr counts),
          assignment_trim number noEquals, isKey.trim_eq, isWritten.trim_eq,
          unquoted_eq_iff.mpr standsFor,
          if_neg (String.toList_eq_nil_iff.not.mpr nonempty),
          String.ofList_toList, String.ofList_toList]
        rfl

/-- The assignments of a text are those of its lines, in order. -/
def MakesAssignments (text : String) (pairs : List (String × String)) : Prop :=
  ∃ found, List.Forall₂ Assigns (text.toList.splitOn '\n') found ∧
    found.flatMap Option.toList = pairs

/-- Numbered lines are read as what the lines assign. -/
theorem forall₂_readLine_zipIdx_iff
    {lines : List (List Char)}
    {start : Nat}
    {found : List (Option (String × String))} :
    List.Forall₂ (fun numbered pair => readLine numbered.2 numbered.1 = .ok pair)
        (lines.zipIdx start) found ↔
      List.Forall₂ Assigns lines found := by
  simp only [readLine_eq_ok_iff]
  induction lines generalizing start found with
  | nil => simp
  | cons line others inductionHypothesis =>
      simp only [List.zipIdx_cons, List.forall₂_cons_left_iff,
        inductionHypothesis]

theorem makesAssignments_iff
    {text : String}
    {pairs : List (String × String)} :
    MakesAssignments text pairs ↔
      assignments ((Split.pieces '\n' text.toList).zipIdx 1) = .ok pairs := by
  simp only [map_eq_ok_iff, assignments_eq_mapM, Split.pieces_eq_splitOn,
    Elementwise.mapM_eq_ok_iff, forall₂_readLine_zipIdx_iff, MakesAssignments]

theorem read_eq_ok_iff {text : String} {values : TextMap String} :
    read text = .ok values ↔
      ∃ pairs, MakesAssignments text pairs ∧ TextMap.ofPairs pairs = values := by
  simp only [read, map_eq_ok_iff, makesAssignments_iff]

/-- Assignments are made by every text without a faulty line. -/
theorem exists_makesAssignments_iff {text : String} :
    (∃ pairs, MakesAssignments text pairs) ↔
      ∀ line ∈ text.toList.splitOn '\n', ¬ IsFaulty line := by
  rw [← exists_read_eq_ok_iff]
  constructor
  · rintro ⟨pairs, makes⟩
    exact ⟨_, read_eq_ok_iff.mpr ⟨pairs, makes, rfl⟩⟩
  · rintro ⟨values, isRead⟩
    obtain ⟨pairs, makes, -⟩ := read_eq_ok_iff.mp isRead
    exact ⟨pairs, makes⟩

/-- A text makes its assignments and no others. -/
theorem MakesAssignments.unique
    {text : String}
    {pairs others : List (String × String)}
    (makes : MakesAssignments text pairs)
    (makesOthers : MakesAssignments text others) :
    pairs = others :=
  Except.ok.inj ((makesAssignments_iff.mp makes).symm.trans
    (makesAssignments_iff.mp makesOthers))

end SettingsFile

/-! ## Above and beneath -/

namespace Environment

open SettingsFile (MakesAssignments IsFaulty)

/-- Values replace others key by key. -/
theorem get?_override
    (values others : TextMap String)
    (key : String) :
    (override values others).get? key =
      (others.get? key).or (values.get? key) := by
  have ownIsLast (value : String) :
      TextMap.IsLast others.entries key value ↔
        others.get? key = some value := by
    rw [← TextMap.get?_ofPairs_iff_isLast, TextMap.ofPairs_entries]
  have noOwn : (∀ entry ∈ others.entries, entry.1 ≠ key) ↔
      others.get? key = none := by
    rw [Option.eq_none_iff_forall_ne_some]
    simp only [ne_eq, ← TextMap.mem_entries_iff, Prod.forall]
    exact ⟨fun absent value member => absurd rfl (absent key value member),
      fun absent _ value member same => absent value (same ▸ member)⟩
  refine Option.ext fun value => ?_
  rw [override, TextMap.get?_foldl_insert_eq_some_iff, ownIsLast, noOwn]
  cases others.get? key with
  | none => simp
  | some own => simp

/-- Values in two layers: those of one's own, whatever they are, and at all
other keys the last ones of some assignments. -/
structure Layered
    (own : TextMap String)
    (pairs : List (String × String))
    (values : TextMap String) : Prop where
  /-- One's own values stay. -/
  above : ∀ key value, own.get? key = some value ->
    values.get? key = some value
  /-- At the keys without one, the last assignment counts. -/
  beneath : ∀ key, own.get? key = none -> ∀ value,
    values.get? key = some value ↔ TextMap.IsLast pairs key value

/-- What replaces the values of assignments lies above them. -/
theorem layered_override
    (own : TextMap String)
    (pairs : List (String × String)) :
    Layered own pairs (override (TextMap.ofPairs pairs) own) := by
  constructor
  case above =>
    intro key value found
    rw [get?_override, found, Option.some_or]
  case beneath =>
    intro key absent value
    rw [get?_override, absent, Option.none_or, TextMap.get?_ofPairs_iff_isLast]

/-- Layers of assignments whose last values are the same where they are not
hidden have the same values. -/
theorem Layered.congr
    {own : TextMap String}
    {pairs others : List (String × String)}
    {values otherValues : TextMap String}
    (layered : Layered own pairs values)
    (otherLayered : Layered own others otherValues)
    (sameLast : ∀ key, own.get? key = none -> ∀ value,
      TextMap.IsLast pairs key value ↔ TextMap.IsLast others key value) :
    values = otherValues := by
  refine TextMap.eq_of_get?_eq fun key => ?_
  cases found : own.get? key with
  | some value =>
      rw [layered.above key value found, otherLayered.above key value found]
  | none =>
      refine Option.ext fun value => ?_
      rw [layered.beneath key found, otherLayered.beneath key found,
        sameLast key found]

/-! ## Files -/

/-- The file at a path can be read and holds a text. -/
def Holds (environment : Environment) (path text : String) : Prop :=
  environment.readFile path = some (Utf8.octets text)

/-- The text of a file is the one that it holds. -/
theorem readText_eq_ok_iff
    {environment : Environment}
    {path text : String} :
    environment.readText path = .ok text ↔ environment.Holds path text := by
  have isText : (environment.readFile path).bind Utf8.decode? =
      some text.toList ↔ environment.Holds path text := by
    simp [Option.bind_eq_some_iff, Utf8.decode?_eq_some_iff, Holds,
      Utf8.octets]
  rw [← isText, readText]
  split
  · rename_i symbols found
    rw [found, Except.ok.injEq, Option.some.injEq, ← String.toList_inj,
      String.toList_ofList]
  · rename_i notFound
    rw [notFound]
    simp

/-- A file that holds no text is reported with its path. -/
theorem readText_of_not_holds
    {environment : Environment}
    {path : String}
    (noText : ∀ text, ¬ environment.Holds path text) :
    environment.readText path = .error (.unreadableFile path) := by
  cases outcome : environment.readText path with
  | ok text => exact absurd (readText_eq_ok_iff.mp outcome) (noText text)
  | error fault =>
      rw [readText] at outcome
      split at outcome
      · cases outcome
      · rw [← Except.error.inj outcome]

/-- The values of the file that is named are those of its text. -/
theorem fileValues_of_holds
    {environment : Environment}
    {path text : String}
    (named : environment.settingsPath? = some path)
    (holds : environment.Holds path text) :
    environment.fileValues = SettingsFile.read text := by
  rw [fileValues, named]
  change (environment.readText path >>= SettingsFile.read) = _
  rw [readText_eq_ok_iff.mpr holds]
  rfl

theorem settings_of_fileValues_eq_error
    {environment : Environment}
    {fault : SettingsFault}
    (refused : environment.fileValues = .error fault) :
    environment.settings = .error fault := by
  rw [settings, refused]
  rfl

/-- The settings are those of the values in two layers. -/
theorem settings_of_layered
    {environment : Environment}
    {path text : String}
    {pairs : List (String × String)}
    {values : TextMap String}
    (named : environment.settingsPath? = some path)
    (holds : environment.Holds path text)
    (makes : MakesAssignments text pairs)
    (layered : Layered environment.values pairs values) :
    environment.settings = Settings.ofValues values := by
  have isRead : SettingsFile.read text = .ok (.ofPairs pairs) :=
    SettingsFile.read_eq_ok_iff.mpr ⟨pairs, makes, rfl⟩
  have merged : environment.merged =
      .ok (override (.ofPairs pairs) environment.values) := by
    rw [Environment.merged, fileValues_of_holds named holds, isRead]
    rfl
  rw [settings_of_merged merged,
    (layered_override environment.values pairs).congr layered
      fun _ _ _ => Iff.rfl]

/-- Without a file, an environment gives its own values. With one, a file that
holds no text and a file with a faulty line are reported whatever values the
environment has. Any other file makes assignments, and the settings are those of
the two layers: the environment's own values, even the blank ones, above the last
assignments of the file. So a file may be replaced by any other that makes the
same assignments, in the same order, to each key that the environment does not
have. -/
theorem own_values_win_key_by_key (environment : Environment) :
    (Settings.Gives environment.values "CATALOG_CONFIG_PATH" none ->
      environment.settings = Settings.ofValues environment.values) ∧
    ∀ path, Settings.Gives environment.values "CATALOG_CONFIG_PATH"
        (some path) ->
      ((∀ text, ¬ environment.Holds path text) ->
        environment.settings = .error (.unreadableFile path) ∧
          (SettingsFault.unreadableFile path).code = "ERR_CONFIG_FILE_READ") ∧
      ∀ text, environment.Holds path text ->
        ((∃ line ∈ text.toList.splitOn '\n', IsFaulty line) ->
          ∃ fault, environment.settings = .error fault ∧
            fault.code = "ERR_CONFIG_FILE_PARSE") ∧
        ((∀ line ∈ text.toList.splitOn '\n', ¬ IsFaulty line) ->
          ∃! pairs, MakesAssignments text pairs ∧
            ∃! values, Layered environment.values pairs values ∧
              environment.settings = Settings.ofValues values) ∧
        ∀ (other : Environment) (otherText : String)
          (pairs others : List (String × String)),
          other.values = environment.values -> other.Holds path otherText ->
          MakesAssignments text pairs -> MakesAssignments otherText others ->
          (∀ key, environment.values.get? key = none ->
            pairs.filter (fun pair => pair.1 = key) =
              others.filter fun pair => pair.1 = key) ->
          environment.settings = other.settings := by
  constructor
  · intro noPath
    have noFile : environment.settingsPath? = none :=
      Settings.gives_iff.mp noPath
    exact settings_of_merged (merged_of_no_file noFile)
  intro path givesPath
  have named : environment.settingsPath? = some path :=
    Settings.gives_iff.mp givesPath
  have layered (pairs : List (String × String)) :=
    layered_override environment.values pairs
  refine ⟨fun noText => ?_,
    fun text holds => ⟨fun faulty => ?_, fun noneFaulty => ?_, ?_⟩⟩
  · have refused : environment.fileValues = .error (.unreadableFile path) := by
      rw [fileValues, named]
      change (environment.readText path >>= SettingsFile.read) = _
      rw [readText_of_not_holds noText]
      rfl
    exact ⟨settings_of_fileValues_eq_error refused, rfl⟩
  · obtain ⟨fault, isRefused⟩ :=
      SettingsFile.exists_read_eq_error_iff.mpr faulty
    have refused := (fileValues_of_holds named holds).trans isRefused
    obtain ⟨front, line, rest, -, -, -, rfl⟩ :=
      SettingsFile.read_eq_error_iff.mp isRefused
    exact ⟨_, settings_of_fileValues_eq_error refused,
      (SettingsFile.faultAt_names_line _ line).1⟩
  · obtain ⟨pairs, makes⟩ :=
      SettingsFile.exists_makesAssignments_iff.mpr noneFaulty
    refine ⟨pairs, ⟨makes, _, ⟨layered pairs,
      settings_of_layered named holds makes (layered pairs)⟩, ?_⟩, ?_⟩
    · exact fun values isLayered =>
        isLayered.1.congr (layered pairs) fun _ _ _ => Iff.rfl
    · exact fun others makesOthers => makesOthers.1.unique makes
  · intro other otherText pairs others sameValues otherHolds makes makesOthers
      sameWhereAbsent
    have otherNamed : other.settingsPath? = some path := by
      rw [settingsPath?, sameValues]
      exact named
    have otherLayered : Layered other.values others
        (override (TextMap.ofPairs others) environment.values) := by
      rw [sameValues]
      exact layered others
    have sameLayers := (layered pairs).congr (layered others)
      fun key absent value => by
        rw [← TextMap.isLast_filter_iff, sameWhereAbsent key absent,
          TextMap.isLast_filter_iff]
    rw [settings_of_layered named holds makes (layered pairs), sameLayers,
      settings_of_layered otherNamed otherHolds makesOthers otherLayered]

/-- An environment with a blank region and a file of some text. -/
def withFile (text : String) : Environment where
  values :=
    (Settings.fewValues.insert "AWS_REGION" " ").insert "CATALOG_CONFIG_PATH"
      " books.env\t"
  readFile path := if path = "books.env" then some (Utf8.octets text) else none

/-- A file with an assignment to the region and two to the table. -/
def longText : String :=
  "# books\r\nCATALOG_TABLE_NAME=old\nAWS_REGION=eu-west-1\n" ++
    "CATALOG_ASSET_BUCKET='covers'\nCATALOG_TABLE_NAME = \"new\""

/-- A file without the first of them, and with the others quoted and arranged in
another way. -/
def shortText : String :=
  "CATALOG_TABLE_NAME='old'\nCATALOG_TABLE_NAME=new\nCATALOG_ASSET_BUCKET=covers"

/-- Both files give the same settings, in which the region of the first is
hidden by the blank one. An unreadable line is reported all the same. -/
theorem blank_region_hides_that_of_file :
    (withFile longText).settings = (withFile shortText).settings ∧
    (withFile longText).settings.map
        (fun settings => (settings.region, settings.tableName)) =
      .ok ("us-west-1", "new") ∧
    ∃ fault, (withFile "AWS_REGION").settings = .error fault ∧
      fault.code = "ERR_CONFIG_FILE_PARSE" := by
  have path : Settings.value? (withFile "").values "CATALOG_CONFIG_PATH" =
      some "books.env" := by decide
  have byTheorem (text : String) :=
    ((own_values_win_key_by_key (withFile text)).2 "books.env"
      (Settings.gives_iff.mpr path)).2 text rfl
  refine ⟨?_, by decide +kernel, ?_⟩
  · refine (byTheorem longText).2.2 (withFile shortText) shortText
      [("CATALOG_TABLE_NAME", "old"), ("AWS_REGION", "eu-west-1"),
        ("CATALOG_ASSET_BUCKET", "covers"), ("CATALOG_TABLE_NAME", "new")]
      [("CATALOG_TABLE_NAME", "old"), ("CATALOG_TABLE_NAME", "new"),
        ("CATALOG_ASSET_BUCKET", "covers")] rfl rfl
      (SettingsFile.makesAssignments_iff.mpr (by decide))
      (SettingsFile.makesAssignments_iff.mpr (by decide)) ?_
    intro key absent
    have notHidden : "AWS_REGION" ≠ key := by
      rintro rfl
      exact absurd absent (by decide)
    by_cases isTable : "CATALOG_TABLE_NAME" = key
    · simp [← isTable]
    · simp [List.filter_cons, notHidden, isTable]
  · have noAssignment : SettingsFile.readLine 1 "AWS_REGION".toList =
        .error (.malformedLine 1) := by decide
    refine (byTheorem "AWS_REGION").1 ⟨"AWS_REGION".toList, by decide, ?_⟩
    exact (SettingsFile.readLine_eq_error_iff.mp noAssignment).1

end Environment
end BookLookup
