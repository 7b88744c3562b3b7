import BookLookup.Proofs.Json.Fields
import BookLookup.Proofs.Json.Grammar
import BookLookup.Proofs.Record

/-!
# The members of a stored book

A text of an object is read as a stored book exactly if the identity is among its
members, no field is given twice, and every field that is given has a value of
its kind. The book has the texts that are given, nothing for the fields that are
not, and no image key if it is not given or null. The order of the members does
not matter, nor do members with other names.
-/

namespace BookLookup

/-! ## Values of fields -/

namespace Json

theorem asString?_eq_some_iff {value : Json} {text : String} :
    asString? value = some text ↔ value = .string text := by
  cases value <;> simp [asString?]

/-- Which value is an array of texts. -/
theorem asStrings?_eq_some_iff {value : Json} {texts : List String} :
    asStrings? value = some texts ↔ value = ofStrings texts := by
  cases value with
  | array elements =>
      have each : elements.mapM asString? = some texts ↔
          List.Forall₂ Eq elements (texts.map string) := by
        rw [Elementwise.mapM_eq_some_iff, List.forall₂_map_right_iff]
        simp only [asString?_eq_some_iff]
      rw [asStrings?, each, List.forall₂_eq_eq_eq, ofStrings, array.injEq]
  | _ => simp [asStrings?, ofStrings]

end Json

namespace StoredRecord

variable {members : List (String × Json)} {record : StoredRecord}

/-- What is found for a text is the text, or nothing that stands for the empty
one. -/
inductive TakesText : Option Json -> String -> Prop where
  | absent : TakesText none ""
  | text (text : String) : TakesText (some (.string text)) text

/-- What is found for texts is an array of them, or nothing that stands for
none. -/
inductive TakesTexts : Option Json -> List String -> Prop where
  | absent : TakesTexts none []
  | texts (texts : List String) :
      TakesTexts (some (Json.ofStrings texts)) texts

/-- What is found for a key is a text, or stands for no key. -/
inductive TakesKey : Option Json -> Option String -> Prop where
  | absent : TakesKey none none
  | null : TakesKey (some .null) none
  | text (text : String) : TakesKey (some (.string text)) (some text)

/-- Members give a stored book. -/
structure GivenBy
    (members : List (String × Json))
    (record : StoredRecord) : Prop where
  /-- The identity is given. -/
  id : Json.Finds members "id" (some (.string record.id))
  /-- The number of the edition is given, or empty. -/
  isbn : ∃ found, Json.Finds members "isbn" found ∧ TakesText found record.isbn
  /-- The title is given, or empty. -/
  title : ∃ found,
    Json.Finds members "title" found ∧ TakesText found record.title
  /-- The publisher is given, or empty. -/
  publisher : ∃ found,
    Json.Finds members "publisher" found ∧ TakesText found record.publisher
  /-- The authors are given, or there are none. -/
  authors : ∃ found,
    Json.Finds members "authors" found ∧ TakesTexts found record.authors
  /-- The genres are given, or there are none. -/
  genres : ∃ found,
    Json.Finds members "genres" found ∧ TakesTexts found record.genres
  /-- The key of the image is given, or missing. -/
  imageKey : ∃ found,
    Json.Finds members "imageKey" found ∧ TakesKey found record.imageKey

/-- Members are those of a stored book. -/
structure Acceptable (members : List (String × Json)) : Prop where
  /-- The identity is given. -/
  identified : ∃ member ∈ members, member.1 = "id"
  /-- No field is given twice. -/
  notTwice : ∀ name ∈ fieldNames.flatten,
    (members.map Prod.fst).count name ≤ 1
  /-- The identity and the fields of one text are texts. -/
  texts : ∀ name ∈ ["id", "isbn", "title", "publisher"],
    ∀ member ∈ members, member.1 = name -> ∃ text, member.2 = .string text
  /-- The fields of several texts are arrays of texts. -/
  lists : ∀ name ∈ ["authors", "genres"], ∀ member ∈ members,
    member.1 = name -> ∃ texts, member.2 = Json.ofStrings texts
  /-- The key of the image is a text or null. -/
  key : ∀ member ∈ members, member.1 = "imageKey" ->
    member.2 = .null ∨ ∃ text, member.2 = .string text

/-! ## Reading a field -/

/-- What is read as a text. -/
theorem takesText_iff {found : Option Json} {text : String} :
    Json.withDefault? Json.asString? "" found = some text ↔
      TakesText found text := by
  constructor
  · intro read
    cases found with
    | none =>
        obtain rfl := Option.some.inj read
        exact .absent
    | some value =>
        obtain rfl := Json.asString?_eq_some_iff.mp read
        exact .text text
  · intro takes
    cases takes with
    | absent => rfl
    | text text => rfl

/-- What is read as texts. -/
theorem takesTexts_iff {found : Option Json} {texts : List String} :
    Json.withDefault? Json.asStrings? [] found = some texts ↔
      TakesTexts found texts := by
  constructor
  · intro read
    cases found with
    | none =>
        obtain rfl := Option.some.inj read
        exact .absent
    | some value =>
        obtain rfl := Json.asStrings?_eq_some_iff.mp read
        exact .texts texts
  · intro takes
    cases takes with
    | absent => rfl
    | texts texts => exact Json.asStrings?_ofStrings texts

/-- What is read as a key. -/
theorem takesKey_iff {found : Option Json} {key : Option String} :
    Json.withDefault? (Json.nullable? Json.asString?) none found = some key ↔
      TakesKey found key := by
  constructor
  · intro read
    cases found with
    | none =>
        obtain rfl := Option.some.inj read
        exact .absent
    | some value =>
        cases value with
        | null =>
            obtain rfl := Option.some.inj read
            exact .null
        | string text =>
            obtain rfl := Option.some.inj read
            exact .text text
        | _ => cases read
  · intro takes
    cases takes with
    | absent => rfl
    | null => rfl
    | text text => rfl

/-! ## Reading an object -/

/-- The book that an object is read as is given by its members. -/
theorem givenBy_of_ofJson?_eq_some
    (read : ofJson? (.object members) = some record) :
    GivenBy members record := by
  unfold ofJson? at read
  split at read
  · rename_i id isbn title publisher authors genres imageKey cut
    have each := Elementwise.mapM_eq_some_iff.mp cut
    simp only [Json.soleValue?_eq_some_iff, fieldNames, List.forall₂_cons,
      List.forall₂_nil_left_iff, and_true] at each
    obtain ⟨idFound, isbnFound, titleFound, publisherFound, authorsFound,
      genresFound, keyFound⟩ := each
    simp only [Option.bind_eq_bind, Option.bind_eq_some_iff] at read
    obtain ⟨idText, idRead, isbnText, isbnRead, titleText, titleRead,
      publisherText, publisherRead, authorsTexts, authorsRead, genresTexts,
      genresRead, key, keyRead, same⟩ := read
    obtain rfl := Option.some.inj same
    cases id with
    | none => cases idRead
    | some value =>
        obtain rfl := Json.asString?_eq_some_iff.mp idRead
        exact {
          id := idFound
          isbn := ⟨isbn, isbnFound, takesText_iff.mp isbnRead⟩
          title := ⟨title, titleFound, takesText_iff.mp titleRead⟩
          publisher :=
            ⟨publisher, publisherFound, takesText_iff.mp publisherRead⟩
          authors := ⟨authors, authorsFound, takesTexts_iff.mp authorsRead⟩
          genres := ⟨genres, genresFound, takesTexts_iff.mp genresRead⟩
          imageKey := ⟨imageKey, keyFound, takesKey_iff.mp keyRead⟩ }
  · cases read

/-- An object is read as the book that its members give. -/
theorem GivenBy.ofJson?_eq
    (given : GivenBy members record) :
    ofJson? (.object members) = some record := by
  obtain ⟨idFound, ⟨isbn, isbnFound, isbnTaken⟩,
    ⟨title, titleFound, titleTaken⟩,
    ⟨publisher, publisherFound, publisherTaken⟩,
    ⟨authors, authorsFound, authorsTaken⟩,
    ⟨genres, genresFound, genresTaken⟩, ⟨key, keyFound, keyTaken⟩⟩ := given
  have cut : Json.fields? fieldNames (.object members) =
      some [some (.string record.id), isbn, title, publisher, authors,
        genres, key] := by
    refine Elementwise.mapM_eq_some_iff.mpr ?_
    simp only [Json.soleValue?_eq_some_iff, fieldNames, List.forall₂_cons,
      List.forall₂_nil_left_iff, and_true]
    exact ⟨idFound, isbnFound, titleFound, publisherFound, authorsFound,
      genresFound, keyFound⟩
  rw [ofJson?, cut]
  simp only [Json.required?, Json.asString?, Option.bind_eq_bind,
    Option.bind_some, takesText_iff.mpr isbnTaken,
    takesText_iff.mpr titleTaken, takesText_iff.mpr publisherTaken,
    takesTexts_iff.mpr authorsTaken, takesTexts_iff.mpr genresTaken]
  rw [takesKey_iff.mpr keyTaken]
  rfl

theorem ofJson?_object_eq_some_iff :
    ofJson? (.object members) = some record ↔ GivenBy members record :=
  ⟨givenBy_of_ofJson?_eq_some, GivenBy.ofJson?_eq⟩

/-! ## Which members are accepted -/

/-- A field that may be absent finds something that it takes exactly if its name
is not given twice and every member with the name has a value of its kind. -/
theorem exists_takes_iff
    {α : Type}
    {Takes : Option Json -> α -> Prop}
    {HasKind : Json -> Prop}
    (absent : ∃ content, Takes none content)
    (kind : ∀ value, (∃ content, Takes (some value) content) ↔ HasKind value)
    {name : String} :
    (∃ content found, Json.Finds members name found ∧ Takes found content) ↔
      (members.map Prod.fst).count name ≤ 1 ∧
        ∀ member ∈ members, member.1 = name -> HasKind member.2 := by
  rw [exists_comm]
  simp only [exists_and_left, ← kind]
  exact Json.exists_finds_and_iff absent

/-- What a field of one text takes is a text. -/
theorem exists_takesText_iff (value : Json) :
    (∃ content, TakesText (some value) content) ↔
      ∃ text, value = .string text := by
  constructor
  · rintro ⟨_, ⟨⟩⟩
    exact ⟨_, rfl⟩
  · rintro ⟨text, rfl⟩
    exact ⟨text, .text text⟩

/-- What a field of several texts takes is an array of texts. -/
theorem exists_takesTexts_iff (value : Json) :
    (∃ content, TakesTexts (some value) content) ↔
      ∃ texts, value = Json.ofStrings texts := by
  constructor
  · rintro ⟨_, ⟨⟩⟩
    exact ⟨_, rfl⟩
  · rintro ⟨texts, rfl⟩
    exact ⟨texts, .texts texts⟩

/-- What the field of the key takes is a text or null. -/
theorem exists_takesKey_iff (value : Json) :
    (∃ content, TakesKey (some value) content) ↔
      value = .null ∨ ∃ text, value = .string text := by
  constructor
  · rintro ⟨_, ⟨⟩⟩
    · exact .inl rfl
    · exact .inr ⟨_, rfl⟩
  · rintro (rfl | ⟨text, rfl⟩)
    · exact ⟨none, .null⟩
    · exact ⟨some text, .text text⟩

/-- An identity is given exactly if a member has its name, no two have, and what
has it is a text. -/
theorem exists_id_iff :
    (∃ id, Json.Finds members "id" (some (.string id))) ↔
      (∃ member ∈ members, member.1 = "id") ∧
        (members.map Prod.fst).count "id" ≤ 1 ∧
        ∀ member ∈ members, member.1 = "id" ->
          ∃ text, member.2 = .string text := by
  rw [← exists_takes_iff ⟨"", .absent⟩ exists_takesText_iff]
  constructor
  · rintro ⟨id, finds⟩
    refine ⟨?_, id, _, finds, .text id⟩
    cases finds with
    | once shape _ _ => exact ⟨_, shape ▸ List.mem_append_right _ (.head _), rfl⟩
  · rintro ⟨⟨member, inMembers, named⟩, id, found, finds, takes⟩
    cases takes with
    | text => exact ⟨id, finds⟩
    | absent => cases finds.eq_some_of_mem inMembers named

/-- Members give a book exactly if each field finds something that it takes. -/
theorem exists_givenBy_iff_finds :
    (∃ record, GivenBy members record) ↔
      (∃ id, Json.Finds members "id" (some (.string id))) ∧
      (∃ isbn found, Json.Finds members "isbn" found ∧ TakesText found isbn) ∧
      (∃ title found,
        Json.Finds members "title" found ∧ TakesText found title) ∧
      (∃ publisher found,
        Json.Finds members "publisher" found ∧ TakesText found publisher) ∧
      (∃ authors found,
        Json.Finds members "authors" found ∧ TakesTexts found authors) ∧
      (∃ genres found,
        Json.Finds members "genres" found ∧ TakesTexts found genres) ∧
      ∃ key found,
        Json.Finds members "imageKey" found ∧ TakesKey found key := by
  constructor
  · rintro ⟨record, given⟩
    exact ⟨⟨_, given.id⟩, ⟨_, given.isbn⟩, ⟨_, given.title⟩,
      ⟨_, given.publisher⟩, ⟨_, given.authors⟩, ⟨_, given.genres⟩,
      ⟨_, given.imageKey⟩⟩
  · rintro ⟨⟨id, idFound⟩, ⟨isbn, isbnTaken⟩, ⟨title, titleTaken⟩,
      ⟨publisher, publisherTaken⟩, ⟨authors, authorsTaken⟩,
      ⟨genres, genresTaken⟩, ⟨key, keyTaken⟩⟩
    exact ⟨⟨id, isbn, title, publisher, authors, genres, key⟩, idFound,
      isbnTaken, titleTaken, publisherTaken, authorsTaken, genresTaken,
      keyTaken⟩

/-- Members give a book exactly if they are acceptable. -/
theorem exists_givenBy_iff :
    (∃ record, GivenBy members record) ↔ Acceptable members := by
  rw [exists_givenBy_iff_finds, exists_id_iff,
    exists_takes_iff ⟨"", .absent⟩ exists_takesText_iff,
    exists_takes_iff ⟨"", .absent⟩ exists_takesText_iff,
    exists_takes_iff ⟨"", .absent⟩ exists_takesText_iff,
    exists_takes_iff ⟨[], .absent⟩ exists_takesTexts_iff,
    exists_takes_iff ⟨[], .absent⟩ exists_takesTexts_iff,
    exists_takes_iff ⟨none, .absent⟩ exists_takesKey_iff]
  constructor
  · rintro ⟨⟨identified, idOnce, idText⟩, ⟨isbnOnce, isbnText⟩,
      ⟨titleOnce, titleText⟩, ⟨publisherOnce, publisherText⟩,
      ⟨authorsOnce, authorsTexts⟩, ⟨genresOnce, genresTexts⟩,
      ⟨keyOnce, keyText⟩⟩
    have notTwice : ∀ name ∈ fieldNames.flatten,
        (members.map Prod.fst).count name ≤ 1 := by
      simp only [fieldNames, List.flatten_cons, List.flatten_nil,
        List.cons_append, List.nil_append, List.forall_mem_cons]
      exact ⟨idOnce, isbnOnce, titleOnce, publisherOnce, authorsOnce,
        genresOnce, keyOnce, by simp⟩
    refine ⟨identified, notTwice, ?_, ?_, keyText⟩
    · simp only [List.forall_mem_cons]
      exact ⟨idText, isbnText, titleText, publisherText, by simp⟩
    · simp only [List.forall_mem_cons]
      exact ⟨authorsTexts, genresTexts, by simp⟩
  · rintro ⟨identified, notTwice, texts, lists, keyText⟩
    exact ⟨⟨identified, notTwice _ (by decide), texts _ (by decide)⟩,
      ⟨notTwice _ (by decide), texts _ (by decide)⟩,
      ⟨notTwice _ (by decide), texts _ (by decide)⟩,
      ⟨notTwice _ (by decide), texts _ (by decide)⟩,
      ⟨notTwice _ (by decide), lists _ (by decide)⟩,
      ⟨notTwice _ (by decide), lists _ (by decide)⟩,
      ⟨notTwice _ (by decide), keyText⟩⟩

/-! ## Texts of objects -/

/-- A text of an object is read as a stored book exactly if its members give the
book, and as some book exactly if they are acceptable. Any other text whose
members agree at the names of the fields, in whatever order, is read alike. -/
theorem text_is_read_by_known_members
    {text : List Char}
    (writes : Json.Writes text (.spaced (.object members))) :
    (∀ record, format.ofText? (String.ofList text) = some record ↔
      GivenBy members record) ∧
    ((∃ record, format.ofText? (String.ofList text) = some record) ↔
      Acceptable members) ∧
    ∀ otherText others,
      Json.Writes otherText (.spaced (.object others)) ->
      (members.filter (Json.isDeclared fieldNames)).Perm
        (others.filter (Json.isDeclared fieldNames)) ->
      format.ofText? (String.ofList otherText) =
        format.ofText? (String.ofList text) := by
  have read {text : List Char} {members : List (String × Json)}
      (writes : Json.Writes text (.spaced (.object members))) :
      format.ofText? (String.ofList text) = ofJson? (.object members) := by
    rw [Json.Format.ofText?, writes.read?_eq, Option.bind_some]
    rfl
  have given (record : StoredRecord) :
      format.ofText? (String.ofList text) = some record ↔
        GivenBy members record := by
    rw [read writes, ofJson?_object_eq_some_iff]
  refine ⟨given, ?_, fun otherText others writesOther perm => ?_⟩
  · simp only [given]
    exact exists_givenBy_iff
  · rw [read writes, read writesOther, ofJson?, ofJson?,
      Json.fields?_object_perm perm]

/-- A name may be written with an escape, and another member in front of it is
skipped. -/
theorem text_is_read_behind_unknown_member :
    format.ofText? "\x7b\"extra\":[null], \"\\u0069d\":\"1\"\x7d" =
      some ⟨"1", "", "", "", [], [], none⟩ := by
  have extra := Json.Writes.member Json.isSpacing_nil
    (Json.writesText_escape "extra".toList) Json.isSpacing_nil
    (Json.Writes.array (.lastElement Json.Writes.null.unspaced)).unspaced
  have unit : Json.WritesUnit "0069".toList 0x69 :=
    .digits (rfl : Hex.digitValue? '0' = some 0)
      (rfl : Hex.digitValue? '0' = some 0)
      (rfl : Hex.digitValue? '6' = some 6) (rfl : Hex.digitValue? '9' = some 9)
  have name : Json.WritesText "\\u0069d".toList "id".toList :=
    .unit unit (by decide) (.plain (by decide) (by decide) (by decide) .nil)
  have space : Json.IsSpacing [' '] := by
    simp [Json.IsSpacing]
  have id := Json.Writes.member space name Json.isSpacing_nil
    (Json.Writes.string (Json.writesText_escape "1".toList)).unspaced
  have writes := Json.Writes.object (.nextMember extra (.lastMember id))
  refine ((text_is_read_by_known_members writes.unspaced).1 _).mpr ?_
  have absent (name : String) (notNamed : name ∉ ["extra", "id"]) :
      Json.Finds [("extra", .array [.null]), ("id", .string "1")] name none := by
    refine .absent fun member inMembers named => notNamed ?_
    simp only [List.mem_cons, List.not_mem_nil, or_false] at inMembers
    rcases inMembers with rfl | rfl
    · simp [← named]
    · simp [← named]
  have shape : [("extra", Json.array [.null]), ("id", .string "1")] =
      [("extra", .array [.null])] ++ ("id", .string "1") :: [] := rfl
  exact {
    id := .once shape (by simp) (by simp)
    isbn := ⟨none, absent _ (by decide), .absent⟩
    title := ⟨none, absent _ (by decide), .absent⟩
    publisher := ⟨none, absent _ (by decide), .absent⟩
    authors := ⟨none, absent _ (by decide), .absent⟩
    genres := ⟨none, absent _ (by decide), .absent⟩
    imageKey := ⟨none, absent _ (by decide), .absent⟩ }

end StoredRecord
end BookLookup
