import BookLookup.Proofs.Json.Value
import BookLookup.Proofs.Text.Split
import BookLookup.Store.Page
import Mathlib.Data.List.TakeWhile

/-!
# What a refused scan tells

An answer without success is a refusal with its status, whatever its body is.
The body may write a diagnostic: the kind of the failure and its text. The two
are read together, so that a fault in one of them loses the other: only if each
is left out, null or a text is what was written kept.
-/

namespace BookLookup

/-! ## Written diagnostics -/

namespace Diagnostic

/-- The values that are given for a field of a diagnostic, and the text that
they write, if any. -/
inductive Field : List Json -> Option String -> Prop where
  | missing : Field [] none
  | null : Field [.null] none
  | text (text : String) : Field [.string text] (some text)

/-- The values that are given for the kind and those for the text. -/
inductive Gives : Json -> List Json -> List Json -> Prop where
  /-- The fields are named, the text by either of its names. -/
  | object (members : List (String × Json)) :
      Gives (.object members) (Json.valuesNamed ["__type"] members)
        (Json.valuesNamed ["message", "Message"] members)
  /-- The fields stand in their order. -/
  | array (elements : List Json) :
      Gives (.array elements) (elements.take 1) (elements.drop 1)

/-- A body writes a diagnostic. -/
inductive Written
    (body : List UInt8)
    (kind message : Option String) : Prop where
  | fields
      {value : Json}
      {kinds messages : List Json}
      (read : Json.readOctets? body = some value)
      (gives : Gives value kinds messages)
      (ofKinds : Field kinds kind)
      (ofMessages : Field messages message)

/-- The text of a field that is given at most once. -/
def readField? (field : Option Json) : Option (Option String) :=
  Json.withDefault? (Json.nullable? Json.asString?) none field

/-- A field is read if no value is given for it, null or a text. -/
theorem field_iff
    {values : List Json}
    {text : Option String} :
    Field values text ↔
      (Json.soleValue? values).bind readField? = some text := by
  constructor
  · intro isField
    cases isField with
    | missing => rfl
    | null => rfl
    | text text => rfl
  · intro read
    match values, read with
    | [], read =>
        obtain rfl := Option.some.inj read
        exact .missing
    | [value], read =>
        cases value with
        | null =>
            obtain rfl := Option.some.inj read
            exact .null
        | string text =>
            obtain rfl := Option.some.inj read
            exact .text text
        | bool truth => cases read
        | number literal => cases read
        | array elements => cases read
        | object members => cases read
        | unreadable => cases read
    | _ :: _ :: _, read => cases read

/-- What the two fields of a diagnostic say. -/
def ofFields? (kinds messages : List Json) : Option Diagnostic := do
  let kind <- (Json.soleValue? kinds).bind readField?
  let message <- (Json.soleValue? messages).bind readField?
  return ⟨kind, message⟩

/-- A diagnostic is read from the values that are given for its fields. -/
theorem Gives.ofJson?_eq
    {value : Json}
    {kinds messages : List Json}
    (gives : Gives value kinds messages) :
    ofJson? value = ofFields? kinds messages := by
  cases gives with
  | object members =>
      rw [ofJson?, Json.fields?, fieldNames, ofFields?]
      simp only [List.mapM_cons, List.mapM_nil]
      cases Json.soleValue? (Json.valuesNamed ["__type"] members) with
      | none => rfl
      | some kind =>
          cases Json.soleValue?
              (Json.valuesNamed ["message", "Message"] members) with
          | none =>
              cases isRead : readField? kind with
              | none => simp [isRead]
              | some text => simp [isRead]
          | some message => rfl
  | array elements =>
      match elements with
      | [] => rfl
      | [kind] => rfl
      | [kind, message] => rfl
      | kind :: message :: more :: others =>
          have tooMany : Json.fields? fieldNames
              (.array (kind :: message :: more :: others)) = none := by
            simp [Json.fields?, fieldNames]
          rw [ofJson?, tooMany, ofFields?, List.take_succ_cons, List.take_zero]
          cases (Json.soleValue? [kind]).bind readField? with
          | none => rfl
          | some text => rfl

/-- Only an object and an array give values for the fields. -/
theorem ofJson?_eq_some_iff
    {value : Json}
    {kind message : Option String} :
    ofJson? value = some ⟨kind, message⟩ ↔
      ∃ kinds messages, Gives value kinds messages ∧
        Field kinds kind ∧ Field messages message := by
  have ofGiven {kinds messages : List Json}
      (gives : Gives value kinds messages) :
      ofJson? value = some ⟨kind, message⟩ ↔
        Field kinds kind ∧ Field messages message := by
    rw [gives.ofJson?_eq, field_iff, field_iff, ofFields?]
    cases (Json.soleValue? kinds).bind readField? with
    | none => simp
    | some first =>
        cases (Json.soleValue? messages).bind readField? with
        | none => simp
        | some second => simp
  constructor
  · intro read
    cases value with
    | object members =>
        exact ⟨_, _, .object members, (ofGiven (.object members)).mp read⟩
    | array elements =>
        exact ⟨_, _, .array elements, (ofGiven (.array elements)).mp read⟩
    | null => cases read
    | bool truth => cases read
    | number literal => cases read
    | string text => cases read
    | unreadable => cases read
  · rintro ⟨kinds, messages, gives, fields⟩
    exact (ofGiven gives).mpr fields

/-- A body is read as the diagnostic that it writes. -/
theorem written_iff
    {body : List UInt8}
    {kind message : Option String} :
    Written body kind message ↔
      (Json.readOctets? body).bind ofJson? = some ⟨kind, message⟩ := by
  rw [Option.bind_eq_some_iff]
  constructor
  · rintro ⟨read, gives, ofKinds, ofMessages⟩
    exact ⟨_, read, ofJson?_eq_some_iff.mpr
      ⟨_, _, gives, ofKinds, ofMessages⟩⟩
  · rintro ⟨value, read, fields⟩
    obtain ⟨kinds, messages, gives, ofKinds, ofMessages⟩ :=
      ofJson?_eq_some_iff.mp fields
    exact ⟨read, gives, ofKinds, ofMessages⟩

theorem Written.ofBody_eq
    {body : List UInt8}
    {kind message : Option String}
    (written : Written body kind message) :
    ofBody body = ⟨kind, message⟩ := by
  rw [ofBody, written_iff.mp written, Option.getD_some]

/-- The diagnostic of a body is written there or says nothing. -/
theorem ofBody_cases (body : List UInt8) :
    Written body (ofBody body).kind (ofBody body).message ∨
      ofBody body = ⟨none, none⟩ := by
  cases read : (Json.readOctets? body).bind ofJson? with
  | none =>
      right
      rw [ofBody, read, Option.getD_none]
  | some diagnostic =>
      left
      rw [written_iff, ofBody, read, Option.getD_some]

/-! ## Short kinds -/

/-- A text is the part of another after its last number sign, which is all of it
if there is none. -/
structure IsShortFor (short kind : String) : Prop where
  /-- No number sign stands in it. -/
  plain : '#' ∉ short.toList
  /-- It is the whole text or stands behind a number sign. -/
  ends : kind = short ∨ ∃ front, kind = front ++ "#" ++ short

/-- The short kind is the part after the last number sign. -/
theorem isShortFor_shortKind (kind : String) :
    IsShortFor (shortKind kind) kind := by
  let behind := kind.toList.reverse.takeWhile (· ≠ '#')
  have short : shortKind kind = String.ofList behind.reverse := rfl
  rw [short]
  constructor
  case plain =>
    rw [String.toList_ofList, List.mem_reverse]
    intro member
    simpa using List.mem_takeWhile_imp member
  case ends =>
    have parts : kind.toList =
        (kind.toList.reverse.dropWhile (· ≠ '#')).reverse ++
          behind.reverse := by
      rw [← List.reverse_append, List.takeWhile_append_dropWhile,
        List.reverse_reverse]
    have stops := List.head?_dropWhile_not (· ≠ '#') kind.toList.reverse
    cases before : kind.toList.reverse.dropWhile (· ≠ '#') with
    | nil =>
        left
        rw [before, List.reverse_nil, List.nil_append] at parts
        rw [← parts, String.ofList_toList]
    | cons sign front =>
        right
        rw [before] at stops parts
        obtain rfl : sign = '#' := by simpa using stops
        refine ⟨String.ofList front.reverse, String.toList_injective ?_⟩
        rw [parts]
        simp

/-- No other text is the part after the last number sign. -/
theorem IsShortFor.eq_shortKind
    {short kind : String}
    (isShort : IsShortFor short kind) :
    short = shortKind kind := by
  have taken : short.toList.reverse.takeWhile (· ≠ '#') =
      short.toList.reverse := by
    rw [List.takeWhile_eq_self_iff]
    intro symbol member
    rw [decide_eq_true_eq]
    rintro rfl
    exact isShort.plain (List.mem_reverse.mp member)
  apply String.toList_injective
  rw [shortKind, String.toList_ofList]
  rcases isShort.ends with rfl | ⟨front, rfl⟩
  · rw [taken, List.reverse_reverse]
  · have reversed : (front ++ "#" ++ short).toList.reverse =
        short.toList.reverse ++ '#' :: front.toList.reverse := by
      simp
    rw [reversed, List.takeWhile_append, taken]
    simp

end Diagnostic

/-! ## Refusals -/

/-- What a refusal tells of the diagnostic in its body. -/
structure Diagnostic.ToldBy
    (status : Nat)
    (body : List UInt8)
    (toldKind toldMessage : String) : Prop where
  /-- No number sign stands in the kind. -/
  plain : '#' ∉ toldKind.toList
  /-- Of a written kind the part behind the last number sign is told. -/
  kind : ∀ kind message, Written body (some kind) message ->
    IsShortFor toldKind kind
  /-- A written text is told. -/
  message : ∀ kind message, Written body kind (some message) ->
    toldMessage = message
  /-- For a kind that is not written, another stands in. -/
  noKind : (∀ kind message, ¬ Written body (some kind) message) ->
    toldKind = "UnknownError"
  /-- For a text that is not written, the status stands in. -/
  noMessage : (∀ kind message, ¬ Written body kind (some message)) ->
    toldMessage = "store returned status " ++ HttpStatus.text status

/-- The diagnostic of a body is told. -/
theorem Diagnostic.toldBy_ofBody (status : Nat) (body : List UInt8) :
    ToldBy status body
      (((ofBody body).kind.map shortKind).getD "UnknownError")
      ((ofBody body).message.getD
        ("store returned status " ++ HttpStatus.text status)) := by
  have isWritten := ofBody_cases body
  constructor
  case plain =>
    cases (ofBody body).kind with
    | none => decide
    | some kind => exact (isShortFor_shortKind kind).plain
  case kind =>
    intro kind message written
    rw [written.ofBody_eq]
    exact isShortFor_shortKind kind
  case message =>
    intro kind message written
    rw [written.ofBody_eq]
    rfl
  case noKind =>
    intro notWritten
    rcases isWritten with written | saysNothing
    · cases isKind : (ofBody body).kind with
      | none => rfl
      | some kind =>
          rw [isKind] at written
          exact absurd written (notWritten kind _)
    · rw [saysNothing]
      rfl
  case noMessage =>
    intro notWritten
    rcases isWritten with written | saysNothing
    · cases isMessage : (ofBody body).message with
      | none => rfl
      | some message =>
          rw [isMessage] at written
          exact absurd written (notWritten _ message)
    · rw [saysNothing]
      rfl

/-- Every answer without success is a refusal with its status. It tells the
diagnostic that its body writes, and others stand in for what is not written. -/
theorem Page.refusal_tells_diagnostic
    {status : Nat}
    (refused : HttpStatus.isSuccess status = false)
    (body : List UInt8) :
    ∃ kind message,
      Page.ofReply (.answer status body) =
          .error (.rejected status kind message) ∧
        Diagnostic.ToldBy status body kind message := by
  have isRefusal : Page.ofReply (.answer status body) =
      .error (.ofAnswer status body) := by
    rw [Page.ofReply, Page.ofAnswer, refused]
    rfl
  rw [isRefusal, StoreFailure.ofAnswer]
  exact ⟨_, _, rfl, Diagnostic.toldBy_ofBody status body⟩

namespace Diagnostic

/-- The body of an object. -/
def bodyOf (members : List (String × Json)) : List UInt8 :=
  Utf8.octets (Json.object members).render

theorem readOctets?_bodyOf
    {members : List (String × Json)}
    (printable : ∀ member ∈ members, member.2.Printable) :
    Json.readOctets? (bodyOf members) = some (.object members) :=
  (Json.Printable.object printable).readOctets?_octets_render

/-- A diagnostic with both fields. -/
def bothFields : List (String × Json) :=
  [("__type",
      .string "com.amazonaws.dynamodb.v20120810#ValidationException"),
    ("message", .string "Invalid FilterExpression")]

/-- Both fields are told. -/
theorem refusal_tells_bothFields :
    Page.ofReply (.answer 400 (bodyOf bothFields)) =
      .error (.rejected 400 "ValidationException"
        "Invalid FilterExpression") := by
  have printable : ∀ member ∈ bothFields, member.2.Printable := by
    simp [bothFields, Json.Printable.string]
  have written : Written (bodyOf bothFields)
      (some "com.amazonaws.dynamodb.v20120810#ValidationException")
      (some "Invalid FilterExpression") :=
    .fields (readOctets?_bodyOf printable) (.object _) (.text _) (.text _)
  obtain ⟨kind, message, answered, told⟩ :=
    @Page.refusal_tells_diagnostic 400 rfl (bodyOf bothFields)
  rw [answered, (told.kind _ _ written).eq_shortKind,
    told.message _ _ written]
  rfl

/-! ## What is lost -/

/-- Whatever else an object gives, a kind that it gives once and as a text is
told. -/
def KeepsKind (status : Nat) (body : List UInt8) : Prop :=
  ∀ members kind, Json.readOctets? body = some (.object members) ->
    Json.valuesNamed ["__type"] members = [.string kind] ->
    ∃ told message, Page.ofReply (.answer status body) =
        .error (.rejected status told message) ∧
      IsShortFor told kind

/-- Whatever else an object gives, a text that it gives once is told. -/
def KeepsMessage (status : Nat) (body : List UInt8) : Prop :=
  ∀ members message, Json.readOctets? body = some (.object members) ->
    Json.valuesNamed ["message", "Message"] members = [.string message] ->
    ∃ told, Page.ofReply (.answer status body) =
      .error (.rejected status told message)

/-- A kind and a number for the text. -/
def numberMessage : List (String × Json) :=
  [("__type", .string "store#ValidationException"), ("message", .ofNat 42)]

/-- A kind and a text under both of its names. -/
def twoMessages : List (String × Json) :=
  [("__type", .string "store#ValidationException"),
    ("message", .string "Invalid expression"),
    ("Message", .string "Invalid expression")]

/-- A number for the kind and a text. -/
def numberKind : List (String × Json) :=
  [("__type", .ofNat 7), ("message", .string "Invalid expression")]

/-- If an object is no diagnostic, nothing of it is told. -/
theorem ofReply_bodyOf
    {members : List (String × Json)}
    (printable : ∀ member ∈ members, member.2.Printable)
    (unread : ofJson? (.object members) = none) :
    Page.ofReply (.answer 400 (bodyOf members)) =
      .error (.rejected 400 "UnknownError"
        "store returned status 400 Bad Request") := by
  have saysNothing : ofBody (bodyOf members) = ⟨none, none⟩ := by
    rw [ofBody, readOctets?_bodyOf printable, Option.bind_some, unread]
    rfl
  rw [Page.ofReply, Page.ofAnswer, StoreFailure.ofAnswer, saysNothing]
  rfl

/-- A kind is lost if the text is a number or given twice, and a text is lost if
the kind is a number. -/
theorem lost_diagnostics :
    ¬ KeepsKind 400 (bodyOf numberMessage) ∧
      ¬ KeepsKind 400 (bodyOf twoMessages) ∧
      ¬ KeepsMessage 400 (bodyOf numberKind) := by
  have noKind {members : List (String × Json)}
      (printable : ∀ member ∈ members, member.2.Printable)
      (unread : ofJson? (.object members) = none)
      (given : Json.valuesNamed ["__type"] members =
        [.string "store#ValidationException"]) :
      ¬ KeepsKind 400 (bodyOf members) := by
    intro keeps
    obtain ⟨told, message, answered, isShort⟩ :=
      keeps members _ (readOctets?_bodyOf printable) given
    rw [ofReply_bodyOf printable unread] at answered
    cases answered
    exact absurd isShort.eq_shortKind (by decide)
  refine ⟨noKind ?_ rfl rfl, noKind ?_ rfl rfl, ?_⟩
  · simp [numberMessage, Json.Printable.string, Json.Printable.ofNat]
  · simp [twoMessages, Json.Printable.string]
  · have printable : ∀ member ∈ numberKind, member.2.Printable := by
      simp [numberKind, Json.Printable.string, Json.Printable.ofNat]
    intro keeps
    obtain ⟨told, answered⟩ :=
      keeps numberKind _ (readOctets?_bodyOf printable) rfl
    rw [ofReply_bodyOf printable rfl] at answered
    simp at answered

end Diagnostic
end BookLookup
