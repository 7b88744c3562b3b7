import BookLookup.Http.Response
import BookLookup.Proofs.Store.Sending
import BookLookup.Proofs.Text.Blank
import Mathlib.Tactic.Ring

/-!
# Which identities requests get

An identity has one to sixty-four characters, all of them ASCII letters, digits
or one of three marks, so that it may be the value of a header. It is what is
kept of the first value given under the name, if that is plain text and
something is kept, and is made for the request otherwise. What is kept does not
depend on white space around the value, and all is kept of an identity.
-/

namespace BookLookup
namespace RequestId

/-! ## Characters that are kept -/

/-- A character is an ASCII letter, a digit or one of three marks. -/
def Safe (symbol : Char) : Prop :=
  ('A' ≤ symbol ∧ symbol ≤ 'Z') ∨ ('a' ≤ symbol ∧ symbol ≤ 'z') ∨
    ('0' ≤ symbol ∧ symbol ≤ '9') ∨
    symbol = '-' ∨ symbol = '_' ∨ symbol = '.'

/-- These are the characters that are kept. -/
theorem isSafe_iff (symbol : Char) : isSafe symbol ↔ Safe symbol := by
  have upper : symbol.isUpper = decide ('A' ≤ symbol ∧ symbol ≤ 'Z') := rfl
  have lower : symbol.isLower = decide ('a' ≤ symbol ∧ symbol ≤ 'z') :=
    (Bool.decide_and ('a' ≤ symbol) (symbol ≤ 'z')).symm
  have digit : symbol.isDigit = decide ('0' ≤ symbol ∧ symbol ≤ '9') :=
    (Bool.decide_and ('0' ≤ symbol) (symbol ≤ '9')).symm
  have alphanumeric : symbol.isAlphanum =
      ((symbol.isUpper || symbol.isLower) || symbol.isDigit) := rfl
  simp only [isSafe, Safe, alphanumeric, upper, lower, digit, Bool.or_eq_true,
    decide_eq_true_eq, beq_iff_eq, or_assoc]

instance : DecidablePred Safe :=
  fun symbol => decidable_of_iff (isSafe symbol) (isSafe_iff symbol)

theorem isSafe_eq_decide (symbol : Char) :
    isSafe symbol = decide (Safe symbol) := by
  rw [Bool.eq_iff_iff, decide_eq_true_eq]
  exact isSafe_iff symbol

/-- Safe characters are printable. -/
theorem Safe.printable
    {symbol : Char}
    (safe : Safe symbol) :
    0x20 < symbol.toNat ∧ symbol.toNat < 0x7F := by
  simp only [Safe, Char.le_def, UInt32.le_iff_toNat_le] at safe
  rcases safe with upper | lower | digit | rfl | rfl | rfl
  · change 65 ≤ symbol.toNat ∧ symbol.toNat ≤ 90 at upper
    omega
  · change 97 ≤ symbol.toNat ∧ symbol.toNat ≤ 122 at lower
    omega
  · change 48 ≤ symbol.toNat ∧ symbol.toNat ≤ 57 at digit
    omega
  all_goals decide

theorem Safe.isBlank_eq_false
    {symbol : Char}
    (safe : Safe symbol) :
    isBlank symbol = false := by
  have printable := safe.printable
  simp [isBlank]
  omega

theorem safePart_eq (text : String) :
    safePart text = (text.toList.filter fun symbol => Safe symbol).take 64 := by
  rw [safePart, maxLength]
  congr 2
  funext symbol
  exact isSafe_eq_decide symbol

/-- No character of white space is kept. -/
theorem filter_safe_eq_nil
    {text : List Char}
    (blank : ∀ symbol ∈ text, isBlank symbol) :
    (text.filter fun symbol => Safe symbol) = [] := by
  rw [List.filter_eq_nil_iff]
  intro symbol member safe
  rw [decide_eq_true_eq] at safe
  exact absurd (blank symbol member) (by simp [safe.isBlank_eq_false])

/-- Trimming makes no difference to what is kept. -/
theorem safePart_trimmed (text : String) :
    safePart (trimmed text) = safePart text := by
  obtain ⟨front, back, whole, frontBlank, backBlank⟩ :=
    (isCore_trim text.toList).around
  have same : (text.toList.filter fun symbol => Safe symbol) =
      (trim text.toList).filter fun symbol => Safe symbol := by
    conv_lhs => rw [whole]
    rw [List.filter_append, List.filter_append, filter_safe_eq_nil frontBlank,
      filter_safe_eq_nil backBlank, List.nil_append, List.append_nil]
  rw [safePart_eq, safePart_eq, trimmed, String.toList_ofList, same]

/-! ## Texts that are identities -/

/-- A text is one to sixty-four safe characters. -/
structure IsSafeText (text : String) : Prop where
  /-- There is one. -/
  nonempty : 1 ≤ text.toList.length
  /-- There are not more than sixty-four. -/
  short : text.toList.length ≤ 64
  /-- All of them are safe. -/
  safe : ∀ symbol ∈ text.toList, Safe symbol

/-- Such a text may be the value of a header. -/
theorem IsSafeText.isHeaderValue
    {text : String}
    (isSafeText : IsSafeText text) :
    StoreClient.isHeaderValue text := by
  apply StoreClient.isHeaderValue_of_printable
  intro symbol member
  have printable := (isSafeText.safe symbol member).printable
  omega

/-- Every character of such a text is kept. -/
theorem IsSafeText.safePart_eq_toList
    {text : String}
    (isSafeText : IsSafeText text) :
    safePart text = text.toList := by
  have allKept : (text.toList.filter fun symbol => Safe symbol) =
      text.toList := by
    rw [List.filter_eq_self]
    intro symbol member
    exact decide_eq_true (isSafeText.safe symbol member)
  rw [safePart_eq, allKept, List.take_of_length_le isSafeText.short]

/-- Nothing is kept of a text without safe characters. -/
theorem ofText?_eq_none
    {text : String}
    (noneSafe : ∀ symbol ∈ text.toList, ¬ Safe symbol) :
    ofText? text = none := by
  have nothing : safePart text = [] := by
    have filtered : (text.toList.filter fun symbol => Safe symbol) = [] := by
      rw [List.filter_eq_nil_iff]
      intro symbol member
      simpa using noneSafe symbol member
    rw [safePart_eq, filtered, List.take_nil]
  rw [ofText?, nothing]

/-- A text with safe characters gives what is kept of it. -/
theorem ofText?_eq_some
    {text : String}
    (someSafe : ∃ symbol ∈ text.toList, Safe symbol) :
    ofText? text = some (.given (String.ofList (safePart text))) ∧
      IsSafeText (String.ofList (safePart text)) := by
  obtain ⟨symbol, member, safe⟩ := someSafe
  have kept : symbol ∈ text.toList.filter fun symbol => Safe symbol :=
    List.mem_filter.mpr ⟨member, decide_eq_true safe⟩
  obtain ⟨first, others, shape⟩ :=
    List.exists_cons_of_ne_nil (List.ne_nil_of_mem kept)
  have part : safePart text = first :: others.take 63 := by
    rw [safePart_eq, shape]
    rfl
  constructor
  · rw [ofText?, part]
  · constructor
    · simp [part]
    · rw [String.toList_ofList, safePart_eq]
      exact List.length_take_le 64 _
    · intro other inPart
      rw [String.toList_ofList, safePart_eq] at inPart
      exact of_decide_eq_true
        (List.mem_filter.mp (List.mem_of_mem_take inPart)).2

/-! ## Values of headers -/

/-- A header value is a plain text: visible ASCII characters, spaces and
tabs. -/
structure Reads (value : List UInt8) (text : String) : Prop where
  /-- Its octets are those of the text. -/
  octets : value = Utf8.octets text
  /-- Each of them is a tab, a space or visible. -/
  plain : ∀ octet ∈ value,
    octet.toNat = 0x09 ∨ 0x20 ≤ octet.toNat ∧ octet.toNat < 0x7F

theorem isPlain_iff {octet : UInt8} :
    isPlain octet ↔
      octet.toNat = 0x09 ∨ 0x20 ≤ octet.toNat ∧ octet.toNat < 0x7F := by
  simp only [isPlain, Bool.or_eq_true, beq_iff_eq, Bool.and_eq_true,
    decide_eq_true_eq, ← UInt8.toNat_inj, UInt8.le_iff_toNat_le,
    UInt8.lt_iff_toNat_lt]
  exact Iff.rfl

/-- The text of a header value. -/
theorem plainText?_eq_some_iff
    {value : List UInt8}
    {text : String} :
    plainText? value = some text ↔ Reads value text := by
  have plain : value.all isPlain ↔ ∀ octet ∈ value,
      octet.toNat = 0x09 ∨ 0x20 ≤ octet.toNat ∧ octet.toNat < 0x7F := by
    simp only [List.all_eq_true, isPlain_iff]
  have octets (isPlain : value.all isPlain) :
      Utf8.octets (String.ofList
        (value.map fun octet => Char.ofNat octet.toNat)) = value := by
    rw [Utf8.octets, String.toList_ofList, Utf8.encode_map_ofNat]
    intro octet member
    have bounds := plain.mp isPlain octet member
    omega
  rw [plainText?]
  constructor
  · intro found
    split at found
    · rename_i isPlain
      obtain rfl := Option.some.inj found
      exact ⟨(octets isPlain).symm, plain.mp isPlain⟩
    · cases found
  · intro reads
    have isPlain := plain.mpr reads.plain
    have sameText := (octets isPlain).trans reads.octets
    rw [if_pos isPlain, Utf8.octets_injective sameText]

/-- White space around a value makes no difference. -/
theorem ofValue?_eq (value : List UInt8) :
    ofValue? value = (plainText? value).bind ofText? := by
  rw [ofValue?]
  cases plainText? value with
  | none => rfl
  | some text =>
      rw [Option.bind_some, Option.bind_some]
      by_cases blank : ∀ symbol ∈ text.toList, isBlank symbol
      · have noneSafe : ∀ symbol ∈ text.toList, ¬ Safe symbol := by
          intro symbol member safe
          exact absurd (blank symbol member) (by simp [safe.isBlank_eq_false])
        rw [nonBlank?_eq_none_iff.mpr blank, ofText?_eq_none noneSafe]
        rfl
      · have notEmpty : trimmed text ≠ "" := by
          intro isEmpty
          exact blank (nonBlank?_eq_none_iff.mp (if_pos isEmpty))
        rw [nonBlank?, if_neg notEmpty, Option.bind_some, ofText?, ofText?,
          safePart_trimmed]

/-! ## Identifiers that are made -/

/-- A text is a number in twenty-six digits to the base thirty-two, the most
significant first. -/
structure IsIdentifier (number : Nat) (text : String) : Prop where
  /-- There are twenty-six digits. -/
  length : text.toList.length = 26
  /-- Each is one of the thirty-two. -/
  each : ∀ symbol ∈ text.toList,
    symbol ∈ "0123456789ABCDEFGHJKMNPQRSTVWXYZ".toList
  /-- Their value is the number. -/
  value : text.toList.foldl
    (fun value symbol => 32 * value + digits.idxOf symbol) 0 = number

/-- The digit at a place of a number. -/
def digitAt (number place : Nat) : Char :=
  digits.getD (number / 32 ^ place % 32) '0'

theorem idxOf_getD_digits :
    ∀ value < 32, digits.idxOf (digits.getD value '0') = value := by
  decide

theorem digitAt_mem_digits (number place : Nat) :
    digitAt number place ∈ digits := by
  have each : ∀ value < 32, digits.getD value '0' ∈ digits := by
    decide
  exact each _ (Nat.mod_lt _ (by decide))

/-- The value of the lowest digits behind a value that has been read. -/
theorem foldl_digitAt (number count value : Nat) :
    ((List.range count).reverse.map (digitAt number)).foldl
        (fun value symbol => 32 * value + digits.idxOf symbol) value =
      value * 32 ^ count + number % 32 ^ count := by
  induction count generalizing value with
  | zero => simp [Nat.mod_one]
  | succ count inductionHypothesis =>
      have digit : digits.idxOf (digitAt number count) =
          number / 32 ^ count % 32 :=
        idxOf_getD_digits _ (Nat.mod_lt _ (by decide))
      rw [List.range_succ, List.reverse_append, List.reverse_singleton,
        List.singleton_append, List.map_cons, List.foldl_cons,
        inductionHypothesis, digit, Nat.mod_pow_succ]
      ring

/-- A number of 128 bits is made an identifier. -/
theorem isIdentifier_generatedText
    {number : Nat}
    (below : number < 2 ^ 128) :
    IsIdentifier number (generatedText number) := by
  have text : (generatedText number).toList =
      (List.range 26).reverse.map (digitAt number) := by
    rw [generatedText, String.toList_ofList]
    rfl
  constructor
  case length => simp [text]
  case each =>
    intro symbol member
    rw [text] at member
    obtain ⟨place, -, rfl⟩ := List.mem_map.mp member
    exact digitAt_mem_digits number place
  case value =>
    have fits : number < 32 ^ 26 := below.trans (by decide)
    rw [text, foldl_digitAt, Nat.mod_eq_of_lt fits]
    omega

/-- Whatever number has been drawn, what is made of it is safe. -/
theorem isSafeText_generatedText (number : Nat) :
    IsSafeText (generatedText number) := by
  have text : (generatedText number).toList =
      (List.range 26).reverse.map (digitAt number) := by
    rw [generatedText, String.toList_ofList]
    rfl
  constructor
  case nonempty => simp [text]
  case short => simp [text]
  case safe =>
    intro symbol member
    rw [text] at member
    obtain ⟨place, -, rfl⟩ := List.mem_map.mp member
    have kept : digits.all isSafe := by decide
    exact (isSafe_iff _).mp
      (List.all_eq_true.mp kept _ (digitAt_mem_digits number place))

/-! ## Headers -/

/-- A name is that of the header, but for letter case. -/
def IsName (name : String) : Prop :=
  name.toList.map Char.toLower = "x-catalog-request-id".toList

instance : DecidablePred IsName := fun _ => inferInstanceAs (Decidable (_ = _))

/-- A value is the first that some headers give under the name. -/
def GivesFirst (headers : HttpHeaders) (value : List UInt8) : Prop :=
  ∃ (front : List (String × List UInt8)) (name : String)
    (rest : List (String × List UInt8)),
    headers = front ++ (name, value) :: rest ∧ IsName name ∧
      ∀ pair ∈ front, ¬ IsName pair.1

/-- The first value is the first that is given under the name. -/
theorem firstValue?_eq_some_iff
    {headers : HttpHeaders}
    {value : List UInt8} :
    firstValue? headers = some value ↔ GivesFirst headers value := by
  have named (pair : String × List UInt8) : isNamed pair ↔ IsName pair.1 :=
    beq_iff_eq
  rw [firstValue?, Option.map_eq_some_iff]
  constructor
  · rintro ⟨⟨name, _⟩, found, rfl⟩
    obtain ⟨isName, front, rest, whole, notInFront⟩ :=
      List.find?_eq_some_iff_append.mp found
    refine ⟨front, name, rest, whole, (named _).mp isName, ?_⟩
    intro pair member inFront
    have notNamed := notInFront pair member
    rw [(named pair).mpr inFront] at notNamed
    cases notNamed
  · rintro ⟨front, name, rest, whole, isName, notInFront⟩
    refine ⟨(name, value), List.find?_eq_some_iff_append.mpr
      ⟨(named _).mpr isName, front, rest, whole, ?_⟩, rfl⟩
    intro pair member
    have notNamed : ¬ isNamed pair :=
      fun isNamed => notInFront pair member ((named pair).mp isNamed)
    simpa using notNamed

/-! ## Identities of requests -/

/-- The first sixty-four safe characters of a text. -/
def firstSafe (text : String) : String :=
  String.ofList ((text.toList.filter fun symbol => Safe symbol).take 64)

/-- The identity that is due to some headers, for which a number has been
drawn. -/
structure IsDue
    (headers : HttpHeaders)
    (fresh : Nat)
    (id : RequestId) : Prop where
  /-- It is safe. -/
  safe : IsSafeText id.text
  /-- If the first value is plain text with a safe character, it is what is safe
  in this text, up to a length. -/
  given : ∀ value text, GivesFirst headers value -> Reads value text ->
    (∃ symbol ∈ text.toList, Safe symbol) -> id = .given (firstSafe text)
  /-- Otherwise it is made. -/
  made : (∀ value text, GivesFirst headers value -> Reads value text ->
    ∀ symbol ∈ text.toList, ¬ Safe symbol) -> id = .generated fresh
  /-- What is made of 128 bits is the identifier of their number. -/
  identifier : fresh < 2 ^ 128 -> id = .generated fresh ->
    IsIdentifier fresh id.text

/-- A value with a safe character gives an identity, and no other does. -/
theorem ofValue?_eq_some
    {value : List UInt8}
    {text : String}
    (reads : Reads value text)
    (someSafe : ∃ symbol ∈ text.toList, Safe symbol) :
    ofValue? value = some (.given (firstSafe text)) := by
  rw [ofValue?_eq, plainText?_eq_some_iff.mpr reads, Option.bind_some,
    (ofText?_eq_some someSafe).1, firstSafe, safePart_eq]

/-- What is safe in the first value is due, if anything is. -/
theorem isDue_given
    {headers : HttpHeaders}
    {value : List UInt8}
    {text : String}
    (first : GivesFirst headers value)
    (reads : Reads value text)
    (someSafe : ∃ symbol ∈ text.toList, Safe symbol)
    (fresh : Nat) :
    IsDue headers fresh (.given (firstSafe text)) := by
  constructor
  case safe =>
    rw [RequestId.text, firstSafe, ← safePart_eq]
    exact (ofText?_eq_some someSafe).2
  case given =>
    intro other otherText otherFirst otherReads _
    have sameValue := (firstValue?_eq_some_iff.mpr first).symm.trans
      (firstValue?_eq_some_iff.mpr otherFirst)
    obtain rfl := Option.some.inj sameValue
    rw [Utf8.octets_injective (reads.octets.symm.trans otherReads.octets)]
  case made =>
    intro noneSafe
    obtain ⟨symbol, member, safe⟩ := someSafe
    exact absurd safe (noneSafe value text first reads symbol member)
  case identifier =>
    rintro _ ⟨⟩

/-- What is made is due, unless something in the first value is safe. -/
theorem isDue_generated
    {headers : HttpHeaders}
    (noneGiven : ¬ ∃ value text, GivesFirst headers value ∧
      Reads value text ∧ ∃ symbol ∈ text.toList, Safe symbol)
    (fresh : Nat) :
    IsDue headers fresh (.generated fresh) where
  safe := isSafeText_generatedText fresh
  given value text first reads someSafe :=
    absurd ⟨value, text, first, reads, someSafe⟩ noneGiven
  made _ := rfl
  identifier below _ := isIdentifier_generatedText below

/-- Every request gets the identity that is due to its headers. -/
theorem isDue_ofHeaders (headers : HttpHeaders) (fresh : Nat) :
    IsDue headers fresh (ofHeaders headers fresh) := by
  by_cases isGiven : ∃ value text, GivesFirst headers value ∧
      Reads value text ∧ ∃ symbol ∈ text.toList, Safe symbol
  · obtain ⟨value, text, first, reads, someSafe⟩ := isGiven
    rw [ofHeaders, firstValue?_eq_some_iff.mpr first, Option.bind_some,
      ofValue?_eq_some reads someSafe, Option.getD_some]
    exact isDue_given first reads someSafe fresh
  · have noValue : (firstValue? headers).bind ofValue? = none := by
      rw [Option.bind_eq_none_iff]
      intro value first
      rw [ofValue?_eq, Option.bind_eq_none_iff]
      intro text reads
      apply ofText?_eq_none
      intro symbol member safe
      exact isGiven ⟨value, text, firstValue?_eq_some_iff.mp first,
        plainText?_eq_some_iff.mp reads, symbol, member, safe⟩
    rw [ofHeaders, noValue, Option.getD_none]
    exact isDue_generated isGiven fresh

/-- A safe text that is sent as the first value is the identity. -/
theorem IsSafeText.ofHeaders_eq
    {text : String}
    (isSafeText : IsSafeText text)
    {headers : HttpHeaders}
    (first : GivesFirst headers (Utf8.octets text))
    (fresh : Nat) :
    ofHeaders headers fresh = .given text := by
  have reads : Reads (Utf8.octets text) text := by
    refine ⟨rfl, fun octet member => .inr ?_⟩
    obtain ⟨symbol, inText, written⟩ := List.mem_flatMap.mp member
    have printable := (isSafeText.safe symbol inText).printable
    rw [Utf8.encodeChar_of_lt (by omega), List.mem_singleton] at written
    rw [written, Utf8.toNat_octet (by omega)]
    omega
  have someSafe : ∃ symbol ∈ text.toList, Safe symbol := by
    obtain ⟨symbol, others, shape⟩ :=
      List.exists_cons_of_length_pos isSafeText.nonempty
    have member : symbol ∈ text.toList := shape ▸ List.mem_cons_self
    exact ⟨symbol, member, isSafeText.safe symbol member⟩
  rw [(isDue_ofHeaders headers fresh).given _ text first reads someSafe,
    firstSafe, ← safePart_eq, isSafeText.safePart_eq_toList,
    String.ofList_toList]

end RequestId

theorem HttpResponse.identified_ofHeaders
    (response : HttpResponse)
    (headers : HttpHeaders)
    (fresh : Nat) :
    response.identified (.ofHeaders headers fresh) =
      { response with requestId := some (.ofHeaders headers fresh) } :=
  if_pos (RequestId.isDue_ofHeaders headers fresh).safe.isHeaderValue

end BookLookup
