import BookLookup.Json.Printer
import BookLookup.Proofs.Text.Split
import BookLookup.Text.Hex
import Mathlib.Data.List.Forall2

/-!
# Blanked signatures

A signature stands behind a marker: so many digits that nobody without the
secret could write. A text is compared without its signatures by writing stars
for them. Texts that differ in nothing but signatures are the same then, however
often and wherever a marker occurs in them, because no marker begins within the
digits of a signature or within another marker.
-/

namespace BookLookup

/-! ## Signatures in texts -/

/-- A character is a digit of a signature. -/
def Hex.IsDigit (symbol : Char) : Prop :=
  ∃ value < 16, symbol = Hex.lowerDigit value

instance (symbol : Char) : Decidable (Hex.IsDigit symbol) :=
  inferInstanceAs (Decidable (∃ value < 16, symbol = Hex.lowerDigit value))

/-- How many digits a signature has. -/
def signatureLength : Nat := 64

/-- Characters are the digits of a signature. -/
structure IsSignature (digits : List Char) : Prop where
  /-- There are as many as a signature has. -/
  length : digits.length = signatureLength
  /-- They are digits. -/
  each : ∀ symbol ∈ digits, Hex.IsDigit symbol

instance (digits : List Char) : Decidable (IsSignature digits) :=
  decidable_of_iff
    (digits.length = signatureLength ∧
      digits.all (fun symbol => decide (Hex.IsDigit symbol)) = true)
    ⟨fun ⟨length, each⟩ => ⟨length, by simpa using each⟩,
      fun signature => ⟨signature.length, by simpa using signature.each⟩⟩

/-- What stands in front of a signature. -/
structure Marker where
  /-- The first character. -/
  first : Char
  /-- The other characters. -/
  others : List Char
  /-- The first character occurs only once. -/
  once : first ∉ others
  /-- It is no digit. -/
  noDigit : ¬ Hex.IsDigit first

namespace Marker

/-- The characters of a marker. -/
def chars (marker : Marker) : List Char :=
  marker.first :: marker.others

/-- A text begins with the marker and a signature behind it. -/
def Signs (marker : Marker) (text : List Char) : Prop :=
  marker.chars <+: text ∧
    IsSignature ((text.drop marker.chars.length).take signatureLength)

instance (marker : Marker) (text : List Char) : Decidable (marker.Signs text) :=
  inferInstanceAs (Decidable (_ ∧ _))

/-- The signature of a text that begins with one. -/
theorem signs_iff {marker : Marker} {text : List Char} :
    marker.Signs text ↔ ∃ digits rest,
      IsSignature digits ∧ text = marker.chars ++ digits ++ rest := by
  constructor
  · rintro ⟨⟨behind, rfl⟩, signature⟩
    rw [List.drop_left] at signature
    refine ⟨_, behind.drop signatureLength, signature, ?_⟩
    rw [List.append_assoc, List.take_append_drop]
  · rintro ⟨digits, rest, signature, rfl⟩
    rw [List.append_assoc]
    refine ⟨List.prefix_append _ _, ?_⟩
    rw [List.drop_left, ← signature.length, List.take_left]
    exact signature

/-- What is written for a text, of which so many characters belong to a marker
and the signature behind it. The characters of the signature are the last of
these. -/
def blankFrom (marker : Marker) : Nat -> List Char -> List Char
  | _, [] => []
  | 0, symbol :: rest =>
      let count :=
        if marker.Signs (symbol :: rest) then
          marker.others.length + signatureLength
        else 0
      symbol :: blankFrom marker count rest
  | count + 1, symbol :: rest =>
      (if count < signatureLength then '*' else symbol) ::
        blankFrom marker count rest

/-- A text without its signatures. -/
def blank (marker : Marker) (text : List Char) : List Char :=
  marker.blankFrom 0 text

/-- A text with its signatures blanked. -/
def blanked (marker : Marker) (text : String) : String :=
  String.ofList (marker.blank text.toList)

/-- Stars in place of a signature. -/
def stars : List Char :=
  List.replicate signatureLength '*'

/-- What belongs to the marker is kept. -/
theorem blankFrom_append
    (marker : Marker)
    (front rest : List Char) :
    marker.blankFrom (front.length + signatureLength) (front ++ rest) =
      front ++ marker.blankFrom signatureLength rest := by
  induction front with
  | nil => rw [List.length_nil, Nat.zero_add, List.nil_append, List.nil_append]
  | cons symbol others inductionHypothesis =>
      rw [List.length_cons, Nat.add_right_comm, List.cons_append, blankFrom,
        if_neg (by omega), inductionHypothesis, List.cons_append]

/-- What belongs to the signature is not. -/
theorem blankFrom_digits
    (marker : Marker)
    {digits : List Char}
    (atMost : digits.length ≤ signatureLength)
    (rest : List Char) :
    marker.blankFrom digits.length (digits ++ rest) =
      List.replicate digits.length '*' ++ marker.blank rest := by
  induction digits with
  | nil => rfl
  | cons symbol others inductionHypothesis =>
      rw [List.length_cons] at atMost
      rw [List.length_cons, List.cons_append, blankFrom, if_pos (by omega),
        inductionHypothesis (by omega), List.replicate_succ, List.cons_append]

/-- A signature at the beginning is blanked. -/
theorem blank_signature
    (marker : Marker)
    {digits : List Char}
    (signature : IsSignature digits)
    (rest : List Char) :
    marker.blank (marker.chars ++ digits ++ rest) =
      marker.chars ++ stars ++ marker.blank rest := by
  have signs : marker.Signs
      (marker.first :: (marker.others ++ (digits ++ rest))) := by
    rw [signs_iff]
    exact ⟨digits, rest, signature, by simp [chars]⟩
  have behind := marker.blankFrom_digits (Nat.le_of_eq signature.length) rest
  rw [signature.length] at behind
  rw [List.append_assoc, chars, List.cons_append, blank, blankFrom,
    if_pos signs, blankFrom_append, behind]
  simp [stars]

theorem first_not_mem
    (marker : Marker)
    {digits : List Char}
    (signature : IsSignature digits) :
    marker.first ∉ marker.others ++ digits := by
  rw [List.mem_append, not_or]
  exact ⟨marker.once, fun member => marker.noDigit (signature.each _ member)⟩

/-- A signature that begins in front of a marker ends there, too. -/
theorem Signs.of_append
    {marker : Marker}
    {front rest : List Char}
    (nonempty : front ≠ [])
    (signs : marker.Signs (front ++ (marker.chars ++ rest))) :
    marker.Signs front := by
  obtain ⟨digits, behind, signature, text⟩ := signs_iff.mp signs
  rcases List.append_eq_append_iff.mp text with
    ⟨between, isSigned, overlap⟩ | ⟨between, isFront, -⟩
  · cases between with
    | nil =>
        rw [List.append_nil] at isSigned
        exact signs_iff.mpr ⟨digits, [], signature, by simp [isSigned]⟩
    | cons symbol more =>
        -- The marker would begin within the other one or within its signature.
        obtain ⟨start, others, rfl⟩ := List.exists_cons_of_ne_nil nonempty
        obtain ⟨isFirst, -⟩ := List.cons.inj overlap
        have inside : marker.others ++ digits = others ++ symbol :: more :=
          (List.cons.inj isSigned).2
        have within : marker.first ∈ marker.others ++ digits := by
          rw [inside, isFirst]
          exact List.mem_append_right others List.mem_cons_self
        exact absurd within (marker.first_not_mem signature)
  · exact signs_iff.mpr ⟨digits, between, signature, isFront⟩

/-- What stands behind a signature does not matter. -/
theorem Signs.append
    {marker : Marker}
    {front : List Char}
    (signs : marker.Signs front)
    (rest : List Char) :
    marker.Signs (front ++ rest) := by
  obtain ⟨digits, behind, signature, rfl⟩ := signs_iff.mp signs
  exact signs_iff.mpr ⟨digits, behind ++ rest, signature, by simp⟩

/-- A signature in front leaves room for itself. -/
theorem Signs.length_le
    {marker : Marker}
    {front : List Char}
    (signs : marker.Signs front) :
    marker.others.length + 1 + signatureLength ≤ front.length := by
  obtain ⟨digits, behind, signature, rfl⟩ := signs_iff.mp signs
  simp only [chars, List.length_append, List.length_cons, signature.length]
  omega

/-- A text in front of a marker is blanked by itself. -/
theorem blankFrom_append_chars
    (marker : Marker)
    {count : Nat}
    {front : List Char}
    (within : count ≤ front.length)
    (rest : List Char) :
    marker.blankFrom count (front ++ (marker.chars ++ rest)) =
      marker.blankFrom count front ++ marker.blank (marker.chars ++ rest) := by
  induction front generalizing count with
  | nil =>
      obtain rfl := Nat.le_zero.mp within
      rfl
  | cons symbol others inductionHypothesis =>
      rw [List.cons_append]
      cases count with
      | zero =>
          have same :
              marker.Signs (symbol :: (others ++ (marker.chars ++ rest))) ↔
                marker.Signs (symbol :: others) := by
            constructor
            · intro signs
              exact Signs.of_append (List.cons_ne_nil _ _) signs
            · intro signs
              exact signs.append _
          rw [blankFrom, blankFrom, if_congr same rfl rfl, List.cons_append]
          congr 1
          split
          · rename_i signs
            have room := signs.length_le
            rw [List.length_cons] at room
            exact inductionHypothesis (by omega)
          · exact inductionHypothesis (Nat.zero_le _)
      | succ count =>
          rw [List.length_cons] at within
          rw [blankFrom, blankFrom, inductionHypothesis (by omega),
            List.cons_append]

/-- A marked signature is blanked wherever it stands. -/
theorem blank_append_signature
    (marker : Marker)
    (front : List Char)
    {digits : List Char}
    (signature : IsSignature digits)
    (rest : List Char) :
    marker.blank (front ++ (marker.chars ++ digits ++ rest)) =
      marker.blank front ++ (marker.chars ++ stars ++ marker.blank rest) := by
  rw [blank, List.append_assoc marker.chars,
    marker.blankFrom_append_chars (Nat.zero_le _), ← List.append_assoc,
    marker.blank_signature signature]
  rfl

/-! ## Texts that differ in their signatures -/

/-- Texts that differ in nothing but marked signatures. -/
inductive Alike (marker : Marker) : List Char -> List Char -> Prop where
  /-- The texts are the same. -/
  | same (text : List Char) : Alike marker text text
  /-- The texts have a signature each, behind the same text. -/
  | signed
      (front : List Char)
      {digits otherDigits rest otherRest : List Char}
      (signature : IsSignature digits)
      (otherSignature : IsSignature otherDigits)
      (alike : Alike marker rest otherRest) :
      Alike marker (front ++ (marker.chars ++ digits ++ rest))
        (front ++ (marker.chars ++ otherDigits ++ otherRest))

/-- They are the same when the signatures are blanked. -/
theorem Alike.blank_eq
    {marker : Marker}
    {text other : List Char}
    (alike : marker.Alike text other) :
    marker.blank text = marker.blank other := by
  induction alike with
  | same text => rfl
  | signed front signature otherSignature alike inductionHypothesis =>
      rw [marker.blank_append_signature front signature,
        marker.blank_append_signature front otherSignature,
        inductionHypothesis]

/-- So are the strings of these texts. -/
theorem Alike.blanked_eq
    {marker : Marker}
    {text other : String}
    (alike : marker.Alike text.toList other.toList) :
    marker.blanked text = marker.blanked other := by
  rw [blanked, blanked, alike.blank_eq]

/-- The same text may stand in front. -/
theorem Alike.append_left
    {marker : Marker}
    (front : List Char)
    {text other : List Char}
    (alike : marker.Alike text other) :
    marker.Alike (front ++ text) (front ++ other) := by
  cases alike with
  | same text => exact .same _
  | signed between signature otherSignature alike =>
      rw [← List.append_assoc, ← List.append_assoc front]
      exact .signed (front ++ between) signature otherSignature alike

/-- Texts that are alike may stand behind each other. -/
theorem Alike.append
    {marker : Marker}
    {front otherFront back otherBack : List Char}
    (alike : marker.Alike front otherFront)
    (behind : marker.Alike back otherBack) :
    marker.Alike (front ++ back) (otherFront ++ otherBack) := by
  induction alike with
  | same text => exact behind.append_left text
  | signed between signature otherSignature alike inductionHypothesis =>
      simpa only [List.append_assoc] using
        Alike.signed between signature otherSignature inductionHypothesis

end Marker
end BookLookup
