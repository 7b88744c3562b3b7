import BookLookup.Proofs.Json.Value

/-!
# Formats

A format says how values are written as JSON and read from it. If every value
that is read is read back from the text that is printed for it, then printing
what has been read gives a text that stays as it is, and values are equal
exactly if their texts are.
-/

namespace BookLookup
namespace Json

/-- How values of some type are written as JSON and read from it. -/
structure Format (α : Type) where
  /-- What is written for a value. -/
  write : α -> Json
  /-- The value that is read, if one is. -/
  read? : Json -> Option α

namespace Format

variable {α : Type} (format : Format α)

/-- The text that is printed for a value. -/
def text (value : α) : String :=
  (format.write value).render

/-- The value that a text writes, if it writes one. -/
def ofText? (text : String) : Option α :=
  (Json.read? text).bind format.read?

/-- The text that is printed for the value that a text writes. -/
def rewrite? (text : String) : Option String :=
  (format.ofText? text).map format.text

/-- A value is printed with nothing lost and read as it was written. -/
structure Keeps (value : α) : Prop where
  /-- What is written is printable. -/
  printable : (format.write value).Printable
  /-- What is written is read as the value. -/
  read : format.read? (format.write value) = some value

/-- Every value that is read is kept. -/
def Stable : Prop :=
  ∀ json value, format.read? json = some value -> format.Keeps value

variable {format}

theorem Keeps.ofText?_text
    {value : α}
    (keeps : format.Keeps value) :
    format.ofText? (format.text value) = some value := by
  rw [ofText?, text, keeps.printable.read?_render, Option.bind_some, keeps.read]

/-- Values that are kept have the same text exactly if they are the same. -/
theorem Keeps.text_inj
    {first second : α}
    (firstKept : format.Keeps first)
    (secondKept : format.Keeps second) :
    format.text first = format.text second ↔ first = second := by
  constructor
  · intro sameText
    have read := firstKept.ofText?_text
    rw [sameText, secondKept.ofText?_text] at read
    exact (Option.some.inj read).symm
  · rintro rfl
    rfl

/-- A value that has been read from a text is read from the text that is printed
for it. -/
theorem Stable.ofText?_text
    (stable : format.Stable)
    {source : String}
    {value : α}
    (read : format.ofText? source = some value) :
    format.ofText? (format.text value) = some value := by
  obtain ⟨json, -, jsonRead⟩ := Option.bind_eq_some_iff.mp read
  exact (stable json value jsonRead).ofText?_text

/-- What is printed for a value that has been read stays as it is. -/
theorem Stable.rewrite?_rewrite?
    (stable : format.Stable)
    (source : String) :
    (format.rewrite? source).bind format.rewrite? = format.rewrite? source := by
  cases read : format.ofText? source with
  | none => rw [rewrite?, read]; rfl
  | some value =>
      have rewritten : format.rewrite? source = some (format.text value) := by
        rw [rewrite?, read, Option.map_some]
      rw [rewritten, Option.bind_some, rewrite?, stable.ofText?_text read,
        Option.map_some]

end Format
end Json
end BookLookup
