import BookLookup.Json.Printer
import BookLookup.Proofs.Json.Grammar
import BookLookup.Proofs.Text.Utf8

/-!
# Printed values are read back

The text that is printed for a value made of texts, truth values, natural
numbers, arrays and objects is a text of the grammar that writes the value. So
the value is read back from it, and from its octets.
-/

namespace BookLookup
namespace Json

/-! ## Values that are printed -/

/-- Values that are printed with nothing lost. -/
inductive Printable : Json -> Prop where
  | null : Printable .null
  | bool (value : Bool) : Printable (.bool value)
  | ofNat (number : Nat) : Printable (.ofNat number)
  | string (text : String) : Printable (.string text)
  | array
      {elements : List Json}
      (each : ∀ element ∈ elements, Printable element) :
      Printable (.array elements)
  | object
      {members : List (String × Json)}
      (each : ∀ member ∈ members, Printable member.2) :
      Printable (.object members)

theorem Printable.ofStrings (texts : List String) :
    Printable (Json.ofStrings texts) := by
  apply Printable.array
  intro element member
  obtain ⟨text, -, rfl⟩ := List.mem_map.mp member
  exact .string text

/-! ## What is printed -/

/-- The elements of an array are printed as elements. -/
theorem writes_elements
    (first : Json)
    (others : List Json)
    (each : ∀ element ∈ first :: others,
      Writes element.chars (.value element)) :
    Writes (chars first ++ moreElements others)
      (.elements (first :: others)) := by
  induction others generalizing first with
  | nil =>
      rw [moreElements, List.append_nil]
      exact .lastElement (each first List.mem_cons_self).unspaced
  | cons second more inductionHypothesis =>
      rw [moreElements]
      refine .nextElement (each first List.mem_cons_self).unspaced ?_
      exact inductionHypothesis second fun element member =>
        each element (List.mem_cons_of_mem _ member)

/-- A name and a value are printed as a member. -/
theorem writes_member
    {name : String}
    {value : Json}
    (writes : Writes value.chars (.value value)) :
    Writes (quoted name ++ ':' :: value.chars) (.member (name, value)) := by
  have member := Writes.member isSpacing_nil (writesText_escape name.toList)
    isSpacing_nil writes.unspaced
  rw [String.ofList_toList] at member
  simpa [quoted] using member

/-- The members of an object are printed as members. -/
theorem writes_members
    (first : String × Json)
    (others : List (String × Json))
    (each : ∀ member ∈ first :: others,
      Writes member.2.chars (.value member.2)) :
    Writes (quoted first.1 ++ ':' :: chars first.2 ++ moreMembers others)
      (.members (first :: others)) := by
  induction others generalizing first with
  | nil =>
      rw [moreMembers, List.append_nil]
      exact .lastMember (writes_member (each first List.mem_cons_self))
  | cons second more inductionHypothesis =>
      rw [moreMembers]
      refine .nextMember (writes_member (each first List.mem_cons_self)) ?_
      exact inductionHypothesis second fun member inMore =>
        each member (List.mem_cons_of_mem _ inMore)

/-- What is printed for a printable value writes it. -/
theorem Printable.writes
    {value : Json}
    (printable : Printable value) :
    Writes value.chars (.value value) := by
  induction printable with
  | null => exact .null
  | bool truth =>
      cases truth with
      | true => exact .yes
      | false => exact .no
  | ofNat number =>
      have text : (Json.ofNat number).chars = Decimal.digits number := by
        rw [Json.ofNat, chars, String.toList_ofList, Decimal.digits]
      rw [text]
      exact .number (isNumber_digits number)
  | string text =>
      have writes := Writes.string (writesText_escape text.toList)
      rwa [String.ofList_toList] at writes
  | @array elements each inductionHypothesis =>
      cases elements with
      | nil => exact .noElements isSpacing_nil
      | cons first others =>
          exact .array (writes_elements first others inductionHypothesis)
  | @object members each inductionHypothesis =>
      cases members with
      | nil => exact .noMembers isSpacing_nil
      | cons first others =>
          exact .object (writes_members first others inductionHypothesis)

/-! ## Reading -/

theorem Printable.read?_render
    {value : Json}
    (printable : Printable value) :
    read? value.render = some value :=
  printable.writes.unspaced.read?_eq

theorem readOctets?_octets (text : String) :
    readOctets? (Utf8.octets text) = read? text := by
  rw [readOctets?, Utf8.octets, Utf8.units_encode, read?]

theorem Printable.readOctets?_octets_render
    {value : Json}
    (printable : Printable value) :
    readOctets? (Utf8.octets value.render) = some value :=
  (readOctets?_octets _).trans printable.read?_render

end Json
end BookLookup
