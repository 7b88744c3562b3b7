import BookLookup.Attribute
import BookLookup.Proofs.Record
import BookLookup.Proofs.TextMap

/-!
# Attribute values are read back

An attribute value that lists names in their order at every level is read back
from its object, within a depth, exactly if the object nests no deeper. What is
read within a depth is such a value, whatever the order of the names was. The
same holds of items.
-/

namespace BookLookup

/-! ## How deep values nest -/

namespace Json

mutual

/-- How many arrays and objects stand one in the other. -/
def nesting : Json -> Nat
  | array elements => elementsNesting elements + 1
  | object members => membersNesting members + 1
  | _ => 0

/-- How deep the elements of an array nest. -/
def elementsNesting : List Json -> Nat
  | [] => 0
  | first :: others => max (nesting first) (elementsNesting others)

/-- How deep the members of an object nest. -/
def membersNesting : List (String × Json) -> Nat
  | [] => 0
  | (_, first) :: others => max (nesting first) (membersNesting others)

end

/-- An array nests one deeper than its elements. -/
theorem nesting_array_le_iff
    {elements : List Json}
    {depth : Nat} :
    (array elements).nesting ≤ depth + 1 ↔
      ∀ element ∈ elements, element.nesting ≤ depth := by
  rw [nesting, Nat.add_le_add_iff_right]
  induction elements with
  | nil => simp [elementsNesting]
  | cons first others inductionHypothesis =>
      rw [elementsNesting, Nat.max_le, inductionHypothesis,
        List.forall_mem_cons]

/-- An object nests one deeper than its members. -/
theorem nesting_object_le_iff
    {members : List (String × Json)}
    {depth : Nat} :
    (object members).nesting ≤ depth + 1 ↔
      ∀ member ∈ members, member.2.nesting ≤ depth := by
  rw [nesting, Nat.add_le_add_iff_right]
  induction members with
  | nil => simp [membersNesting]
  | cons first others inductionHypothesis =>
      rw [membersNesting, Nat.max_le, inductionHypothesis,
        List.forall_mem_cons]

@[simp] theorem nesting_singleton
    (name : String)
    (value : Json) :
    (object [(name, value)]).nesting = value.nesting + 1 := by
  simp [nesting, membersNesting]

@[simp] theorem nesting_string (text : String) : (string text).nesting = 0 := by
  simp [nesting]

@[simp] theorem nesting_bool (value : Bool) : (bool value).nesting = 0 := by
  simp [nesting]

@[simp] theorem nesting_ofStrings (texts : List String) :
    (ofStrings texts).nesting = 1 := by
  apply Nat.le_antisymm
  · apply nesting_array_le_iff.mpr
    intro element member
    obtain ⟨text, -, rfl⟩ := List.mem_map.mp member
    simp
  · rw [ofStrings, nesting]
    exact Nat.le_add_left 1 _

/-- An object of one member is printable if its value is. -/
theorem Printable.object_singleton
    {name : String}
    {value : Json}
    (printable : Json.Printable value) :
    Json.Printable (.object [(name, value)]) := by
  apply Json.Printable.object
  intro member inSingleton
  rw [List.mem_singleton.mp inSingleton]
  exact printable

end Json

/-! ## Attribute values -/

namespace Attribute

/-- An attribute value lists the names of each map in their order, each of them
once. -/
inductive Ordered : Attribute -> Prop where
  | string (text : String) : Ordered (.string text)
  | number (literal : String) : Ordered (.number literal)
  | binary (encoded : String) : Ordered (.binary encoded)
  | bool (value : Bool) : Ordered (.bool value)
  | null (flag : Bool) : Ordered (.null flag)
  | strings (texts : List String) : Ordered (.strings texts)
  | numbers (literals : List String) : Ordered (.numbers literals)
  | binaries (encoded : List String) : Ordered (.binaries encoded)
  | list
      {elements : List Attribute}
      (each : ∀ element ∈ elements, Ordered element) :
      Ordered (.list elements)
  /-- The names of a map increase. -/
  | map
      {entries : List (String × Attribute)}
      (increase : KeysIncrease entries)
      (each : ∀ entry ∈ entries, Ordered entry.2) :
      Ordered (.map entries)

theorem elementsToJson_eq_map (elements : List Attribute) :
    elementsToJson elements = elements.map toJson := by
  induction elements with
  | nil => rw [elementsToJson, List.map_nil]
  | cons first others inductionHypothesis =>
      rw [elementsToJson, inductionHypothesis, List.map_cons]

theorem entriesToJson_eq_map (entries : List (String × Attribute)) :
    entriesToJson entries = entries.map fun entry =>
      (entry.1, entry.2.toJson) := by
  induction entries with
  | nil => rw [entriesToJson, List.map_nil]
  | cons first others inductionHypothesis =>
      rw [entriesToJson, inductionHypothesis, List.map_cons]

mutual

/-- An attribute value is printable. -/
theorem printable_toJson : ∀ value : Attribute, value.toJson.Printable
  | string text => (Json.Printable.string text).object_singleton
  | number literal => (Json.Printable.string literal).object_singleton
  | binary encoded => (Json.Printable.string encoded).object_singleton
  | bool value => (Json.Printable.bool value).object_singleton
  | null flag => (Json.Printable.bool flag).object_singleton
  | strings texts => (Json.Printable.ofStrings texts).object_singleton
  | numbers literals => (Json.Printable.ofStrings literals).object_singleton
  | binaries encoded => (Json.Printable.ofStrings encoded).object_singleton
  | list elements =>
      (Json.Printable.array (printable_elements elements)).object_singleton
  | map entries =>
      (Json.Printable.object (printable_entries entries)).object_singleton

/-- Attribute values are printable. -/
theorem printable_elements :
    ∀ elements, ∀ element ∈ elementsToJson elements, element.Printable
  | [] => by
      intro element member
      cases member
  | first :: others => by
      intro element member
      rcases List.mem_cons.mp member with rfl | inOthers
      · exact printable_toJson first
      · exact printable_elements others element inOthers

/-- Named attribute values are printable. -/
theorem printable_entries :
    ∀ entries, ∀ member ∈ entriesToJson entries, member.2.Printable
  | [] => by
      intro entry member
      cases member
  | (name, value) :: others => by
      intro entry member
      rcases List.mem_cons.mp member with rfl | inOthers
      · exact printable_toJson value
      · exact printable_entries others entry inOthers

end

theorem ofJson?_list
    (depth : Nat)
    (elements : List Json) :
    ofJson? (depth + 2) (.object [("L", .array elements)]) =
      (elements.mapM (ofJson? depth)).map list := by
  rw [ofJson?.eq_def]
  rfl

theorem ofJson?_map
    (depth : Nat)
    (members : List (String × Json)) :
    ofJson? (depth + 2) (.object [("M", .object members)]) =
      (ofMembers? (ofJson? depth) members).map map := by
  rw [ofJson?.eq_def]
  rfl

/-- What stands alone in an object that nests within a depth nests within one
less. -/
theorem exists_depth_of_nesting_singleton
    {name : String}
    {value : Json}
    {depth : Nat}
    (nests : (Json.object [(name, value)]).nesting ≤ depth) :
    ∃ inner, depth = inner + 1 ∧ value.nesting ≤ inner := by
  rw [Json.nesting_singleton] at nests
  exact ⟨depth - 1, by omega, by omega⟩

/-- A list nests two deeper than its values. -/
theorem nesting_list_le_iff
    {elements : List Attribute}
    {depth : Nat} :
    (list elements).toJson.nesting ≤ depth ↔
      ∃ inner, depth = inner + 2 ∧
        ∀ element ∈ elements, element.toJson.nesting ≤ inner := by
  rw [toJson, elementsToJson_eq_map]
  constructor
  · intro nests
    obtain ⟨outer, rfl, below⟩ := exists_depth_of_nesting_singleton nests
    cases outer with
    | zero => simp [Json.nesting] at below
    | succ inner =>
        rw [Json.nesting_array_le_iff, List.forall_mem_map] at below
        exact ⟨inner, rfl, below⟩
  · rintro ⟨inner, rfl, each⟩
    rw [Json.nesting_singleton, Nat.add_le_add_iff_right,
      Json.nesting_array_le_iff, List.forall_mem_map]
    exact each

/-- An object of named values nests one deeper than they do. -/
theorem nesting_entries_le_iff
    {entries : List (String × Attribute)}
    {depth : Nat} :
    (Json.object (entriesToJson entries)).nesting ≤ depth ↔
      ∃ inner, depth = inner + 1 ∧
        ∀ entry ∈ entries, entry.2.toJson.nesting ≤ inner := by
  rw [entriesToJson_eq_map]
  cases depth with
  | zero => simp [Json.nesting]
  | succ inner =>
      rw [Json.nesting_object_le_iff, List.forall_mem_map]
      simp

/-- A map nests two deeper than its values. -/
theorem nesting_map_le_iff
    {entries : List (String × Attribute)}
    {depth : Nat} :
    (map entries).toJson.nesting ≤ depth ↔
      ∃ inner, depth = inner + 2 ∧
        ∀ entry ∈ entries, entry.2.toJson.nesting ≤ inner := by
  rw [toJson]
  constructor
  · intro nests
    obtain ⟨outer, rfl, below⟩ := exists_depth_of_nesting_singleton nests
    obtain ⟨inner, rfl, each⟩ := nesting_entries_le_iff.mp below
    exact ⟨inner, rfl, each⟩
  · rintro ⟨inner, rfl, each⟩
    rw [Json.nesting_singleton, Nat.add_le_add_iff_right]
    exact nesting_entries_le_iff.mpr ⟨inner, rfl, each⟩

/-- Every attribute value nests, so a depth to which it nests is not zero. -/
theorem exists_depth_of_nesting_toJson
    {value : Attribute}
    {depth : Nat}
    (nests : value.toJson.nesting ≤ depth) :
    ∃ inner, depth = inner + 1 := by
  cases value <;>
    · rw [toJson] at nests
      obtain ⟨inner, isDepth, -⟩ := exists_depth_of_nesting_singleton nests
      exact ⟨inner, isDepth⟩

/-- Texts that stand alone in an object are read one level down. -/
theorem exists_depth_of_nesting_ofStrings
    {name : String}
    {texts : List String}
    {depth : Nat}
    (nests : (Json.object [(name, Json.ofStrings texts)]).nesting ≤ depth) :
    ∃ inner, depth = inner + 1 ∧
      textsWithin? inner (Json.ofStrings texts) = some texts := by
  obtain ⟨inner, rfl, one⟩ := exists_depth_of_nesting_singleton nests
  rw [Json.nesting_ofStrings] at one
  refine ⟨inner, rfl, ?_⟩
  rw [textsWithin?, if_neg (by omega), Json.asStrings?_ofStrings]

/-- A list whose values are read back is read back two levels up. -/
theorem ofJson?_toJson_list
    {elements : List Attribute}
    {inner : Nat}
    (each : ∀ element ∈ elements,
      ofJson? inner element.toJson = some element) :
    ofJson? (inner + 2) (list elements).toJson = some (list elements) := by
  have read : (elements.map toJson).mapM (ofJson? inner) =
      some (elements.map id) := by
    rw [List.mapM_map]
    exact Elementwise.mapM_eq_some_map each
  rw [toJson, elementsToJson_eq_map, ofJson?_list, read, List.map_id,
    Option.map_some]

/-- Named values that are read back, in the order of their names, are read back
as entries. -/
theorem ofMembers?_entriesToJson
    {read : Json -> Option Attribute}
    {entries : List (String × Attribute)}
    (increase : KeysIncrease entries)
    (each : ∀ entry ∈ entries, read entry.2.toJson = some entry.2) :
    ofMembers? read (entriesToJson entries) = some entries := by
  have pairs : (entriesToJson entries).mapM
      (fun member => (read member.2).map fun value => (member.1, value)) =
      some (entries.map id) := by
    rw [entriesToJson_eq_map, List.mapM_map]
    apply Elementwise.mapM_eq_some_map
    intro entry member
    change (read entry.2.toJson).map _ = _
    rw [each entry member]
    rfl
  rw [ofMembers?, pairs, List.map_id, Option.map_some,
    TextMap.entries_ofPairs increase]

/-- A map whose values are read back is read back two levels up. -/
theorem ofJson?_toJson_map
    {entries : List (String × Attribute)}
    (increase : KeysIncrease entries)
    {inner : Nat}
    (each : ∀ entry ∈ entries, ofJson? inner entry.2.toJson = some entry.2) :
    ofJson? (inner + 2) (map entries).toJson = some (map entries) := by
  rw [toJson, ofJson?_map, ofMembers?_entriesToJson increase each,
    Option.map_some]

/-- An ordered attribute value is read back within the depth to which it
nests. -/
theorem Ordered.ofJson?_toJson
    {value : Attribute}
    (ordered : value.Ordered)
    {depth : Nat}
    (nests : value.toJson.nesting ≤ depth) :
    ofJson? depth value.toJson = some value := by
  induction ordered generalizing depth with
  | string _ | number _ | binary _ | bool _ | null _ =>
      obtain ⟨inner, rfl⟩ := exists_depth_of_nesting_toJson nests
      rw [toJson, ofJson?.eq_def]
      rfl
  | strings _ | numbers _ | binaries _ =>
      rw [toJson] at nests ⊢
      obtain ⟨inner, rfl, read⟩ := exists_depth_of_nesting_ofStrings nests
      rw [ofJson?.eq_def]
      exact congrArg (Option.map _) read
  | list _ inductionHypothesis =>
      obtain ⟨inner, rfl, eachNests⟩ := nesting_list_le_iff.mp nests
      exact ofJson?_toJson_list fun element member =>
        inductionHypothesis element member (eachNests element member)
  | map increase _ inductionHypothesis =>
      obtain ⟨inner, rfl, eachNests⟩ := nesting_map_le_iff.mp nests
      exact ofJson?_toJson_map increase fun entry member =>
        inductionHypothesis entry member (eachNests entry member)

/-- Texts that are read one level down nest no deeper. -/
theorem nesting_of_textsWithin?
    {name : String}
    {depth : Nat}
    {value : Json}
    {texts : List String}
    (read : textsWithin? depth value = some texts) :
    (Json.object [(name, Json.ofStrings texts)]).nesting ≤ depth + 1 := by
  unfold textsWithin? at read
  split at read
  · cases read
  · rw [Json.nesting_singleton, Json.nesting_ofStrings]
    omega

/-- Entries that are read from members are in the order of their names, and each
value is read from a member. -/
theorem ofMembers?_eq_some
    {read : Json -> Option Attribute}
    {members : List (String × Json)}
    {entries : List (String × Attribute)}
    (found : ofMembers? read members = some entries) :
    KeysIncrease entries ∧
      ∀ entry ∈ entries, ∃ json, read json = some entry.2 := by
  obtain ⟨pairs, pairsRead, rfl⟩ := Option.map_eq_some_iff.mp found
  refine ⟨(TextMap.ofPairs pairs).increase, ?_⟩
  intro entry member
  obtain ⟨source, -, sourceRead⟩ := Elementwise.exists_of_mem_mapM pairsRead
    entry (TextMap.mem_of_mem_entries_ofPairs member)
  obtain ⟨value, valueRead, rfl⟩ := Option.map_eq_some_iff.mp sourceRead
  exact ⟨source.2, valueRead⟩

/-- What is read within a depth is ordered and nests no deeper. -/
theorem ordered_and_nesting_le_of_ofJson?
    {depth : Nat}
    {json : Json}
    {value : Attribute}
    (read : ofJson? depth json = some value) :
    value.Ordered ∧ value.toJson.nesting ≤ depth := by
  -- Elements and entries are read two levels down, so the depth carries it.
  induction depth using Nat.strongRecOn generalizing json value with
  | ind depth inductionHypothesis =>
      unfold ofJson? at read
      split at read
      · cases read
      · rename_i depth type member
        split_ifs at read
        · obtain ⟨text, -, rfl⟩ := Option.map_eq_some_iff.mp read
          exact ⟨.string text, by simp [toJson]⟩
        · obtain ⟨text, -, rfl⟩ := Option.map_eq_some_iff.mp read
          exact ⟨.number text, by simp [toJson]⟩
        · obtain ⟨text, -, rfl⟩ := Option.map_eq_some_iff.mp read
          exact ⟨.binary text, by simp [toJson]⟩
        · obtain ⟨flag, -, rfl⟩ := Option.map_eq_some_iff.mp read
          exact ⟨.bool flag, by simp [toJson]⟩
        · obtain ⟨flag, -, rfl⟩ := Option.map_eq_some_iff.mp read
          exact ⟨.null flag, by simp [toJson]⟩
        · obtain ⟨texts, textsRead, rfl⟩ := Option.map_eq_some_iff.mp read
          exact ⟨.strings texts, nesting_of_textsWithin? textsRead⟩
        · obtain ⟨texts, textsRead, rfl⟩ := Option.map_eq_some_iff.mp read
          exact ⟨.numbers texts, nesting_of_textsWithin? textsRead⟩
        · obtain ⟨texts, textsRead, rfl⟩ := Option.map_eq_some_iff.mp read
          exact ⟨.binaries texts, nesting_of_textsWithin? textsRead⟩
        · split at read
          · rename_i inner elements
            obtain ⟨values, valuesRead, rfl⟩ := Option.map_eq_some_iff.mp read
            have each : ∀ value ∈ values,
                value.Ordered ∧ value.toJson.nesting ≤ inner := by
              intro value member
              obtain ⟨element, -, elementRead⟩ :=
                Elementwise.exists_of_mem_mapM valuesRead value member
              exact inductionHypothesis inner (by omega) elementRead
            exact ⟨.list fun value member => (each value member).1,
              nesting_list_le_iff.mpr
                ⟨inner, rfl, fun value member => (each value member).2⟩⟩
          · cases read
        · split at read
          · rename_i inner members
            obtain ⟨entries, entriesRead, rfl⟩ :=
              Option.map_eq_some_iff.mp read
            obtain ⟨increase, fromMembers⟩ := ofMembers?_eq_some entriesRead
            have each : ∀ entry ∈ entries,
                entry.2.Ordered ∧ entry.2.toJson.nesting ≤ inner := by
              intro entry member
              obtain ⟨json, jsonRead⟩ := fromMembers entry member
              exact inductionHypothesis inner (by omega) jsonRead
            exact ⟨.map increase fun entry member => (each entry member).1,
              nesting_map_le_iff.mpr
                ⟨inner, rfl, fun entry member => (each entry member).2⟩⟩
          · cases read
      · cases read

theorem Ordered.ofJson?_toJson_iff
    {value : Attribute}
    (ordered : value.Ordered)
    {depth : Nat} :
    ofJson? depth value.toJson = some value ↔ value.toJson.nesting ≤ depth :=
  ⟨fun read => (ordered_and_nesting_le_of_ofJson? read).2,
    ordered.ofJson?_toJson⟩

/-- How attribute values are written, and read within a depth. -/
def format (depth : Nat) : Json.Format Attribute :=
  ⟨toJson, ofJson? depth⟩

theorem stable_format (depth : Nat) : (format depth).Stable := by
  intro json value read
  obtain ⟨ordered, nests⟩ := ordered_and_nesting_le_of_ofJson? read
  exact ⟨value.printable_toJson, ordered.ofJson?_toJson nests⟩

end Attribute

/-! ## Items -/

namespace Item

theorem printable_toJson (item : Item) : item.toJson.Printable :=
  .object (Attribute.printable_entries item.entries)

theorem map_entries_ofJson?
    (depth : Nat)
    (members : List (String × Json)) :
    (ofJson? (depth + 1) (.object members)).map TextMap.entries =
      Attribute.ofMembers? (Attribute.ofJson? depth) members := by
  rw [ofJson?, Attribute.ofMembers?, Option.map_map]
  rfl

/-- Items with the same entries are the same. -/
theorem eq_of_entries_eq
    {first second : Item}
    (same : first.entries = second.entries) :
    first = second := by
  cases first
  cases second
  cases same
  rfl

/-- An item of ordered values is read back within the depth to which it
nests. -/
theorem ofJson?_toJson
    {item : Item}
    (ordered : ∀ entry ∈ item.entries, entry.2.Ordered)
    {depth : Nat}
    (nests : item.toJson.nesting ≤ depth) :
    ofJson? depth item.toJson = some item := by
  obtain ⟨inner, rfl, eachNests⟩ := Attribute.nesting_entries_le_iff.mp nests
  have each : ∀ entry ∈ item.entries,
      Attribute.ofJson? inner entry.2.toJson = some entry.2 := by
    intro entry member
    exact (ordered entry member).ofJson?_toJson (eachNests entry member)
  have entriesRead := map_entries_ofJson? inner
    (Attribute.entriesToJson item.entries)
  rw [Attribute.ofMembers?_entriesToJson item.increase each,
    Option.map_eq_some_iff] at entriesRead
  obtain ⟨found, foundRead, same⟩ := entriesRead
  rw [toJson, foundRead, eq_of_entries_eq same]

/-- What is read within a depth as an item is made of ordered values and nests
no deeper. -/
theorem ordered_and_nesting_le_of_ofJson?
    {depth : Nat}
    {json : Json}
    {item : Item}
    (read : ofJson? depth json = some item) :
    (∀ entry ∈ item.entries, entry.2.Ordered) ∧
      item.toJson.nesting ≤ depth := by
  unfold ofJson? at read
  split at read
  · rename_i inner members
    have entriesRead := map_entries_ofJson? inner members
    rw [ofJson?, read, Option.map_some] at entriesRead
    obtain ⟨-, fromMembers⟩ := Attribute.ofMembers?_eq_some entriesRead.symm
    have each : ∀ entry ∈ item.entries,
        entry.2.Ordered ∧ entry.2.toJson.nesting ≤ inner := by
      intro entry member
      obtain ⟨source, sourceRead⟩ := fromMembers entry member
      exact Attribute.ordered_and_nesting_le_of_ofJson? sourceRead
    exact ⟨fun entry member => (each entry member).1,
      Attribute.nesting_entries_le_iff.mpr
        ⟨inner, rfl, fun entry member => (each entry member).2⟩⟩
  · cases read

/-- How items are written, and read within a depth. -/
def format (depth : Nat) : Json.Format Item :=
  ⟨toJson, ofJson? depth⟩

theorem stable_format (depth : Nat) : (format depth).Stable := by
  intro json item read
  obtain ⟨ordered, nests⟩ := ordered_and_nesting_le_of_ofJson? read
  exact ⟨item.printable_toJson, ofJson?_toJson ordered nests⟩

end Item
end BookLookup
