/-!
# Maps kept in the order of their keys

A map is the list of its entries with strictly increasing keys. Strings are
ordered by code point, which is also the order of their octets. Inserting at a
key that is present replaces its value.
-/

namespace BookLookup
namespace Entries

variable {κ α : Type} [LT κ] [DecidableLT κ] [DecidableEq κ]

/-- Put a value at a key into entries kept in the order of their keys. -/
def insert (key : κ) (value : α) : List (κ × α) -> List (κ × α)
  | [] => [(key, value)]
  | entry :: rest =>
      if key < entry.1 then (key, value) :: entry :: rest
      else if key = entry.1 then (key, value) :: rest
      else entry :: insert key value rest

/-- The value at a key. -/
def find? (key : κ) : List (κ × α) -> Option α
  | [] => none
  | entry :: rest => if key = entry.1 then some entry.2 else find? key rest

omit [LT κ] [DecidableLT κ] in
@[simp] theorem find?_nil (key : κ) :
    find? key ([] : List (κ × α)) = none := rfl

/-- The value just put in is found, and no other key is touched. -/
theorem find?_insert
    (key wanted : κ)
    (value : α)
    (entries : List (κ × α)) :
    find? wanted (insert key value entries) =
      if wanted = key then some value else find? wanted entries := by
  induction entries with
  | nil => simp [insert, find?]
  | cons entry rest hypothesis =>
      simp only [insert]
      split
      · simp [find?]
      · split
        · rename_i same
          by_cases wantedKey : wanted = key <;> simp [find?, wantedKey, ← same]
        · rename_i different
          by_cases wantedEntry : wanted = entry.1
          · have : wanted ≠ key := fun h => different (h ▸ wantedEntry)
            simp [find?, wantedEntry] at this ⊢
            simp [this]
          · simp [find?, wantedEntry, hypothesis]

/-- The keys after an insertion are the key put in and those of before. -/
theorem mem_keys_insert
    (key wanted : κ)
    (value : α)
    (entries : List (κ × α)) :
    wanted ∈ (insert key value entries).map Prod.fst <->
      wanted = key ∨ wanted ∈ entries.map Prod.fst := by
  induction entries with
  | nil => simp [insert]
  | cons entry rest hypothesis =>
      simp only [insert]
      split
      · simp
      · split
        · rename_i same
          simp [same]
        · simp only [List.map_cons, List.mem_cons, hypothesis]
          constructor
          · rintro (h | h | h)
            · exact .inr (.inl h)
            · exact .inl h
            · exact .inr (.inr h)
          · rintro (h | h | h)
            · exact .inr (.inl h)
            · exact .inl h
            · exact .inr (.inr h)

/-- Insertion keeps the keys strictly increasing. -/
theorem pairwise_insert
    [Trans (fun left right : κ => left < right) (fun left right => left < right)
      fun left right => left < right]
    [Std.Trichotomous fun left right : κ => left < right]
    {entries : List (κ × α)}
    (increase : entries.Pairwise fun earlier later => earlier.1 < later.1)
    (key : κ)
    (value : α) :
    (insert key value entries).Pairwise
      fun earlier later => earlier.1 < later.1 := by
  induction entries with
  | nil => simp [insert]
  | cons entry rest hypothesis =>
      obtain ⟨below, restIncrease⟩ := List.pairwise_cons.1 increase
      simp only [insert]
      split
      · rename_i before
        refine List.pairwise_cons.2 ⟨?_, increase⟩
        intro other member
        rcases List.mem_cons.1 member with rfl | inRest
        · exact before
        · exact Std.lt_trans before (below other inRest)
      · split
        · rename_i same
          exact List.pairwise_cons.2
            ⟨fun other member => same ▸ below other member, restIncrease⟩
        · rename_i notBefore different
          refine List.pairwise_cons.2 ⟨?_, hypothesis restIncrease⟩
          intro other member
          have key_mem := (mem_keys_insert key other.1 value rest).1
            (List.mem_map_of_mem member)
          rcases key_mem with sameKey | inRest
          · rw [sameKey]
            rcases Std.lt_trichotomy entry.1 key with less | equal | greater
            · exact less
            · exact absurd equal.symm different
            · exact absurd greater notBefore
          · obtain ⟨kept, keptMember, keyEq⟩ := List.mem_map.1 inRest
            exact keyEq ▸ below kept keptMember

end Entries

/-- Strictly increasing string keys. -/
def KeysIncrease {α : Type} (entries : List (String × α)) : Prop :=
  entries.Pairwise fun earlier later => earlier.1 < later.1

/-- Insertion keeps string keys strictly increasing. -/
theorem KeysIncrease.insert
    {α : Type}
    {entries : List (String × α)}
    (increase : KeysIncrease entries)
    (key : String)
    (value : α) :
    KeysIncrease (Entries.insert key value entries) :=
  Entries.pairwise_insert increase key value

/-- A finite map from strings, listed in the order of its keys. -/
structure TextMap (α : Type) where
  /-- The entries. -/
  entries : List (String × α)
  /-- No key occurs twice and the keys increase. -/
  increase : KeysIncrease entries

namespace TextMap

variable {α : Type}

/-- The map without entries. -/
def empty : TextMap α :=
  ⟨[], List.Pairwise.nil⟩

/-- The map with a value put at a key. -/
def insert (map : TextMap α) (key : String) (value : α) : TextMap α :=
  ⟨Entries.insert key value map.entries, map.increase.insert key value⟩

/-- The value at a key. -/
def get? (map : TextMap α) (key : String) : Option α :=
  Entries.find? key map.entries

/-- The keys in order. -/
def keys (map : TextMap α) : List String :=
  map.entries.map Prod.fst

/-- The map of a list of pairs, in which the last value of a key wins. -/
def ofPairs (pairs : List (String × α)) : TextMap α :=
  pairs.foldl (fun map pair => map.insert pair.1 pair.2) empty

@[simp] theorem get?_empty (key : String) :
    (empty : TextMap α).get? key = none := rfl

@[simp] theorem get?_insert
    (map : TextMap α)
    (key wanted : String)
    (value : α) :
    (map.insert key value).get? wanted =
      if wanted = key then some value else map.get? wanted :=
  Entries.find?_insert key wanted value map.entries

end TextMap
end BookLookup
