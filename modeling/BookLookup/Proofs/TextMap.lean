import BookLookup.TextMap
import Mathlib.Data.List.Nodup
import Mathlib.Data.List.Sort

/-!
# The entries of a map

An entry stands in a map exactly if its value is found at its key, so that a map
is determined by what is found in it. The keys of a map made of pairs are those
of the pairs, and what is found at a key is the last value that is given for it.
-/

namespace BookLookup

namespace Entries

variable {κ α β : Type} [DecidableEq κ]

/-- An entry that is found stands among the entries. -/
theorem mem_of_find?_eq_some
    {entries : List (κ × α)}
    {key : κ}
    {value : α}
    (found : find? key entries = some value) :
    (key, value) ∈ entries := by
  induction entries with
  | nil => cases found
  | cons entry rest inductionHypothesis =>
      rw [find?] at found
      split at found
      · rename_i same
        rw [same, ← Option.some.inj found]
        exact List.mem_cons_self
      · exact List.mem_cons_of_mem _ (inductionHypothesis found)

/-- In replaced values the replaced value is found. -/
theorem find?_map
    (replace : α -> β)
    (key : κ)
    (entries : List (κ × α)) :
    find? key (entries.map (Prod.map id replace)) =
      (find? key entries).map replace := by
  induction entries with
  | nil => rfl
  | cons entry rest inductionHypothesis =>
      rw [List.map_cons, find?, find?, Prod.map_fst, Prod.map_snd, id_eq]
      split
      · rfl
      · exact inductionHypothesis

variable [LT κ] [Std.Irrefl fun left right : κ => left < right]

/-- An entry of increasing keys is found. -/
theorem find?_of_mem
    {entries : List (κ × α)}
    (increase : entries.Pairwise fun earlier later => earlier.1 < later.1)
    {key : κ}
    {value : α}
    (member : (key, value) ∈ entries) :
    find? key entries = some value := by
  induction entries with
  | nil => cases member
  | cons entry rest inductionHypothesis =>
      obtain ⟨below, restIncrease⟩ := List.pairwise_cons.mp increase
      rw [find?]
      rcases List.mem_cons.mp member with rfl | inRest
      · exact if_pos rfl
      · have differs : key ≠ entry.1 := by
          rintro rfl
          exact Std.Irrefl.irrefl _ (below (entry.1, value) inRest)
        rw [if_neg differs]
        exact inductionHypothesis restIncrease inRest

/-- Entries of increasing keys in which the same is found at every key are the
same. -/
theorem eq_of_find?_eq
    [Std.Asymm fun left right : κ => left < right]
    {first second : List (κ × α)}
    (firstIncrease : first.Pairwise fun earlier later => earlier.1 < later.1)
    (secondIncrease : second.Pairwise fun earlier later => earlier.1 < later.1)
    (same : ∀ key, find? key first = find? key second) :
    first = second := by
  have irreflexive : Std.Irrefl
      fun earlier later : κ × α => earlier.1 < later.1 :=
    ⟨fun entry => Std.Irrefl.irrefl entry.1⟩
  have antisymmetric : Std.Antisymm
      fun earlier later : κ × α => earlier.1 < later.1 :=
    ⟨fun earlier later less more =>
      absurd more (Std.Asymm.asymm earlier.1 later.1 less)⟩
  refine List.Pairwise.eq_of_mem_iff firstIncrease secondIncrease ?_
  rintro ⟨key, value⟩
  constructor
  · intro member
    exact mem_of_find?_eq_some (same key ▸ find?_of_mem firstIncrease member)
  · intro member
    exact mem_of_find?_eq_some
      ((same key).symm ▸ find?_of_mem secondIncrease member)

end Entries

/-- A value is put in before or after the values are replaced. -/
theorem Entries.map_insert
    {α β : Type}
    (replace : String -> α -> β)
    (key : String)
    (value : α)
    (entries : List (String × α)) :
    (insert key value entries).map
        (fun entry => (entry.1, replace entry.1 entry.2)) =
      insert key (replace key value)
        (entries.map fun entry => (entry.1, replace entry.1 entry.2)) := by
  induction entries with
  | nil => rfl
  | cons entry rest inductionHypothesis =>
      rw [insert, List.map_cons, insert]
      split
      · rfl
      · split
        · rfl
        · rw [List.map_cons, inductionHypothesis]

/-- No key is given twice. -/
theorem KeysIncrease.nodup_keys
    {α : Type}
    {entries : List (String × α)}
    (increase : KeysIncrease entries) :
    (entries.map Prod.fst).Nodup := by
  apply List.pairwise_map.mpr
  apply List.Pairwise.imp _ increase
  intro earlier later less same
  exact String.lt_irrefl _ (same ▸ less)

/-- What is put in at a key beyond all others comes last. -/
theorem Entries.insert_of_forall_lt
    {α : Type}
    {entries : List (String × α)}
    {key : String}
    (beyond : ∀ entry ∈ entries, entry.1 < key)
    (value : α) :
    Entries.insert key value entries = entries ++ [(key, value)] := by
  induction entries with
  | nil => rfl
  | cons entry rest inductionHypothesis =>
      obtain ⟨here, inRest⟩ := List.forall_mem_cons.mp beyond
      have notBefore : ¬ key < entry.1 := String.lt_asymm here
      have differs : key ≠ entry.1 := by
        rintro rfl
        exact String.lt_irrefl _ here
      rw [Entries.insert, if_neg notBefore, if_neg differs,
        inductionHypothesis inRest, List.cons_append]

/-- An entry after an insertion was put in or was there before. -/
theorem Entries.mem_insert
    {α : Type}
    {entries : List (String × α)}
    {key : String}
    {value : α}
    {entry : String × α}
    (member : entry ∈ Entries.insert key value entries) :
    entry = (key, value) ∨ entry ∈ entries := by
  induction entries with
  | nil => exact .inl (List.mem_singleton.mp member)
  | cons first rest inductionHypothesis =>
      rw [Entries.insert] at member
      split at member
      · exact List.mem_cons.mp member
      · split at member
        · rcases List.mem_cons.mp member with here | inRest
          · exact .inl here
          · exact .inr (List.mem_cons_of_mem _ inRest)
        · rcases List.mem_cons.mp member with rfl | inRest
          · exact .inr List.mem_cons_self
          · exact (inductionHypothesis inRest).imp_right
              (List.mem_cons_of_mem _)

/-- The keys after an insertion do not depend on the values. -/
theorem Entries.keys_insert_congr
    {α : Type}
    {first second : List (String × α)}
    (sameKeys : first.map Prod.fst = second.map Prod.fst)
    (key : String)
    (value other : α) :
    (Entries.insert key value first).map Prod.fst =
      (Entries.insert key other second).map Prod.fst := by
  induction first generalizing second with
  | nil =>
      rw [List.map_nil, eq_comm, List.map_eq_nil_iff] at sameKeys
      rw [sameKeys]
      rfl
  | cons entry rest inductionHypothesis =>
      cases second with
      | nil => cases sameKeys
      | cons entry' rest' =>
          rw [List.map_cons, List.map_cons, List.cons.injEq] at sameKeys
          obtain ⟨sameKey, sameRest⟩ := sameKeys
          rw [Entries.insert, Entries.insert, ← sameKey]
          split
          · simp [sameKey, sameRest]
          · split
            · simp [sameRest]
            · rw [List.map_cons, List.map_cons, sameKey,
                inductionHypothesis sameRest]

namespace TextMap

variable {α : Type}

theorem mem_entries_iff
    {map : TextMap α}
    {key : String}
    {value : α} :
    (key, value) ∈ map.entries ↔ map.get? key = some value :=
  ⟨Entries.find?_of_mem map.increase, Entries.mem_of_find?_eq_some⟩

theorem mem_keys_iff {map : TextMap α} {key : String} :
    key ∈ map.keys ↔ ∃ value, map.get? key = some value := by
  simp only [keys, List.mem_map, Prod.exists, exists_and_right, exists_eq_right,
    mem_entries_iff]

/-- Maps in which the same is found at every key are the same. -/
theorem eq_of_get?_eq
    {first second : TextMap α}
    (same : ∀ key, first.get? key = second.get? key) :
    first = second := by
  have entries : first.entries = second.entries :=
    Entries.eq_of_find?_eq first.increase second.increase same
  cases first
  cases second
  congr

theorem mem_keys_insert
    {map : TextMap α}
    {key wanted : String}
    {value : α} :
    wanted ∈ (map.insert key value).keys ↔
      wanted = key ∨ wanted ∈ map.keys :=
  Entries.mem_keys_insert key wanted value map.entries

/-- The keys of a map made of pairs are those of the pairs. -/
theorem mem_keys_ofPairs
    {pairs : List (String × α)}
    {key : String} :
    key ∈ (ofPairs pairs).keys ↔ key ∈ pairs.map Prod.fst := by
  have general (map : TextMap α) :
      key ∈ (pairs.foldl (fun map pair => map.insert pair.1 pair.2) map).keys ↔
        key ∈ pairs.map Prod.fst ∨ key ∈ map.keys := by
    induction pairs generalizing map with
    | nil => simp
    | cons pair others inductionHypothesis =>
        rw [List.foldl_cons, inductionHypothesis, mem_keys_insert,
          List.map_cons, List.mem_cons]
        constructor
        · rintro (inOthers | same | inMap)
          · exact .inl (.inr inOthers)
          · exact .inl (.inl same)
          · exact .inr inMap
        · rintro ((same | inOthers) | inMap)
          · exact .inr (.inl same)
          · exact .inl inOthers
          · exact .inr (.inr inMap)
  rw [ofPairs, general]
  simp [keys, empty]

/-- An entry of a map made of pairs is one of the pairs. -/
theorem mem_of_mem_entries_ofPairs
    {pairs : List (String × α)}
    {entry : String × α}
    (member : entry ∈ (ofPairs pairs).entries) :
    entry ∈ pairs := by
  have general (map : TextMap α)
      (inMap : entry ∈ (pairs.foldl
        (fun map pair => map.insert pair.1 pair.2) map).entries) :
      entry ∈ pairs ∨ entry ∈ map.entries := by
    clear member
    induction pairs generalizing map with
    | nil => exact .inr inMap
    | cons pair others inductionHypothesis =>
        rcases inductionHypothesis _ inMap with inOthers | inserted
        · exact .inl (List.mem_cons_of_mem _ inOthers)
        · rcases Entries.mem_insert inserted with rfl | before
          · exact .inl List.mem_cons_self
          · exact .inr before
  rcases general empty member with inPairs | inEmpty
  · exact inPairs
  · cases inEmpty

/-- In a map made of pairs with distinct keys the pairs are found. -/
theorem get?_ofPairs_eq_some_iff
    {pairs : List (String × α)}
    {key : String}
    {value : α}
    (distinct : (pairs.map Prod.fst).Nodup) :
    (ofPairs pairs).get? key = some value ↔ (key, value) ∈ pairs := by
  constructor
  · intro found
    exact mem_of_mem_entries_ofPairs (mem_entries_iff.mpr found)
  · intro member
    have isKey : key ∈ (ofPairs pairs).keys :=
      mem_keys_ofPairs.mpr (List.mem_map.mpr ⟨_, member, rfl⟩)
    obtain ⟨other, found⟩ := mem_keys_iff.mp isKey
    have otherMember : (key, other) ∈ pairs :=
      mem_of_mem_entries_ofPairs (mem_entries_iff.mpr found)
    have same : (key, other) = (key, value) :=
      List.inj_on_of_nodup_map distinct otherMember member rfl
    rw [found, (Prod.mk.inj same).2]

/-- A map made of pairs has entries if there are pairs. -/
theorem entries_ofPairs_eq_nil_iff {pairs : List (String × α)} :
    (ofPairs pairs).entries = [] ↔ pairs = [] := by
  constructor
  · intro none
    cases pairs with
    | nil => rfl
    | cons pair others =>
        have member : pair.1 ∈ (ofPairs (pair :: others)).keys :=
          mem_keys_ofPairs.mpr List.mem_cons_self
        rw [keys, none] at member
        cases member
  · rintro rfl
    rfl

/-- The entries of a map made of pairs with increasing keys are the pairs. -/
theorem entries_ofPairs
    {pairs : List (String × α)}
    (increase : KeysIncrease pairs) :
    (ofPairs pairs).entries = pairs := by
  have general (map : TextMap α)
      (allIncrease : KeysIncrease (map.entries ++ pairs)) :
      (pairs.foldl (fun map pair => map.insert pair.1 pair.2) map).entries =
        map.entries ++ pairs := by
    induction pairs generalizing map with
    | nil => simp
    | cons pair others inductionHypothesis =>
        have beyond : ∀ entry ∈ map.entries, entry.1 < pair.1 := by
          intro entry member
          exact (List.pairwise_append.mp allIncrease).2.2 entry member pair
            List.mem_cons_self
        have inserted : (map.insert pair.1 pair.2).entries =
            map.entries ++ [pair] :=
          Entries.insert_of_forall_lt beyond pair.2
        have moved : map.entries ++ pair :: others =
            (map.insert pair.1 pair.2).entries ++ others := by
          rw [inserted, List.append_assoc, List.singleton_append]
        rw [moved] at allIncrease ⊢
        exact inductionHypothesis increase.of_cons _ allIncrease
  exact general empty increase

/-- A map with its values replaced. -/
def mapValues
    {β : Type}
    (replace : String -> α -> β)
    (map : TextMap α) : TextMap β where
  entries := map.entries.map fun entry => (entry.1, replace entry.1 entry.2)
  increase := by
    rw [KeysIncrease, List.pairwise_map]
    exact map.increase

/-- A value is put into a map before or after the values are replaced. -/
theorem mapValues_insert
    {β : Type}
    (replace : String -> α -> β)
    (map : TextMap α)
    (key : String)
    (value : α) :
    (map.insert key value).mapValues replace =
      (map.mapValues replace).insert key (replace key value) :=
  (TextMap.mk.injEq ..).mpr (Entries.map_insert replace key value map.entries)

@[simp] theorem get?_mapValues
    {β : Type}
    (replace : String -> α -> β)
    (map : TextMap α)
    (key : String) :
    (map.mapValues replace).get? key = (map.get? key).map (replace key) := by
  refine Option.ext fun result => ?_
  rw [← mem_entries_iff, Option.map_eq_some_iff]
  simp only [mapValues, List.mem_map, Prod.exists, Prod.mk.injEq,
    mem_entries_iff]
  constructor
  · rintro ⟨_, value, found, rfl, rfl⟩
    exact ⟨value, found, rfl⟩
  · rintro ⟨value, found, rfl⟩
    exact ⟨key, value, found, rfl, rfl⟩

/-- A map with only some of its entries. -/
def filter
    (keep : String -> α -> Bool)
    (map : TextMap α) : TextMap α where
  entries := map.entries.filter fun entry => keep entry.1 entry.2
  increase := map.increase.filter _

@[simp] theorem get?_filter
    (keep : String -> α -> Bool)
    (map : TextMap α)
    (key : String) :
    (map.filter keep).get? key = (map.get? key).filter (keep key) := by
  refine Option.ext fun value => ?_
  rw [← mem_entries_iff, Option.filter_eq_some_iff, ← mem_entries_iff]
  exact List.mem_filter

/-! ## The last value of a key -/

/-- A value is the last one that is given for a key. -/
def IsLast
    (pairs : List (String × α))
    (key : String)
    (value : α) : Prop :=
  ∃ front back, pairs = front ++ (key, value) :: back ∧
    ∀ pair ∈ back, pair.1 ≠ key

/-- The last value stands behind the first pair, or in it if the key is not
given again. -/
theorem isLast_cons_iff
    {pair : String × α}
    {others : List (String × α)}
    {key : String}
    {value : α} :
    IsLast (pair :: others) key value ↔
      IsLast others key value ∨
        (∀ other ∈ others, other.1 ≠ key) ∧ pair = (key, value) := by
  constructor
  · rintro ⟨front, back, shape, notLater⟩
    rcases List.cons_eq_append_iff.mp shape with
      ⟨rfl, here⟩ | ⟨between, rfl, rfl⟩
    · obtain ⟨isPair, rfl⟩ := List.cons.inj here
      exact .inr ⟨notLater, isPair.symm⟩
    · exact .inl ⟨between, back, rfl, notLater⟩
  · rintro (⟨front, back, rfl, notLater⟩ | ⟨notLater, rfl⟩)
    · exact ⟨pair :: front, back, rfl, notLater⟩
    · exact ⟨[], others, rfl, notLater⟩

/-- After some pairs are put in, the last value of a key is found, or what was
there before if the key is not given. -/
theorem get?_foldl_insert_eq_some_iff
    {pairs : List (String × α)}
    {map : TextMap α}
    {key : String}
    {value : α} :
    (pairs.foldl (fun map pair => map.insert pair.1 pair.2) map).get? key =
        some value ↔
      IsLast pairs key value ∨
        (∀ pair ∈ pairs, pair.1 ≠ key) ∧ map.get? key = some value := by
  induction pairs generalizing map with
  | nil => simp [IsLast]
  | cons pair others inductionHypothesis =>
      rw [List.foldl_cons, inductionHypothesis, isLast_cons_iff,
        List.forall_mem_cons, get?_insert, Prod.ext_iff]
      by_cases same : key = pair.1
      · simp [same]
      · simp [same, Ne.symm same]

theorem get?_ofPairs_iff_isLast
    {pairs : List (String × α)}
    {key : String}
    {value : α} :
    (ofPairs pairs).get? key = some value ↔ IsLast pairs key value := by
  rw [ofPairs, get?_foldl_insert_eq_some_iff]
  simp

theorem ofPairs_entries (map : TextMap α) : ofPairs map.entries = map :=
  (TextMap.mk.injEq ..).mpr (entries_ofPairs map.increase)

/-- Only the pairs of a key tell what its last value is. -/
theorem isLast_filter_iff
    {pairs : List (String × α)}
    {key : String}
    {value : α} :
    IsLast (pairs.filter fun pair => pair.1 = key) key value ↔
      IsLast pairs key value := by
  induction pairs with
  | nil => exact Iff.rfl
  | cons pair others inductionHypothesis =>
      have noneLater :
          (∀ other ∈ others.filter fun pair => pair.1 = key, other.1 ≠ key) ↔
            ∀ other ∈ others, other.1 ≠ key := by
        simp only [List.mem_filter, decide_eq_true_eq, and_imp, ne_eq]
        exact forall₂_congr fun _ _ =>
          ⟨fun absent same => absent same same, fun absent _ => absent⟩
      rw [List.filter_cons]
      split
      · rw [isLast_cons_iff, isLast_cons_iff, inductionHypothesis, noneLater]
      · rename_i otherKey
        have differs : pair ≠ (key, value) := by
          rintro rfl
          exact otherKey (by simp)
        rw [isLast_cons_iff, inductionHypothesis]
        simp [differs]

end TextMap
end BookLookup
