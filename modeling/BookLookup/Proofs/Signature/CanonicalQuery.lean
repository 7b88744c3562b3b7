import BookLookup.Signature.CanonicalQuery
import BookLookup.Proofs.Elementwise
import BookLookup.Proofs.PercentEncoding
import BookLookup.Proofs.Text.Split

/-!
# Canonical queries are canonical and are read back

The order of encoded pairs is total, so that a canonical query depends on its
pairs but not on their order. A query is read by cutting it at its ampersands
and each part at its first equals sign, since neither stands in an encoded text.
-/

namespace BookLookup
namespace CanonicalQuery

/-! ## The order of the pairs -/

theorem inOrder_iff (first second : String × String) :
    inOrder first second ↔
      first.1 < second.1 ∨ first.1 = second.1 ∧ first.2 ≤ second.2 := by
  rw [inOrder, Bool.or_eq_true, Bool.and_eq_true, decide_eq_true_eq, beq_iff_eq,
    Bool.not_eq_true', decide_eq_false_iff_not, String.not_lt]

/-- Any two pairs may stand in one of the two orders. -/
theorem inOrder_total (first second : String × String) :
    inOrder first second || inOrder second first := by
  rw [Bool.or_eq_true, inOrder_iff, inOrder_iff]
  by_cases before : first.1 < second.1
  · exact .inl (.inl before)
  · by_cases after : second.1 < first.1
    · exact .inr (.inl after)
    · have same : first.1 = second.1 :=
        String.le_antisymm (String.not_lt.mp after) (String.not_lt.mp before)
      rcases String.le_total first.2 second.2 with smaller | greater
      · exact .inl (.inr ⟨same, smaller⟩)
      · exact .inr (.inr ⟨same.symm, greater⟩)

/-- The order of pairs is transitive. -/
theorem inOrder_trans
    (first second third : String × String)
    (firstBefore : inOrder first second)
    (secondBefore : inOrder second third) :
    inOrder first third := by
  rw [inOrder_iff] at firstBefore secondBefore ⊢
  rcases firstBefore with less | ⟨same, atMost⟩
  · rcases secondBefore with less' | ⟨same', -⟩
    · exact .inl (String.lt_trans less less')
    · exact .inl (same' ▸ less)
  · rcases secondBefore with less' | ⟨same', atMost'⟩
    · exact .inl (same ▸ less')
    · exact .inr ⟨same.trans same', String.le_trans atMost atMost'⟩

/-- Pairs that may stand in both orders are one pair. -/
theorem inOrder_antisymm
    (first second : String × String)
    (firstBefore : inOrder first second)
    (secondBefore : inOrder second first) :
    first = second := by
  rw [inOrder_iff] at firstBefore secondBefore
  rcases firstBefore with less | ⟨same, atMost⟩
  · rcases secondBefore with greater | ⟨same, -⟩
    · exact absurd greater (String.lt_asymm less)
    · exact absurd (same ▸ less) (String.lt_irrefl _)
  · rcases secondBefore with greater | ⟨-, atLeast⟩
    · exact absurd (same ▸ greater) (String.lt_irrefl _)
    · exact Prod.ext same (String.le_antisymm atMost atLeast)

/-- The same pairs in another order have the same canonical query. -/
theorem ofPairs_eq_of_perm
    {first second : List (String × String)}
    (reordered : first.Perm second) :
    ofPairs first = ofPairs second := by
  have ordered (pairs : List (String × String)) :
      (encodedPairs pairs).Pairwise (inOrder · ·) :=
    List.pairwise_mergeSort inOrder_trans inOrder_total _
  have together : (encodedPairs first).Perm (encodedPairs second) :=
    (perm_encodedPairs first).trans
      ((reordered.map encodePair).trans (perm_encodedPairs second).symm)
  have same : encodedPairs first = encodedPairs second :=
    List.Perm.eq_of_pairwise
      (fun before after _ _ => inOrder_antisymm before after)
      (ordered first) (ordered second) together
  rw [ofPairs, ofPairs, same]

/-- A canonical query is empty exactly if there are no pairs. -/
theorem ofPairs_eq_empty_iff {pairs : List (String × String)} :
    ofPairs pairs = "" ↔ pairs = [] := by
  constructor
  · intro blank
    have sameLength := (perm_encodedPairs pairs).length_eq
    rw [List.length_map] at sameLength
    cases encoded : encodedPairs pairs with
    | nil =>
        rw [encoded] at sameLength
        exact List.length_eq_zero_iff.mp sameLength.symm
    | cons first others =>
        have equals : '=' ∈ (ofPairs pairs).toList := by
          rw [ofPairs, encoded]
          cases others with
          | nil => simp [pairText]
          | cons second more => simp [pairText]
        rw [blank] at equals
        cases equals
  · rintro rfl
    exact ofPairs_nil

/-! ## Pairs as they are written -/

/-- Pairs written in the order in which they stand. -/
def written (pairs : List (String × String)) : String :=
  "&".intercalate (pairs.map fun pair => pairText (encodePair pair))

/-- Pairs in the order in which a canonical query has them. -/
def arranged (pairs : List (String × String)) : List (String × String) :=
  pairs.mergeSort fun first second =>
    inOrder (encodePair first) (encodePair second)

theorem perm_arranged (pairs : List (String × String)) :
    (arranged pairs).Perm pairs :=
  List.mergeSort_perm _ _

theorem encodedPairs_eq_map_arranged (pairs : List (String × String)) :
    encodedPairs pairs = (arranged pairs).map encodePair := by
  have sorted : (arranged pairs).map encodePair = encodedPairs pairs :=
    List.map_mergeSort fun _ _ _ _ => rfl
  exact sorted.symm

theorem ofPairs_eq_written (pairs : List (String × String)) :
    ofPairs pairs = written (arranged pairs) := by
  rw [ofPairs, written, encodedPairs_eq_map_arranged, List.map_map]
  rfl

/-- A last pair is written behind an ampersand. -/
theorem written_concat
    {pairs : List (String × String)}
    (nonempty : pairs ≠ [])
    (last : String × String) :
    written (pairs ++ [last]) =
      written pairs ++ "&" ++ pairText (encodePair last) := by
  rw [written, List.map_append,
    String.intercalate_append_of_ne_nil (by simpa using nonempty) (by simp),
    List.map_singleton, String.intercalate_singleton]
  rfl

/-! ## Reading -/

/-- The name and the value of a part, which is cut at its first equals sign. -/
def readPair? (part : List Char) : Option (String × String) := do
  let (name, value) <- Split.atFirst? '=' part
  let name <- PercentEncoding.decode? (String.ofList name)
  let value <- PercentEncoding.decode? (String.ofList value)
  return (name, value)

/-- The pairs of a query, which is cut at its ampersands. -/
def readPairs? (query : String) : Option (List (String × String)) :=
  (Split.pieces '&' query.toList).mapM readPair?

/-- A written pair is read back. -/
theorem readPair?_pairText (pair : String × String) :
    readPair? (pairText (encodePair pair)).toList = some pair := by
  have absent : '=' ∉ (PercentEncoding.encode .encoded pair.1).toList :=
    PercentEncoding.not_mem_encode (by decide) (by decide) (by decide) _
  have cut : Split.atFirst? '=' (pairText (encodePair pair)).toList =
      some ((PercentEncoding.encode .encoded pair.1).toList,
        (PercentEncoding.encode .encoded pair.2).toList) := by
    simpa [pairText, encodePair] using Split.atFirst?_append _ absent
  simp [readPair?, cut]

theorem ampersand_not_mem (pair : String × String) :
    '&' ∉ (pairText (encodePair pair)).toList := by
  have absent (text : String) :
      '&' ∉ (PercentEncoding.encode .encoded text).toList :=
    PercentEncoding.not_mem_encode (by decide) (by decide) (by decide) text
  simp [pairText, encodePair, absent]

theorem toList_written (pairs : List (String × String)) :
    (written pairs).toList = Split.join '&'
      (pairs.map fun pair => (pairText (encodePair pair)).toList) := by
  rw [written, String.toList_intercalate, List.map_map,
    Split.join_eq_intercalate]
  rfl

/-- Written pairs are read back in their order. -/
theorem readPairs?_written
    {pairs : List (String × String)}
    (nonempty : pairs ≠ []) :
    readPairs? (written pairs) = some pairs := by
  let parts := pairs.map fun pair => (pairText (encodePair pair)).toList
  have cut : Split.pieces '&' (written pairs).toList = parts := by
    rw [toList_written]
    apply Split.pieces_join (by simpa [parts] using nonempty)
    intro part member
    obtain ⟨pair, -, rfl⟩ := List.mem_map.mp member
    exact ampersand_not_mem pair
  have eachRead : parts.mapM readPair? = some (pairs.map id) := by
    rw [List.mapM_map]
    exact Elementwise.mapM_eq_some_map fun pair _ => readPair?_pairText pair
  rw [readPairs?, cut, eachRead, List.map_id]

/-- A written query is made of encoded texts, ampersands and equals signs. -/
theorem mem_written
    {pairs : List (String × String)}
    {symbol : Char}
    (member : symbol ∈ (written pairs).toList) :
    symbol = '&' ∨ symbol = '=' ∨
      PercentEncoding.isWritten .encoded symbol := by
  rw [toList_written] at member
  rcases Split.mem_join member with isAmpersand | ⟨part, isPart, inPart⟩
  · exact .inl isAmpersand
  · obtain ⟨pair, -, rfl⟩ := List.mem_map.mp isPart
    simp only [pairText, encodePair, String.toList_append, List.mem_append]
      at inPart
    rcases inPart with (inName | isSign) | inValue
    · exact .inr (.inr (PercentEncoding.isWritten_of_mem_encode inName))
    · exact .inr (.inl (List.mem_singleton.mp isSign))
    · exact .inr (.inr (PercentEncoding.isWritten_of_mem_encode inValue))

theorem number_sign_not_mem_written (pairs : List (String × String)) :
    '#' ∉ (written pairs).toList := by
  intro member
  rcases mem_written member with isAmpersand | isSign | isWritten
  · cases isAmpersand
  · cases isSign
  · exact absurd isWritten (by decide)

/-! ## The values under a name -/

/-- The values that stand under a name. -/
def valuesOf (name : String) (pairs : List (String × String)) : List String :=
  (pairs.filter (·.1 = name)).map Prod.snd

@[simp] theorem valuesOf_append
    (name : String)
    (front back : List (String × String)) :
    valuesOf name (front ++ back) = valuesOf name front ++ valuesOf name back := by
  simp [valuesOf]

theorem perm_valuesOf_arranged
    (name : String)
    (pairs : List (String × String)) :
    (valuesOf name (arranged pairs)).Perm (valuesOf name pairs) :=
  ((perm_arranged pairs).filter _).map _

/-- Under a name that no pair has, there is no value. -/
theorem valuesOf_of_not_mem
    {name : String}
    {pairs : List (String × String)}
    (absent : name ∉ pairs.map Prod.fst) :
    valuesOf name pairs = [] := by
  have none : pairs.filter (·.1 = name) = [] := by
    rw [List.filter_eq_nil_iff]
    intro pair member same
    exact absent (List.mem_map.mpr ⟨pair, member, of_decide_eq_true same⟩)
  rw [valuesOf, none, List.map_nil]

/-- If no two pairs have one name, there is at most one value under a name. -/
theorem valuesOf_eq_lookup
    {pairs : List (String × String)}
    (distinct : (pairs.map Prod.fst).Nodup)
    (name : String) :
    valuesOf name pairs = (pairs.lookup name).toList := by
  induction pairs with
  | nil => rfl
  | cons pair others inductionHypothesis =>
      rw [List.map_cons, List.nodup_cons] at distinct
      obtain ⟨absent, othersDistinct⟩ := distinct
      have inOthers := inductionHypothesis othersDistinct
      by_cases same : pair.1 = name
      · subst same
        have noOther := valuesOf_of_not_mem absent
        rw [valuesOf] at noOther
        rw [valuesOf, List.filter_cons_of_pos (by simp), List.map_cons,
          noOther, List.lookup_cons_self]
        rfl
      · have differs : (name == pair.1) = false :=
          beq_eq_false_iff_ne.mpr (Ne.symm same)
        rw [valuesOf, List.filter_cons_of_neg (by simpa using same),
          List.lookup_cons, differs]
        exact inOthers

end CanonicalQuery
end BookLookup
