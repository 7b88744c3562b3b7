import BookLookup.Proofs.Signature.CanonicalQuery

/-!
# Canonical queries are a canonical form

The pairs that stand in a canonical query are in the order of the octets of
their names and, under one name, of their values. Decoded they are the pairs
that the query was made from, in some order. So two lists of pairs have one
canonical query exactly if they differ in their order alone.
-/

namespace BookLookup

/-- ASCII texts have the order of their octets. -/
theorem Utf8.encode_lt_encode_iff
    {first second : List Char}
    (firstAscii : ∀ symbol ∈ first, symbol.toNat < 0x80)
    (secondAscii : ∀ symbol ∈ second, symbol.toNat < 0x80) :
    encode first < encode second ↔ first < second := by
  induction first generalizing second with
  | nil =>
      cases second with
      | nil => simp
      | cons other others =>
          have ascii := secondAscii other List.mem_cons_self
          simp [encodeChar_of_lt ascii]
  | cons symbol rest inductionHypothesis =>
      cases second with
      | nil =>
          have ascii := firstAscii symbol List.mem_cons_self
          simp [encodeChar_of_lt ascii]
      | cons other others =>
          obtain ⟨symbolAscii, restAscii⟩ := List.forall_mem_cons.mp firstAscii
          obtain ⟨otherAscii, othersAscii⟩ :=
            List.forall_mem_cons.mp secondAscii
          have less : UInt8.ofNat symbol.toNat < UInt8.ofNat other.toNat ↔
              symbol < other := by
            rw [UInt8.lt_iff_toNat_lt, toNat_octet (by omega),
              toNat_octet (by omega), Char.lt_def, UInt32.lt_iff_toNat_lt]
            rfl
          have same : UInt8.ofNat symbol.toNat = UInt8.ofNat other.toNat ↔
              symbol = other := by
            rw [← UInt8.toNat_inj, toNat_octet (by omega),
              toNat_octet (by omega), Char.toNat_inj]
          rw [encode_cons, encode_cons, encodeChar_of_lt symbolAscii,
            encodeChar_of_lt otherAscii, List.singleton_append,
            List.singleton_append, List.cons_lt_cons_iff,
            List.cons_lt_cons_iff, less, same,
            inductionHypothesis restAscii othersAscii]

namespace CanonicalQuery

/-! ## The order of octets -/

/-- Whether the octets of a pair come before those of another or are the same.
The names are compared before the values. -/
def NotAfter (first second : String × String) : Prop :=
  Utf8.octets first.1 < Utf8.octets second.1 ∨
    Utf8.octets first.1 = Utf8.octets second.1 ∧
      Utf8.octets first.2 ≤ Utf8.octets second.2

/-- Encoded texts have the order of their octets. -/
theorem octets_encode_lt_iff (first second : String) :
    Utf8.octets (PercentEncoding.encode .encoded first) <
        Utf8.octets (PercentEncoding.encode .encoded second) ↔
      PercentEncoding.encode .encoded first <
        PercentEncoding.encode .encoded second :=
  Utf8.encode_lt_encode_iff
    (fun _ member => PercentEncoding.ascii_of_mem_encode member)
    (fun _ member => PercentEncoding.ascii_of_mem_encode member)

/-- Encoded pairs that are in order are so by their octets. -/
theorem notAfter_encodePair
    {first second : String × String}
    (ordered : inOrder (encodePair first) (encodePair second)) :
    NotAfter (encodePair first) (encodePair second) := by
  rcases (inOrder_iff _ _).mp ordered with less | ⟨same, atMost⟩
  · exact .inl ((octets_encode_lt_iff _ _).mpr less)
  · refine .inr ⟨congrArg Utf8.octets same, ?_⟩
    exact fun less => atMost ((octets_encode_lt_iff _ _).mp less)

theorem pairwise_notAfter_encodedPairs (pairs : List (String × String)) :
    (encodedPairs pairs).Pairwise NotAfter := by
  have ordered : (encodedPairs pairs).Pairwise (inOrder · ·) :=
    List.pairwise_mergeSort inOrder_trans inOrder_total _
  rw [encodedPairs_eq_map_arranged, List.pairwise_map] at ordered ⊢
  exact ordered.imp notAfter_encodePair

/-! ## The pairs that stand in a query -/

/-- The two parts of a pair as it is written, cut at its first equals sign. -/
def cutPair? (part : List Char) : Option (String × String) :=
  (Split.atFirst? '=' part).map fun (name, value) =>
    (.ofList name, .ofList value)

/-- The pairs of a query as they are written. The empty query has none. -/
def writtenPairs? (query : String) : Option (List (String × String)) :=
  if query = "" then some []
  else (Split.pieces '&' query.toList).mapM cutPair?

/-- The pair that a written pair stands for. -/
def decodePair? (pair : String × String) : Option (String × String) := do
  let name <- PercentEncoding.decode? pair.1
  let value <- PercentEncoding.decode? pair.2
  return (name, value)

theorem decodePair?_encodePair (pair : String × String) :
    decodePair? (encodePair pair) = some pair := by
  simp [decodePair?, encodePair]

theorem mapM_decodePair? (pairs : List (String × String)) :
    (pairs.map encodePair).mapM decodePair? = some pairs := by
  have eachDecoded : (pairs.map encodePair).mapM decodePair? =
      some (pairs.map id) := by
    rw [List.mapM_map]
    exact Elementwise.mapM_eq_some_map fun pair _ => decodePair?_encodePair pair
  rw [eachDecoded, List.map_id]

theorem cutPair?_pairText (pair : String × String) :
    cutPair? (pairText (encodePair pair)).toList = some (encodePair pair) := by
  have absent : '=' ∉ (encodePair pair).1.toList :=
    PercentEncoding.not_mem_encode (by decide) (by decide) (by decide) _
  have cut := Split.atFirst?_append (encodePair pair).2.toList absent
  simp [cutPair?, pairText, cut]

/-- What stands in a canonical query are the encoded pairs. -/
theorem writtenPairs?_ofPairs (pairs : List (String × String)) :
    writtenPairs? (ofPairs pairs) = some (encodedPairs pairs) := by
  rw [writtenPairs?]
  split
  · rename_i blank
    rw [ofPairs_eq_empty_iff.mp blank]
    simp [encodedPairs]
  · rename_i notBlank
    have nonempty : arranged pairs ≠ [] := by
      intro empty
      rw [ofPairs_eq_written, empty] at notBlank
      exact notBlank rfl
    have absent : ∀ part ∈ (arranged pairs).map fun pair =>
        (pairText (encodePair pair)).toList, '&' ∉ part := by
      rw [List.forall_mem_map]
      exact fun pair _ => ampersand_not_mem pair
    have eachCut : (arranged pairs).mapM
        (cutPair? ∘ fun pair => (pairText (encodePair pair)).toList) =
          some ((arranged pairs).map encodePair) := by
      apply Elementwise.mapM_eq_some_map
      intro pair _
      rw [Function.comp_apply, cutPair?_pairText]
    rw [ofPairs_eq_written, toList_written,
      Split.pieces_join (by simpa using nonempty) absent, List.mapM_map,
      encodedPairs_eq_map_arranged, eachCut]

/-! ## The canonical form -/

/-- A canonical query holds its pairs in the order of their encoded octets, and
tells them up to their order. -/
theorem query_is_canonical_form (pairs : List (String × String)) :
    (∃ encoded decoded,
      writtenPairs? (ofPairs pairs) = some encoded ∧
        encoded.Pairwise NotAfter ∧
        encoded.mapM decodePair? = some decoded ∧ decoded.Perm pairs) ∧
      ∀ other, ofPairs pairs = ofPairs other ↔ pairs.Perm other := by
  refine ⟨⟨encodedPairs pairs, arranged pairs, writtenPairs?_ofPairs pairs,
    pairwise_notAfter_encodedPairs pairs, ?_, perm_arranged pairs⟩, ?_⟩
  · rw [encodedPairs_eq_map_arranged]
    exact mapM_decodePair? _
  · intro other
    refine ⟨?_, ofPairs_eq_of_perm⟩
    intro same
    have encoded := congrArg writtenPairs? same
    rw [writtenPairs?_ofPairs, writtenPairs?_ofPairs, Option.some.injEq,
      encodedPairs_eq_map_arranged, encodedPairs_eq_map_arranged] at encoded
    have decoded := congrArg (List.mapM decodePair?) encoded
    rw [mapM_decodePair?, mapM_decodePair?, Option.some.injEq] at decoded
    calc pairs
      _ |>.Perm (arranged pairs) := (perm_arranged pairs).symm
      _ |>.Perm other := decoded ▸ perm_arranged other

/-- A name that begins another comes first, although the equals sign comes after
the digits. -/
example : ofPairs [("a0", ""), ("a", "1"), ("a", "")] = "a=&a=1&a0=" := by
  cbv

end CanonicalQuery
end BookLookup
