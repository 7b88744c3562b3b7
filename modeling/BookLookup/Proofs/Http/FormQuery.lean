import BookLookup.Http.FormQuery
import BookLookup.Proofs.Text.Split
import BookLookup.Proofs.Text.Utf8

/-!
# Queries without pairs

A query stands for no pairs exactly if it is empty or made of ampersands.
-/

namespace BookLookup
namespace FormQuery

/-- Ampersands are the octets of their characters. -/
theorem octets_eq_replicate_iff
    {query : String}
    {count : Nat} :
    Utf8.octets query = List.replicate count 0x26 ↔
      query.toList = List.replicate count '&' := by
  have ampersands :
      Utf8.encode (List.replicate count '&') = List.replicate count 0x26 := by
    induction count with
    | zero => rfl
    | succ count inductionHypothesis =>
        rw [List.replicate_succ, Utf8.encode_cons, inductionHypothesis]
        rfl
  rw [Utf8.octets, ← ampersands]
  constructor
  · intro same
    have read := congrArg Utf8.decode? same
    rw [Utf8.decode?_encode, Utf8.decode?_encode] at read
    exact Option.some.inj read
  · intro same
    rw [same]

/-- A query has no pairs exactly if there is nothing in it but ampersands. -/
theorem pairs_eq_nil_iff {query : String} :
    pairs query = [] ↔ ∀ symbol ∈ query.toList, symbol = '&' := by
  have noPairs : pairs query = [] ↔
      ∀ piece ∈ Split.pieces 0x26 (Utf8.octets query), piece = [] := by
    simp [pairs, List.filter_eq_nil_iff]
  rw [noPairs, Split.forall_pieces_eq_nil_iff]
  constructor
  · intro octets
    have same := octets_eq_replicate_iff.mp (List.eq_replicate_iff.mpr
      ⟨rfl, octets⟩)
    exact (List.eq_replicate_iff.mp same).2
  · intro symbols
    have same := octets_eq_replicate_iff.mpr (List.eq_replicate_iff.mpr
      ⟨rfl, symbols⟩)
    exact (List.eq_replicate_iff.mp same).2

end FormQuery
end BookLookup
