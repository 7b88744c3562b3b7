import BookLookup.Address.Ipv4
import BookLookup.Proofs.Elementwise
import BookLookup.Proofs.Text.Decimal
import BookLookup.Proofs.Text.Digits
import BookLookup.Proofs.Text.Split
import BookLookup.Url.NumericHost

/-!
# IPv4 addresses are read back as hosts

The text of an address is four numbers between points. A host with this text
ends in a number, and it is the address.
-/

namespace BookLookup
namespace Ipv4

/-- The four octets of an address. -/
def octets (address : Nat) : List Nat := [
  address / 0x1000000, address / 0x10000 % 0x100, address / 0x100 % 0x100,
  address % 0x100]

theorem render_eq_join (address : Nat) :
    render address = Split.join '.' ((octets address).map Decimal.digits) := by
  simp [render, octets]

/-- The points are those between the octets. -/
theorem pieces_render (address : Nat) :
    Split.pieces '.' (render address) =
      (octets address).map Decimal.digits := by
  rw [render_eq_join]
  apply Split.pieces_join (by simp [octets])
  rw [List.forall_mem_map]
  intro octet _ member
  exact absurd (Decimal.isDigit_of_mem_digits member) (by decide)

/-- An address is written in digits and points. -/
theorem isDigit_of_mem_render
    {address : Nat}
    {symbol : Char}
    (member : symbol ∈ render address) :
    symbol = '.' ∨ symbol.isDigit := by
  rw [render_eq_join] at member
  rcases Split.mem_join member with isPoint | ⟨part, isPart, inPart⟩
  · exact .inl isPoint
  · obtain ⟨octet, -, rfl⟩ := List.mem_map.mp isPart
    exact .inr (Decimal.isDigit_of_mem_digits inPart)

end Ipv4

namespace NumericHost

/-- A decimal number has no prefix that tells another base. -/
theorem digitsAndBase_digits (number : Nat) :
    digitsAndBase (Decimal.digits number) = (Decimal.digits number, 10) := by
  rcases Nat.eq_zero_or_pos number with rfl | positive
  · rfl
  · have noZero := Decimal.head?_digits_ne positive
    obtain ⟨first, others, shape⟩ :=
      List.exists_cons_of_ne_nil (Decimal.digits_ne_nil number)
    rw [shape] at noZero ⊢
    have differs : first ≠ '0' := fun same => noZero (by simp [same])
    unfold digitsAndBase
    split <;> simp_all

/-- A part that is a decimal number is read as this number. -/
theorem part?_digits (number : Nat) :
    part? (Decimal.digits number) = some number := by
  have steps (value : Nat) : ∀ digit < 10,
      (((Hex.digitValue? (Nat.digitChar digit)).filter (· < 10)).map
        fun digit => 10 * value + digit) = some (10 * value + digit) := by
    intro digit below
    simp [Hex.digitValue?_digitChar digit (by omega), below]
  rw [part?, if_neg (by simp [Decimal.digits_ne_nil]), digitsAndBase_digits]
  exact Digits.foldlM_toDigits (by decide) steps number

theorem parts_render (address : Nat) :
    parts (Ipv4.render address) =
      (Ipv4.octets address).map Decimal.digits := by
  simp [parts, Ipv4.pieces_render, Ipv4.octets, Decimal.digits_ne_nil]

theorem endsInNumber_render (address : Nat) :
    endsInNumber (Ipv4.render address) = true := by
  simp [endsInNumber, parts_render, Ipv4.octets, part?_digits]

theorem address?_octets
    {address : Nat}
    (below : address < Nat.pow 2 32) :
    address? (Ipv4.octets address) = some address := by
  have bound : Nat.pow 2 32 = 0x100000000 := rfl
  simp [address?, Ipv4.octets, List.zipIdx]
  omega

/-- A written address is read back. -/
theorem read?_render
    {address : Nat}
    (below : address < Nat.pow 2 32) :
    read? (Ipv4.render address) = some address := by
  have numbers : ((Ipv4.octets address).map Decimal.digits).mapM part? =
      some (Ipv4.octets address) := by
    rw [Elementwise.mapM_eq_some_iff, List.forall₂_map_left_iff,
      List.forall₂_same]
    exact fun octet _ => part?_digits octet
  rw [read?, parts_render, numbers]
  exact address?_octets below

/-- Octets add less than the place above them is worth, by what the place below
them is worth. -/
theorem sum_add_le
    {octets : List Nat}
    (small : ∀ octet ∈ octets, octet ≤ 255)
    (index total : Nat)
    (few : index + octets.length ≤ 4) :
    (octets.zipIdx index).foldl (fun total (number, index) =>
        total + number * Nat.pow 256 (3 - index)) total +
      256 ^ (4 - (index + octets.length)) ≤ total + 256 ^ (4 - index) := by
  induction octets generalizing index total with
  | nil => simp
  | cons octet others inductionHypothesis =>
      obtain ⟨octetSmall, othersSmall⟩ := List.forall_mem_cons.mp small
      rw [List.length_cons] at few ⊢
      have after := inductionHypothesis othersSmall (index + 1)
        (total + octet * Nat.pow 256 (3 - index)) (by omega)
      have worth : 256 ^ (4 - index) = 256 * 256 ^ (3 - index) := by
        rw [← Nat.pow_succ']
        congr 1
        omega
      have added : (octet + 1) * 256 ^ (3 - index) ≤ 256 * 256 ^ (3 - index) :=
        Nat.mul_le_mul_right _ (by omega)
      rw [Nat.add_mul, Nat.one_mul] at added
      rw [show 4 - (index + 1) = 3 - index by omega,
        show index + 1 + others.length = index + (others.length + 1) by omega]
        at after
      rw [List.zipIdx_cons, List.foldl_cons, worth]
      refine after.trans ?_
      rw [Nat.pow_eq]
      omega

/-- What numbers make up is an address. -/
theorem lt_of_address?_eq_some
    {numbers : List Nat}
    {address : Nat}
    (made : address? numbers = some address) :
    address < Nat.pow 2 32 := by
  unfold address? at made
  split at made
  · cases made
  · simp only [] at made
    split at made
    · cases made
    · rename_i last _ fits
      simp only [List.any_eq_true, decide_eq_true_eq, not_or, not_exists,
        not_and, Nat.not_lt, Nat.not_le] at fits
      have sum := sum_add_le fits.2.1 0 last (by omega)
      rw [Nat.zero_add] at sum
      rw [← Option.some.inj made]
      exact Nat.lt_of_add_lt_add_right
        (Nat.lt_of_le_of_lt sum (Nat.add_comm last _ ▸
          Nat.add_lt_add_left fits.2.2 _))

theorem lt_of_read?_eq_some
    {host : List Char}
    {address : Nat}
    (read : read? host = some address) :
    address < Nat.pow 2 32 := by
  obtain ⟨numbers, -, made⟩ := Option.bind_eq_some_iff.mp read
  exact lt_of_address?_eq_some made

/-- Whether a host ends in a number is decided behind its first point, unless
nothing is there. -/
theorem endsInNumber_append
    (front : List Char)
    {back : List Char}
    (nonempty : back ≠ []) :
    endsInNumber (front ++ '.' :: back) = endsInNumber back := by
  have last : (parts (front ++ '.' :: back)).getLast? =
      (parts back).getLast? := by
    have pieces := Split.pieces_append_cons '.' front back
    have some := Split.pieces_ne_nil '.' back
    unfold parts
    simp only [pieces, List.getLast?_append_of_ne_nil _ some]
    split
    · rename_i endsEmpty
      -- Something stands before the last point, because the host is not empty.
      have more : (Split.pieces '.' back).dropLast ≠ [] := by
        intro single
        have shape := List.dropLast_append_getLast some
        rw [single, List.nil_append] at shape
        rw [List.getLast?_eq_some_getLast some, Option.some.injEq] at endsEmpty
        have joined := Split.join_pieces '.' back
        rw [← shape, endsEmpty] at joined
        exact nonempty joined.symm
      rw [List.dropLast_append_of_ne_nil some,
        List.getLast?_append_of_ne_nil _ more]
    · exact List.getLast?_append_of_ne_nil _ some
  rw [endsInNumber, endsInNumber, last]

end NumericHost
end BookLookup
