import BookLookup.Address.Ipv6
import BookLookup.Proofs.Elementwise
import BookLookup.Proofs.Text.Decimal
import BookLookup.Proofs.Text.Digits
import BookLookup.Proofs.Text.Split

/-!
# IPv6 addresses are read back

The text of an address is its groups between colons, with a double colon for a
run of zeros. What is left out is put in again by the reader, because the
number of groups is known.
-/

namespace BookLookup
namespace Ipv6

/-- The groups of an address. -/
structure IsAddress (groups : List Nat) : Prop where
  /-- Eight of them make up an address. -/
  count : groups.length = groupCount
  /-- Every group has sixteen bits. -/
  bound : ∀ group ∈ groups, group < 0x10000

/-! ## Groups -/

/-- A group is read back. -/
theorem group?_digits
    {group : Nat}
    (below : group < 0x10000) :
    group? (Hex.digits group) = some group := by
  have some : (Hex.digits group).length ≠ 0 := by
    simp [Hex.digits, Nat.toDigits_ne_nil]
  have few : (Hex.digits group).length ≤ 4 :=
    (Nat.length_toDigits_le_iff (by decide) (by decide)).mpr below
  have steps (value : Nat) : ∀ digit < 16,
      ((Hex.digitValue? (Nat.digitChar digit)).map fun digit =>
        16 * value + digit) = Option.some (16 * value + digit) := by
    intro digit below
    rw [Hex.digitValue?_digitChar digit below, Option.map_some]
  rw [group?, if_neg (by omega)]
  exact Digits.foldlM_toDigits (by decide) steps group

theorem mapM_group?_digits
    {groups : List Nat}
    (bound : ∀ group ∈ groups, group < 0x10000) :
    (groups.map Hex.digits).mapM group? = some groups := by
  rw [Elementwise.mapM_eq_some_iff, List.forall₂_map_left_iff,
    List.forall₂_same]
  exact fun group member => group?_digits (bound group member)

/-- Groups are read back where an IPv4 address could stand. -/
theorem groups?_digits
    {groups : List Nat}
    (bound : ∀ group ∈ groups, group < 0x10000) :
    groups? (groups.map Hex.digits) = some groups := by
  induction groups with
  | nil => rfl
  | cons group others inductionHypothesis =>
      obtain ⟨here, behind⟩ := List.forall_mem_cons.mp bound
      have othersRead := inductionHypothesis behind
      cases others with
      | nil => simp [groups?, group?_digits here]
      | cons second more =>
          rw [List.map_cons] at othersRead
          rw [List.map_cons, List.map_cons]
          simp [groups?, group?_digits here, othersRead]

theorem colon_not_mem_digits (group : Nat) : ':' ∉ Hex.digits group := by
  intro member
  obtain ⟨digit, below, same⟩ :=
    Digits.exists_of_mem_toDigits (by decide) member
  have differ : ∀ digit < 16, ':' ≠ Nat.digitChar digit := by decide
  exact differ digit below same

theorem pieces_renderGroups
    {groups : List Nat}
    (nonempty : groups ≠ []) :
    Split.pieces ':' (renderGroups groups) = groups.map Hex.digits := by
  apply Split.pieces_join (by simp [nonempty])
  rw [List.forall_mem_map]
  exact fun group _ => colon_not_mem_digits group

/-- The pieces of groups that may be none. -/
theorem partPieces_renderGroups (groups : List Nat) :
    partPieces (renderGroups groups) = groups.map Hex.digits := by
  cases groups with
  | nil => rfl
  | cons group others =>
      have some : renderGroups (group :: others) ≠ [] := by
        intro empty
        have pieces := pieces_renderGroups (List.cons_ne_nil group others)
        rw [empty, Split.pieces_nil, List.map_cons, List.cons.injEq] at pieces
        exact Nat.toDigits_ne_nil pieces.1.symm
      rw [partPieces, if_neg (by simp [some])]
      exact pieces_renderGroups (List.cons_ne_nil group others)

/-! ## The double colon -/

/-- A word without colons has no double colon. -/
theorem atDoubleColon?_append
    {word : List Char}
    (plain : ':' ∉ word)
    (text : List Char) :
    atDoubleColon? (word ++ text) =
      (atDoubleColon? text).map fun (before, after) =>
        (word ++ before, after) := by
  induction word with
  | nil => simp
  | cons symbol rest inductionHypothesis =>
      rw [List.mem_cons, not_or] at plain
      obtain ⟨differs, restPlain⟩ := plain
      rw [List.cons_append, atDoubleColon?, inductionHypothesis restPlain,
        Option.map_map]
      · rfl
      · intro rest same
        exact absurd same.symm differs

/-- A colon in front of a word is no double colon. -/
theorem atDoubleColon?_colon
    {word : List Char}
    (plain : ':' ∉ word)
    (nonempty : word ≠ [])
    (text : List Char) :
    atDoubleColon? (':' :: (word ++ text)) =
      (atDoubleColon? (word ++ text)).map fun (before, after) =>
        (':' :: before, after) := by
  obtain ⟨symbol, rest, rfl⟩ := List.exists_cons_of_ne_nil nonempty
  have differs : ':' ≠ symbol := (not_or.mp (List.mem_cons.not.mp plain)).1
  rw [List.cons_append, atDoubleColon?]
  intro after _ same
  exact differs (List.cons.inj same).1.symm

/-- Words between colons have no double colon, if none is empty. -/
theorem atDoubleColon?_join
    {words : List (List Char)}
    (plain : ∀ word ∈ words, ':' ∉ word ∧ word ≠ [])
    (text : List Char) :
    atDoubleColon? (Split.join ':' words ++ text) =
      (atDoubleColon? text).map fun (before, after) =>
        (Split.join ':' words ++ before, after) := by
  induction words with
  | nil => simp
  | cons word others inductionHypothesis =>
      obtain ⟨here, behind⟩ := List.forall_mem_cons.mp plain
      have inOthers := inductionHypothesis behind
      cases others with
      | nil => exact atDoubleColon?_append here.1 text
      | cons second more =>
          obtain ⟨next, -⟩ := List.forall_mem_cons.mp behind
          have cut : ∃ rest, Split.join ':' (second :: more) ++ text =
              second ++ rest := by
            cases more with
            | nil => exact ⟨text, rfl⟩
            | cons third others =>
                exact ⟨':' :: (Split.join ':' (third :: others) ++ text),
                  by simp⟩
          obtain ⟨rest, begins⟩ := cut
          rw [Split.join_cons_cons, List.append_assoc, List.cons_append,
            atDoubleColon?_append here.1, begins,
            atDoubleColon?_colon next.1 next.2, ← begins, inOthers,
            Option.map_map, Option.map_map]
          congr 1
          funext ⟨before, after⟩
          simp

/-- Groups between colons have no double colon. -/
theorem atDoubleColon?_renderGroups
    (groups : List Nat)
    (text : List Char) :
    atDoubleColon? (renderGroups groups ++ text) =
      (atDoubleColon? text).map fun (before, after) =>
        (renderGroups groups ++ before, after) := by
  apply atDoubleColon?_join
  rw [List.forall_mem_map]
  exact fun group _ => ⟨colon_not_mem_digits group, Nat.toDigits_ne_nil⟩

/-! ## The run of zeros -/

/-- A run of zeros stands where it was found. -/
theorem longestRun_le_zeroRun (groups : List Nat) :
    (longestRun groups).2 ≤
      zeroRun (groups.drop (longestRun groups).1) := by
  unfold longestRun
  generalize List.range groups.length = starts
  have invariant (best : Nat × Nat)
      (found : best.2 ≤ zeroRun (groups.drop best.1)) :
      (starts.foldl (fun best start =>
        let length := zeroRun (groups.drop start)
        if best.2 < length then (start, length) else best) best).2 ≤
        zeroRun (groups.drop (starts.foldl (fun best start =>
          let length := zeroRun (groups.drop start)
          if best.2 < length then (start, length) else best) best).1) := by
    induction starts generalizing best with
    | nil => exact found
    | cons start others inductionHypothesis =>
        rw [List.foldl_cons]
        apply inductionHypothesis
        simp only []
        split
        · exact Nat.le_refl _
        · exact found
  exact invariant (0, 0) (Nat.zero_le _)

/-- What a run of zeros begins with is zeros. -/
theorem take_eq_replicate
    {groups : List Nat}
    {count : Nat}
    (within : count ≤ zeroRun groups) :
    groups.take count = List.replicate count 0 := by
  induction groups generalizing count with
  | nil =>
      have : count = 0 := Nat.le_zero.mp within
      simp [this]
  | cons group others inductionHypothesis =>
      cases count with
      | zero => rfl
      | succ less =>
          by_cases zero : group = 0
          · have run : zeroRun (group :: others) = zeroRun others + 1 := by
              simp [zeroRun, zero]
            rw [List.take_succ_cons, inductionHypothesis (by omega),
              List.replicate_succ, zero]
          · have run : zeroRun (group :: others) = 0 := by
              simp [zeroRun, zero]
            omega

theorem around_longestRun (groups : List Nat) :
    groups.take (longestRun groups).1 ++
        List.replicate (longestRun groups).2 0 ++
        groups.drop ((longestRun groups).1 + (longestRun groups).2) =
      groups := by
  rw [← take_eq_replicate (longestRun_le_zeroRun groups), List.append_assoc,
    ← List.drop_drop, List.take_append_drop, List.take_append_drop]

/-! ## Addresses -/

/-- A double colon between groups is read as the zeros that are left out. -/
theorem read?_doubleColon
    {front back : List Nat}
    (frontBound : ∀ group ∈ front, group < 0x10000)
    (backBound : ∀ group ∈ back, group < 0x10000)
    (fewer : front.length + back.length < groupCount) :
    read? (renderGroups front ++ ':' :: ':' :: renderGroups back) =
      some (front ++
        List.replicate (groupCount - (front.length + back.length)) 0 ++
        back) := by
  have cut : atDoubleColon? (renderGroups front ++ ':' :: ':' ::
      renderGroups back) = some (renderGroups front, renderGroups back) := by
    rw [atDoubleColon?_renderGroups]
    simp [atDoubleColon?]
  simp [read?, cut, partPieces_renderGroups, mapM_group?_digits frontBound,
    groups?_digits backBound, fewer]

/-- The text of an address is read back. -/
theorem read?_render
    {groups : List Nat}
    (address : IsAddress groups) :
    read? (render groups) = some groups := by
  unfold render
  simp only []
  split
  · have plain : atDoubleColon? (renderGroups groups) = none := by
      simpa [atDoubleColon?] using atDoubleColon?_renderGroups groups []
    have nonempty : groups ≠ [] := by
      intro empty
      have count := address.count
      simp [empty, groupCount] at count
    simp [read?, plain, pieces_renderGroups nonempty,
      groups?_digits address.bound, address.count]
  · rename_i long
    generalize frontEq : groups.take (longestRun groups).1 = front
    generalize backEq : groups.drop ((longestRun groups).1 +
      (longestRun groups).2) = back
    have together := around_longestRun groups
    rw [frontEq, backEq] at together
    have count := congrArg List.length together
    rw [address.count, List.length_append, List.length_append,
      List.length_replicate] at count
    have frontBound : ∀ group ∈ front, group < 0x10000 := fun group member =>
      address.bound group (List.mem_of_mem_take (frontEq ▸ member))
    have backBound : ∀ group ∈ back, group < 0x10000 := fun group member =>
      address.bound group (List.mem_of_mem_drop (backEq ▸ member))
    rw [read?_doubleColon frontBound backBound (by omega),
      show groupCount - (front.length + back.length) = (longestRun groups).2
        by omega, together]

/-! ## What is read -/

/-- A value that is read digit by digit is bounded by their number. -/
theorem lt_of_foldlM_eq_some
    {digits : List Char}
    {value number : Nat}
    (read : digits.foldlM (fun value symbol =>
      (Hex.digitValue? symbol).map fun digit => 16 * value + digit) value =
        some number) :
    number < (value + 1) * 16 ^ digits.length := by
  induction digits generalizing value with
  | nil =>
      rw [List.foldlM_nil] at read
      cases read
      simp
  | cons symbol rest inductionHypothesis =>
      rw [List.foldlM_cons] at read
      obtain ⟨next, here, behind⟩ := Option.bind_eq_some_iff.mp read
      obtain ⟨digit, isDigit, rfl⟩ := Option.map_eq_some_iff.mp here
      have below := Hex.lt_of_digitValue?_eq_some isDigit
      calc number < (16 * value + digit + 1) * 16 ^ rest.length :=
            inductionHypothesis behind
        _ ≤ (16 * (value + 1)) * 16 ^ rest.length :=
            Nat.mul_le_mul_right _ (by omega)
        _ = (value + 1) * 16 ^ (symbol :: rest).length := by
            rw [List.length_cons, Nat.pow_succ]
            ac_rfl

/-- A group has sixteen bits. -/
theorem lt_of_group?_eq_some
    {piece : List Char}
    {group : Nat}
    (read : group? piece = some group) :
    group < 0x10000 := by
  unfold group? at read
  split at read
  · cases read
  · have bound := lt_of_foldlM_eq_some read
    have few : 16 ^ piece.length ≤ 16 ^ 4 :=
      Nat.pow_le_pow_right (by decide) (by omega)
    omega

/-- An IPv4 address has two groups. -/
theorem lt_of_ipv4_eq_some
    {text : List Char}
    {address : Nat}
    (read : Ipv4.read? text = some address) :
    address < 0x100000000 := by
  have octetBound {piece : List Char} {octet : Nat}
      (isOctet : Ipv4.octet? piece = some octet) : octet < 256 := by
    unfold Ipv4.octet? at isOctet
    split at isOctet
    · cases isOctet
    · simpa using (Option.filter_eq_some_iff.mp isOctet).2
  unfold Ipv4.read? at read
  split at read
  · rename_i first second third fourth octets
    have each := Elementwise.mapM_eq_some_iff.mp octets
    simp only [List.forall₂_cons_right_iff, List.forall₂_nil_right_iff] at each
    obtain ⟨_, _, isFirst, ⟨_, _, isSecond, ⟨_, _, isThird, ⟨_, _, isFourth,
      -⟩, -⟩, -⟩, -⟩ := each
    have firstBound := octetBound isFirst
    have secondBound := octetBound isSecond
    have thirdBound := octetBound isThird
    have fourthBound := octetBound isFourth
    have sum := Option.some.inj read
    omega
  · cases read

/-- Every group of some pieces has sixteen bits. -/
theorem lt_of_mem_groups?
    {pieces : List (List Char)}
    {groups : List Nat}
    (read : groups? pieces = some groups) :
    ∀ group ∈ groups, group < 0x10000 := by
  induction pieces generalizing groups with
  | nil =>
      cases read
      simp
  | cons piece others inductionHypothesis =>
      cases others with
      | nil =>
          unfold groups? at read
          split at read
          · rename_i group isGroup
            cases read
            simpa using lt_of_group?_eq_some isGroup
          · obtain ⟨address, isAddress, rfl⟩ := Option.map_eq_some_iff.mp read
            have bound := lt_of_ipv4_eq_some isAddress
            simp
            omega
      | cons second more =>
          unfold groups? at read
          obtain ⟨group, isGroup, behind⟩ := Option.bind_eq_some_iff.mp read
          obtain ⟨rest, isRest, all⟩ := Option.bind_eq_some_iff.mp behind
          rw [← Option.some.inj all, List.forall_mem_cons]
          exact ⟨lt_of_group?_eq_some isGroup, inductionHypothesis isRest⟩

/-- What is read is an address. -/
theorem isAddress_of_read?_eq_some
    {text : List Char}
    {groups : List Nat}
    (read : read? text = some groups) :
    IsAddress groups := by
  unfold read? at read
  split at read
  · obtain ⟨isGroups, count⟩ := Option.filter_eq_some_iff.mp read
    exact ⟨of_decide_eq_true count, lt_of_mem_groups? isGroups⟩
  · obtain ⟨front, isFront, behind⟩ := Option.bind_eq_some_iff.mp read
    obtain ⟨back, isBack, behind⟩ := Option.bind_eq_some_iff.mp behind
    split at behind
    · rename_i fewer
      rw [← Option.some.inj behind]
      constructor
      · simp
        omega
      · intro group member
        rcases List.mem_append.mp member with inFront | inBack
        · rcases List.mem_append.mp inFront with isMember | isZero
          · obtain ⟨piece, -, isGroup⟩ :=
              Elementwise.exists_of_mem_mapM isFront group isMember
            exact lt_of_group?_eq_some isGroup
          · rw [List.eq_of_mem_replicate isZero]
            decide
        · exact lt_of_mem_groups? isBack group inBack
    · cases behind

/-- An address is written in digits and colons. -/
theorem mem_render
    {groups : List Nat}
    {symbol : Char}
    (member : symbol ∈ render groups) :
    symbol = ':' ∨ ∃ digit < 16, symbol = Nat.digitChar digit := by
  have inGroups {part : List Nat} (inPart : symbol ∈ renderGroups part) :
      symbol = ':' ∨ ∃ digit < 16, symbol = Nat.digitChar digit := by
    rcases Split.mem_join inPart with isColon | ⟨digits, isDigits, inDigits⟩
    · exact .inl isColon
    · obtain ⟨group, -, rfl⟩ := List.mem_map.mp isDigits
      exact .inr (Digits.exists_of_mem_toDigits (by decide) inDigits)
  unfold render at member
  simp only [] at member
  split at member
  · exact inGroups member
  · rw [List.mem_append, List.mem_cons, List.mem_cons] at member
    rcases member with inFront | isColon | isColon | inBack
    · exact inGroups inFront
    · exact .inl isColon
    · exact .inl isColon
    · exact inGroups inBack

end Ipv6
end BookLookup
