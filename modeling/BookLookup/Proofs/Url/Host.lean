import BookLookup.Proofs.Address.Ipv4
import BookLookup.Proofs.Address.Ipv6
import BookLookup.Proofs.PercentEncoding
import BookLookup.Proofs.Url.Domain
import BookLookup.Url.Host

/-!
# Hosts and their texts

A host under a scheme whose URLs all have one is a domain name in ASCII that
does not end in a number, or an address. Nothing of what divides a URL stands in
its text, apart from the colons of an IPv6 address, which are in brackets. An
address is read back from its text, and a domain name is if its labels are.
-/

namespace BookLookup

namespace PercentEncoding

/-- Octets without a percent sign stand for themselves. -/
theorem decodeOctets_of_not_mem
    {octets : List UInt8}
    (plain : 0x25 ∉ octets) :
    decodeOctets octets = octets := by
  induction octets with
  | nil => rfl
  | cons octet rest inductionHypothesis =>
      rw [List.mem_cons, not_or] at plain
      rw [decodeOctets_cons_of_ne (Ne.symm plain.1),
        inductionHypothesis plain.2]

/-- An ASCII text without a percent sign stands for itself. -/
theorem decode?_of_ascii
    {text : List Char}
    (plain : ∀ symbol ∈ text, symbol.toNat < 0x80 ∧ symbol ≠ '%') :
    Utf8.decode? (decodeOctets (Utf8.encode text)) = some text := by
  have noPercent : 0x25 ∉ Utf8.encode text := by
    intro member
    obtain ⟨symbol, inText, written⟩ := List.mem_flatMap.mp member
    obtain ⟨ascii, differs⟩ := plain symbol inText
    rw [Utf8.encodeChar_of_lt ascii, List.mem_singleton] at written
    have back := ofNat_toNat_octet ascii
    rw [← written] at back
    exact differs back.symm
  rw [decodeOctets_of_not_mem noPercent, Utf8.decode?_encode]

end PercentEncoding

namespace Host

/-- What a host under a scheme with hosts is. -/
def IsNormal : Host -> Prop
  | domain name => name ≠ "" ∧ NumericHost.endsInNumber name.toList = false ∧
      ∃ given, Domain.ascii? given = some name.toList
  | ipv4 address => address < Nat.pow 2 32
  | ipv6 groups => Ipv6.IsAddress groups

/-- A host in brackets is an IPv6 address. -/
theorem isNormal_of_ofBracketed
    {inside : List Char}
    {host : Host}
    (read : ofBracketed inside = .ok host) :
    host.IsNormal := by
  unfold ofBracketed at read
  split at read
  · split at read
    · rename_i groups isRead
      cases read
      exact Ipv6.isAddress_of_read?_eq_some isRead
    · cases read
  · cases read

/-- A host without brackets is a domain name or an IPv4 address. -/
theorem isNormal_of_ofName
    {text : List Char}
    {host : Host}
    (read : ofName text = .ok host) :
    host.IsNormal := by
  unfold ofName at read
  split at read
  · cases read
  · rename_i given _
    split at read
    · cases read
    · cases read
    · rename_i ascii nonempty isAscii
      split at read
      · split at read
        · rename_i address isRead
          cases read
          exact NumericHost.lt_of_read?_eq_some isRead
        · cases read
      · rename_i isName
        cases read
        refine ⟨?_, ?_, given, ?_⟩
        · intro empty
          exact nonempty (String.ofList_eq_empty_iff.mp empty)
        · simpa using isName
        · rw [String.toList_ofList, isAscii]

/-- Every host under a scheme with hosts is such a host. -/
theorem isNormal_of_ofSpecial
    {text : List Char}
    {host : Host}
    (read : ofSpecial text = .ok host) :
    host.IsNormal := by
  unfold ofSpecial at read
  split at read
  · exact isNormal_of_ofBracketed read
  · exact isNormal_of_ofName read

/-! ## The characters of a host -/

/-- A host that is not in brackets is written with characters of labels. -/
theorem isKept_of_mem_text
    {host : Host}
    (normal : host.IsNormal)
    (plain : ∀ groups, host ≠ ipv6 groups) :
    ∀ symbol ∈ host.text.toList, Label.isKept symbol := by
  intro symbol member
  cases host with
  | domain name =>
      obtain ⟨-, -, given, isAscii⟩ := normal
      exact Domain.isKept_of_ascii? isAscii symbol member
  | ipv4 address =>
      rw [text, String.toList_ofList] at member
      rcases Ipv4.isDigit_of_mem_render member with rfl | digit
      · decide
      · exact Label.isKept_of_isDigit digit
  | ipv6 groups => exact absurd rfl (plain groups)

theorem toList_text_ipv6 (groups : List Nat) :
    (ipv6 groups).text.toList = '[' :: (Ipv6.render groups ++ [']']) := by
  rw [text, String.toList_ofList]

/-- A host has a text. -/
theorem text_ne_nil
    {host : Host}
    (normal : host.IsNormal) :
    host.text.toList ≠ [] := by
  cases host with
  | domain name => exact String.toList_eq_nil_iff.not.mpr normal.1
  | ipv4 address =>
      rw [text, String.toList_ofList]
      simp [Ipv4.render]
  | ipv6 groups => simp [toList_text_ipv6]

/-! ## Hosts read from their texts -/

theorem ofSpecial_text_ipv6
    {groups : List Nat}
    (normal : (ipv6 groups).IsNormal) :
    ofSpecial (ipv6 groups).text.toList = .ok (ipv6 groups) := by
  rw [toList_text_ipv6, ofSpecial, ofBracketed,
    if_pos List.getLast?_concat, List.dropLast_concat,
    Ipv6.read?_render normal]

/-- The host that a domain name is read as, given its ASCII form. -/
def ofAscii? : Option (List Char) -> Except UrlFault Host
  | none => .error .invalidDomain
  | some [] => .error .emptyHost
  | some ascii =>
      if NumericHost.endsInNumber ascii then
        match NumericHost.read? ascii with
        | some address => .ok (.ipv4 address)
        | none => .error .invalidIpv4
      else .ok (.domain (String.ofList ascii))

/-- A name in ASCII that ends in a number is an IPv4 address. -/
theorem ofAscii?_of_endsInNumber
    {ascii : List Char}
    {address : Nat}
    (nonempty : ascii ≠ [])
    (ends : NumericHost.endsInNumber ascii = true)
    (isAddress : NumericHost.read? ascii = some address) :
    ofAscii? (some ascii) = .ok (.ipv4 address) := by
  cases ascii with
  | nil => exact absurd rfl nonempty
  | cons symbol others =>
      rw [ofAscii?, if_pos ends, isAddress]
      exact nonempty

/-- Only a name in ASCII that does not end in a number is a domain name. -/
theorem ofAscii?_eq_domain_iff
    {ascii : Option (List Char)}
    {name : String}
    (nonempty : name.toList ≠ [])
    (noNumber : NumericHost.endsInNumber name.toList = false) :
    ofAscii? ascii = .ok (.domain name) ↔ ascii = some name.toList := by
  constructor
  · intro read
    unfold ofAscii? at read
    split at read
    · cases read
    · cases read
    · split at read
      · split at read
        · cases read
        · cases read
      · rw [← Host.domain.inj (Except.ok.inj read), String.toList_ofList]
  · rintro rfl
    cases shape : name.toList with
    | nil => exact absurd shape nonempty
    | cons symbol others =>
        rw [shape] at noNumber
        rw [ofAscii?, noNumber, ← shape, String.ofList_toList]
        · rfl
        · exact List.cons_ne_nil symbol others

/-- A text of kept characters is no host in brackets, and nothing in it is
percent-encoded. -/
theorem ofSpecial_of_isKept
    {text : List Char}
    (kept : ∀ symbol ∈ text, Label.isKept symbol) :
    ofSpecial text = ofAscii? (Domain.ascii? text) := by
  have name : ofSpecial text = ofName text := by
    cases text with
    | nil => rfl
    | cons symbol rest =>
        have noBracket : symbol ≠ '[' := by
          rintro rfl
          exact absurd (kept _ List.mem_cons_self) (by decide)
        rw [ofSpecial]
        rintro inside same
        exact noBracket (List.cons.inj same).1
  have plain : ∀ symbol ∈ text, symbol.toNat < 0x80 ∧ symbol ≠ '%' := by
    intro symbol member
    have isKept := kept symbol member
    refine ⟨?_, ?_⟩
    · rw [Label.isKept, Bool.and_eq_true] at isKept
      exact of_decide_eq_true isKept.1
    · rintro rfl
      exact absurd isKept (by decide)
  rw [name, ofName, PercentEncoding.decode?_of_ascii plain]
  rfl

/-- An IPv4 address is read back. -/
theorem ofSpecial_text_ipv4
    {address : Nat}
    (normal : (ipv4 address).IsNormal) :
    ofSpecial (ipv4 address).text.toList = .ok (ipv4 address) := by
  have kept := isKept_of_mem_text normal (fun _ => Host.noConfusion)
  have shape : (ipv4 address).text.toList = Ipv4.render address := by
    rw [text, String.toList_ofList]
  rw [shape] at kept ⊢
  have plain : ∀ symbol ∈ Ipv4.render address, Domain.IsPlain symbol := by
    intro symbol member
    refine ⟨kept symbol member, ?_⟩
    rcases Ipv4.isDigit_of_mem_render member with rfl | digit
    · rfl
    · apply dif_neg
      rintro ⟨letter, -⟩
      simp only [Char.isDigit, Bool.and_eq_true, decide_eq_true_eq] at digit
      exact absurd (UInt32.le_trans letter digit.2) (by decide)
  have unmarked : ∀ piece ∈ Split.pieces '.' (Ipv4.render address),
      Label.asciiMark.isPrefixOf piece = false := by
    rw [Ipv4.pieces_render, List.forall_mem_map]
    intro octet _
    obtain ⟨first, others, begins⟩ :=
      List.exists_cons_of_ne_nil (Decimal.digits_ne_nil octet)
    have digit := Decimal.isDigit_of_mem_digits
      (begins ▸ List.mem_cons_self : first ∈ Decimal.digits octet)
    have differs : ('x' == first) = false := by
      rw [beq_eq_false_iff_ne]
      rintro rfl
      exact absurd digit (by decide)
    have mark : Label.asciiMark = 'x' :: "n--".toList := by decide
    rw [begins, mark, List.isPrefixOf, differs, Bool.false_and]
  have nonempty : Ipv4.render address ≠ [] := by simp [Ipv4.render]
  rw [ofSpecial_of_isKept kept, Domain.ascii?_of_isPlain plain unmarked]
  exact ofAscii?_of_endsInNumber nonempty
    (NumericHost.endsInNumber_render address) (NumericHost.read?_render normal)

/-- A domain name is read back exactly if it is its own ASCII form. -/
theorem ofSpecial_text_domain_iff
    {name : String}
    (normal : (domain name).IsNormal) :
    ofSpecial (domain name).text.toList = .ok (domain name) ↔
      Domain.ascii? name.toList = some name.toList := by
  have kept := isKept_of_mem_text normal (fun _ => Host.noConfusion)
  rw [ofSpecial_of_isKept kept]
  exact ofAscii?_eq_domain_iff (text_ne_nil normal) normal.2.1

end Host
end BookLookup
