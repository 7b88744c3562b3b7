import BookLookup.Proofs.Url.Host

/-!
# Names in ASCII are read again

Every label of a domain name is read back from its ASCII form, unless the form
has the mark and is longer than what is decoded: then it is no label. So the
ASCII form of a name is its own ASCII form, or none at all, and so it is with
the hosts that are named.
-/

namespace BookLookup

namespace Label

/-- Whether the ASCII form of a label is not too long to be decoded. -/
def isShort (ascii : List Char) : Bool :=
  !asciiMark.isPrefixOf ascii || ascii.length ≤ asciiMark.length + maxEncoded

/-- A part of a name in normal form that lies between points. -/
structure IsNormal (text : List Char) : Prop where
  /-- Its characters stand for themselves. -/
  settled : ∀ symbol ∈ text, Folding.isMoved symbol = false
  /-- It is in composed form, which may be left out for ASCII. -/
  composed : text.all isAscii = false -> Composed.ofText text = text
  /-- There is no point in it. -/
  noPoint : '.' ∉ text

/-- The parts of a name in normal form are in normal form. -/
theorem isNormal_of_mem_pieces
    {name normal text : List Char}
    (isNormal : normal? name = some normal)
    (isPiece : text ∈ Split.pieces '.' normal) :
    IsNormal text where
  settled symbol member :=
    not_isMoved_of_normal? isNormal symbol
      (Split.mem_of_mem_pieces isPiece member)
  composed := by
    intro beyond
    obtain ⟨simple, isSimple, rfl⟩ := Option.map_eq_some_iff.mp isNormal
    split at isPiece
    · rename_i ascii
      rw [List.all_eq_true] at ascii
      rw [List.all_eq_false] at beyond
      obtain ⟨symbol, member, other⟩ := beyond
      exact absurd (ascii symbol (Split.mem_of_mem_pieces isPiece member)) other
    · exact Composed.ofText_of_mem_pieces isPiece
  noPoint := Split.separator_not_mem '.' normal text isPiece

variable {text : List Char} {label : Label}

/-- A label in ASCII is written as it is, and another one behind the mark. -/
theorem ascii_eq_or_of_ofNormal?
    (read : ofNormal? text = some label) :
    (text.all isAscii = true ∧ label.ascii = text) ∨
      (text.all isAscii = false ∧ isWellFormed text ∧
        label = ⟨text, asciiMark ++ Punycode.encode text⟩) := by
  unfold ofNormal? at read
  split at read
  · rename_i ascii
    refine .inl ⟨ascii, ?_⟩
    split at read
    · rename_i marked
      unfold ofMarked? at read
      split at read
      · split at read
        · split at read
          · rw [← Option.some.inj read]
            exact List.prefix_iff_eq_append.mp
              (List.isPrefixOf_iff_prefix.mp marked)
          · cases read
        · cases read
      · cases read
    · split at read
      · cases read
      · rw [← Option.some.inj read]
  · rename_i beyond
    split at read
    · rename_i accepted
      rw [Bool.and_eq_true] at accepted
      exact .inr ⟨Bool.not_eq_true _ ▸ beyond, accepted.1,
        (Option.some.inj read).symm⟩
    · cases read

/-- Whether a character is ASCII and neither a capital letter nor a point. -/
def isSmall (symbol : Char) : Bool :=
  isAscii symbol && symbol.toLower == symbol && symbol != '.'

theorem settled_of_isSmall
    {symbol : Char}
    (small : isSmall symbol) :
    isAscii symbol ∧ Folding.isMoved symbol = false ∧ symbol ≠ '.' := by
  simp only [isSmall, Bool.and_eq_true, beq_iff_eq, bne_iff_ne] at small
  obtain ⟨⟨ascii, same⟩, noPoint⟩ := small
  exact ⟨ascii, Folding.not_isMoved_of_small ascii same, noPoint⟩

/-- A label in ASCII is made of ASCII characters that stand for themselves and
are no points. -/
theorem settled_of_mem_ascii
    (normal : IsNormal text)
    (read : ofNormal? text = some label) :
    ∀ symbol ∈ label.ascii, isAscii symbol ∧
      Folding.isMoved symbol = false ∧ symbol ≠ '.' := by
  intro symbol member
  rcases ascii_eq_or_of_ofNormal? read with ⟨ascii, same⟩ | ⟨-, -, rfl⟩
  · rw [same] at member
    refine ⟨List.all_eq_true.mp ascii symbol member,
      normal.settled symbol member, ?_⟩
    rintro rfl
    exact normal.noPoint member
  · rcases List.mem_append.mp member with inMark | inEncoded
    · have mark : asciiMark.all isSmall = true := by decide
      exact settled_of_isSmall (List.all_eq_true.mp mark symbol inMark)
    · rcases Punycode.mem_encode inEncoded with
        ⟨inText, ascii⟩ | rfl | ⟨value, below, rfl⟩
      · refine ⟨decide_eq_true ascii, normal.settled symbol inText, ?_⟩
        rintro rfl
        exact normal.noPoint inText
      · exact settled_of_isSmall (by decide)
      · have digits : ∀ value < 36, isSmall (Punycode.digit value) := by
          decide
        exact settled_of_isSmall (digits value below)

/-- A label that is not ASCII is what its ASCII form stands for. -/
theorem ofMarked?_encode
    (normal : IsNormal text)
    (beyond : text.all isAscii = false)
    (wellFormed : isWellFormed text) :
    ofMarked? (Punycode.encode text) =
      if (Punycode.encode text).length ≤ maxEncoded then
        some ⟨text, asciiMark ++ Punycode.encode text⟩
      else none := by
  have length : text.length ≤ 1000 := by
    simp only [isWellFormed, Bool.and_eq_true, decide_eq_true_eq] at wellFormed
    exact wellFormed.1.1.1
  have encodable : isEncodable text := by
    simp [isEncodable, Folding.ofText_of_not_isMoved normal.settled,
      normal.composed beyond, wellFormed, normal.noPoint, beyond]
  rw [ofMarked?, Punycode.decode?_encode length]
  simp only [encodable, if_true]

/-- A label is read again from its ASCII form, if this is not too long. -/
theorem ofNormal?_ascii
    (normal : IsNormal text)
    (read : ofNormal? text = some label) :
    ofNormal? label.ascii = if isShort label.ascii then some label else none := by
  rcases ascii_eq_or_of_ofNormal? read with
    ⟨ascii, same⟩ | ⟨beyond, wellFormed, rfl⟩
  · have short : isShort text := by
      unfold ofNormal? at read
      rw [if_pos ascii] at read
      by_cases marked : asciiMark.isPrefixOf text
      · rw [if_pos marked, ofMarked?] at read
        split at read
        · rename_i inside
          rw [List.length_drop] at inside
          simp only [isShort, marked, Bool.not_true, Bool.false_or,
            decide_eq_true_eq]
          omega
        · cases read
      · simp [isShort, marked]
    rw [same, read, if_pos short]
  · have ascii : (asciiMark ++ Punycode.encode text).all isAscii :=
      List.all_eq_true.mpr fun symbol member =>
        (settled_of_mem_ascii normal read symbol member).1
    have marked : asciiMark.isPrefixOf (asciiMark ++ Punycode.encode text) :=
      List.isPrefixOf_iff_prefix.mpr (List.prefix_append _ _)
    have short : isShort (asciiMark ++ Punycode.encode text) =
        decide ((Punycode.encode text).length ≤ maxEncoded) := by
      simp [isShort, marked]
    rw [ofNormal?, if_pos ascii, if_pos marked, List.drop_left,
      ofMarked?_encode normal beyond wellFormed, short]
    simp

/-- Labels are read again from their ASCII forms, if none is too long. -/
theorem mapM_ofNormal?_ascii
    {labels : List Label}
    (again : ∀ label ∈ labels, ofNormal? label.ascii =
      if isShort label.ascii then some label else none) :
    (labels.map (·.ascii)).mapM ofNormal? =
      if (labels.map (·.ascii)).all isShort then some labels else none := by
  induction labels with
  | nil => rfl
  | cons label others inductionHypothesis =>
      obtain ⟨here, behind⟩ := List.forall_mem_cons.mp again
      rw [List.map_cons, List.mapM_cons, List.all_cons, here,
        inductionHypothesis behind]
      cases isShort label.ascii with
      | false => rfl
      | true =>
          cases (others.map (·.ascii)).all isShort with
          | false => rfl
          | true => rfl

end Label

namespace Domain

/-- What a name in ASCII is joined from: labels that were read from parts in
normal form, and that can be told apart. -/
structure JoinsLabels (labels : List Label) (ascii : List Char) : Prop where
  /-- There is a label. -/
  nonempty : labels ≠ []
  /-- Every label was read from a part in normal form. -/
  read : ∀ label ∈ labels, ∃ text, Label.IsNormal text ∧
    Label.ofNormal? text = some label
  /-- However they are shown, the labels can be told apart. -/
  readable : isReadable labels
  /-- The name is the labels with points between them. -/
  joined : ascii = Split.join '.' (labels.map (·.ascii))

/-- A name in ASCII is joined from labels. -/
theorem exists_joinsLabels
    {name ascii : List Char}
    (read : ascii? name = some ascii) :
    ∃ labels, JoinsLabels labels ascii := by
  obtain ⟨labels, areLabels, joined⟩ := Option.bind_eq_some_iff.mp read
  obtain ⟨normal, isNormal, areRead⟩ := Option.bind_eq_some_iff.mp areLabels
  split at joined
  · rename_i readable
    refine ⟨labels, ?_, ?_, readable, (Option.some.inj joined).symm⟩
    · have some := Split.pieces_ne_nil '.' normal
      have length := (Elementwise.mapM_eq_some_iff.mp areRead).length_eq
      rw [← List.length_pos_iff] at some ⊢
      omega
    · intro label isLabel
      obtain ⟨text, isPiece, isRead⟩ :=
        Elementwise.exists_of_mem_mapM areRead label isLabel
      exact ⟨text, Label.isNormal_of_mem_pieces isNormal isPiece, isRead⟩
  · cases joined

variable {labels : List Label} {ascii : List Char}

/-- The labels are made of ASCII characters that stand for themselves and are no
points. -/
theorem JoinsLabels.settled
    (joins : JoinsLabels labels ascii) :
    ∀ part ∈ labels.map (·.ascii), ∀ symbol ∈ part,
      Label.isAscii symbol ∧ Folding.isMoved symbol = false ∧ symbol ≠ '.' := by
  rw [List.forall_mem_map]
  intro label isLabel
  obtain ⟨text, normal, isRead⟩ := joins.read label isLabel
  exact Label.settled_of_mem_ascii normal isRead

theorem JoinsLabels.pieces
    (joins : JoinsLabels labels ascii) :
    Split.pieces '.' ascii = labels.map (·.ascii) := by
  rw [joins.joined]
  exact Split.pieces_join (List.map_eq_nil_iff.not.mpr joins.nonempty)
    fun part isPart point => (joins.settled part isPart '.' point).2.2 rfl

/-- The name is its own normal form. -/
theorem JoinsLabels.normal?
    (joins : JoinsLabels labels ascii) :
    Label.normal? ascii = some ascii := by
  have settled : ∀ symbol ∈ ascii,
      Label.isAscii symbol ∧ Folding.isMoved symbol = false := by
    intro symbol member
    rw [joins.joined] at member
    rcases Split.mem_join member with rfl | ⟨part, isPart, inPart⟩
    · exact ⟨by decide, Folding.not_isMoved_of_small (by decide) rfl⟩
    · have inside := joins.settled part isPart symbol inPart
      exact ⟨inside.1, inside.2.1⟩
  have isAscii : ascii.all Label.isAscii :=
    List.all_eq_true.mpr fun symbol member => (settled symbol member).1
  rw [Label.normal?, Folding.ofText_of_not_isMoved fun symbol member =>
    (settled symbol member).2, Option.map_some, if_pos isAscii]

/-- The ASCII form of a name is its own ASCII form, unless a label of it is too
long to be decoded: then it has none. -/
theorem ascii?_ascii
    {name : List Char}
    (read : ascii? name = some ascii) :
    ascii? ascii =
      if (Split.pieces '.' ascii).all Label.isShort then some ascii
      else none := by
  obtain ⟨labels, joins⟩ := exists_joinsLabels read
  have again : ∀ label ∈ labels, Label.ofNormal? label.ascii =
      if Label.isShort label.ascii then some label else none := by
    intro label isLabel
    obtain ⟨text, normal, isRead⟩ := joins.read label isLabel
    exact Label.ofNormal?_ascii normal isRead
  rw [ascii?, labels?, joins.normal?, Option.bind_some, joins.pieces,
    Label.mapM_ofNormal?_ascii again]
  split
  · rw [Option.bind_some, if_pos joins.readable, joins.joined]
  · rfl

end Domain

namespace Host

/-- Whether the labels of a host are not too long to be decoded. -/
def hasShortLabels : Host -> Bool
  | domain name => (Split.pieces '.' name.toList).all Label.isShort
  | ipv4 _ => true
  | ipv6 _ => true

/-- A host is read again from its text, if its labels are not too long. -/
theorem ofSpecial_text
    {host : Host}
    (normal : host.IsNormal) :
    ofSpecial host.text.toList =
      if host.hasShortLabels then .ok host else .error .invalidDomain := by
  cases host with
  | ipv4 address => exact ofSpecial_text_ipv4 normal
  | ipv6 groups => exact ofSpecial_text_ipv6 normal
  | domain name =>
      obtain ⟨given, isAscii⟩ := normal.2.2
      have again := Domain.ascii?_ascii isAscii
      rw [hasShortLabels]
      split
      · rename_i short
        rw [if_pos short] at again
        exact (ofSpecial_text_domain_iff normal).mpr again
      · rename_i long
        rw [if_neg long] at again
        have kept := isKept_of_mem_text normal (fun _ => Host.noConfusion)
        rw [ofSpecial_of_isKept kept, text, again]
        rfl

end Host
end BookLookup
