import BookLookup.Proofs.Url.Hosted
import BookLookup.Proofs.Url.Reread

/-!
# URLs that name nothing but a host

A text of a scheme and a host is read as a URL with this host and nothing else.
A host that is written with characters of labels in ASCII is a name in small
letters, if it is a host at all and does not end in a number.
-/

namespace BookLookup

/-! ## The case of letters -/

/-- A text in small letters. -/
def inSmall (text : List Char) : List Char :=
  text.map Char.toLower

theorem inSmall_append (front back : List Char) :
    inSmall (front ++ back) = inSmall front ++ inSmall back :=
  List.map_append

/-- The case of a letter does not matter for whether it may stand in a label. -/
theorem Label.isKept_toLower (symbol : Char) :
    isKept symbol.toLower = isKept symbol := by
  have table : ∀ code < 0x80, isKept (Char.ofNat code).toLower =
      isKept (Char.ofNat code) := by
    decide
  by_cases below : symbol.toNat < 0x80
  · rw [← Char.ofNat_toNat symbol]
    exact table symbol.toNat below
  · have same : symbol.toLower = symbol := by
      apply dif_neg
      rintro ⟨-, letter⟩
      have bound : symbol.toNat ≤ 0x5A := UInt32.le_iff_toNat_le.mp letter
      omega
    rw [same]

theorem Label.isKept_of_inSmall
    {text : List Char}
    (kept : ∀ symbol ∈ inSmall text, isKept symbol) :
    ∀ symbol ∈ text, isKept symbol := by
  intro symbol member
  rw [← isKept_toLower]
  exact kept symbol.toLower (List.mem_map_of_mem member)

theorem Label.isAscii_of_isKept
    {symbol : Char}
    (kept : isKept symbol) :
    isAscii symbol := by
  rw [isKept, Bool.and_eq_true] at kept
  exact kept.1

/-- Labels that are read from texts in ASCII are written like these. -/
theorem Label.map_ascii_of_all_ascii
    {texts : List (List Char)}
    {labels : List Label}
    (allAscii : ∀ text ∈ texts, text.all isAscii)
    (read : List.Forall₂ (fun text label => ofNormal? text = some label)
      texts labels) :
    labels.map (·.ascii) = texts := by
  induction read with
  | nil => rfl
  | cons isRead _ inductionHypothesis =>
      rw [List.forall_mem_cons] at allAscii
      rw [List.map_cons, inductionHypothesis allAscii.2]
      rcases ascii_eq_or_of_ofNormal? isRead with ⟨-, same⟩ | ⟨beyond, -⟩
      · rw [same]
      · rw [allAscii.1] at beyond
        cases beyond

/-! ## Names in ASCII are only put in small letters -/

namespace Domain

variable {name : List Char} (kept : ∀ symbol ∈ name, Label.isKept symbol)

include kept

theorem isKept_of_mem_inSmall :
    ∀ symbol ∈ inSmall name, Label.isKept symbol := by
  intro symbol member
  obtain ⟨before, inName, rfl⟩ := List.mem_map.mp member
  rw [Label.isKept_toLower]
  exact kept before inName

/-- Small letters stay as they are. -/
theorem inSmall_inSmall : inSmall (inSmall name) = inSmall name := by
  rw [inSmall, inSmall, List.map_map, List.map_inj_left]
  intro symbol member
  have ascii (symbol : Char) (isKept : Label.isKept symbol) :
      symbol.toNat < 0x80 :=
    of_decide_eq_true (Label.isAscii_of_isKept isKept)
  have isKept := kept symbol member
  have settled := (Folding.isMoved_of_ascii (ascii symbol isKept)).1
  rw [← Label.isKept_toLower] at isKept
  exact (Folding.isMoved_of_ascii (ascii symbol.toLower isKept)).2 settled

/-- Its normal form is in small letters. -/
theorem normal?_of_isKept :
    Label.normal? name = some (inSmall name) := by
  have simple : ∀ symbol ∈ name,
      Folding.ofChar symbol = some [symbol.toLower] := by
    intro symbol member
    have below : symbol.toNat < 0x80 :=
      of_decide_eq_true (Label.isAscii_of_isKept (kept symbol member))
    simp [Folding.ofChar, below]
  have isSimple : Folding.ofText name = some (inSmall name) := by
    rw [Folding.ofText, Elementwise.mapM_eq_some_map simple, Option.map_some,
      ← List.flatMap_def, inSmall, List.map_eq_flatMap]
  have ascii : (inSmall name).all Label.isAscii :=
    List.all_eq_true.mpr fun symbol member =>
      Label.isAscii_of_isKept (isKept_of_mem_inSmall kept symbol member)
  rw [Label.normal?, isSimple, Option.map_some, if_pos ascii]

/-- So is its ASCII form, if it has one. -/
theorem ascii?_eq_inSmall
    {ascii : List Char}
    (read : ascii? name = some ascii) :
    ascii = inSmall name := by
  obtain ⟨labels, areLabels, joined⟩ := Option.bind_eq_some_iff.mp read
  rw [labels?, normal?_of_isKept kept, Option.bind_some,
    Elementwise.mapM_eq_some_iff] at areLabels
  -- Labels with the mark may be refused, but none is written in another way.
  have allAscii : ∀ piece ∈ Split.pieces '.' (inSmall name),
      piece.all Label.isAscii := by
    intro piece isPiece
    rw [List.all_eq_true]
    intro symbol member
    exact Label.isAscii_of_isKept (isKept_of_mem_inSmall kept symbol
      (Split.mem_of_mem_pieces isPiece member))
  split at joined
  · rw [← Option.some.inj joined, Label.map_ascii_of_all_ascii allAscii areLabels,
      Split.join_pieces]
  · cases joined

end Domain

namespace Host

/-- A host that is written with characters of labels and does not end in a number
is a name in small letters. -/
theorem ofSpecial_eq_domain
    {text : List Char}
    {host : Host}
    (kept : ∀ symbol ∈ text, Label.isKept symbol)
    (noNumber : NumericHost.endsInNumber (inSmall text) = false)
    (read : ofSpecial text = .ok host) :
    host = domain (String.ofList (inSmall text)) := by
  rw [ofSpecial_of_isKept kept] at read
  unfold ofAscii? at read
  split at read
  · cases read
  · cases read
  · rename_i ascii _ isAscii
    obtain rfl := Domain.ascii?_eq_inSmall kept isAscii
    rw [noNumber, if_neg Bool.false_ne_true] at read
    exact (Except.ok.inj read).symm

end Host

/-! ## A scheme and a host -/

namespace Url

/-- A text that is nothing but a host is read as this host. -/
theorem readAuthority_of_isHostText
    {scheme : String}
    {text : List Char}
    (web : IsWeb scheme)
    (isText : IsHostText text) :
    readAuthority scheme text =
      (Host.ofSpecial text).map fun read =>
        ⟨scheme, "", "", some read, none, "/", none, none⟩ := by
  have noUser : userInfo? .hosted text = none := by
    have alone := @userInfo?_of_isInner text [] isText.inner rfl
    rwa [List.append_nil] at alone
  have cut : hostText .hosted false text = (text, []) := by
    have alone := isText.cut [] rfl
    rwa [List.append_nil] at alone
  have path : String.ofList (hostedPath .hosted []) = "/" := by decide
  unfold readAuthority
  simp only [web.ofScheme, noUser, Option.getD_none, cut,
    hostOfText_of_ne_nil isText.nonempty]
  cases Host.ofSpecial text with
  | error fault => rfl
  | ok read =>
      change Except.ok (assemble scheme ("", "") (some read) none
        (hostedPath .hosted []) ⟨[], none, none⟩) = _
      rw [assemble, path]
      rfl

/-- The same behind a scheme. -/
theorem read_of_isHostText
    {text scheme : String}
    {host : List Char}
    (web : IsWeb scheme)
    (isText : IsHostText host)
    (shape : text.toList = scheme.toList ++ ':' :: '/' :: '/' :: host) :
    Url.read text =
      (Host.ofSpecial host).map fun read =>
        ⟨scheme, "", "", some read, none, "/", none, none⟩ := by
  have visible : ∀ symbol ∈ text.toList, 0x20 < symbol.toNat := by
    simp only [shape, List.forall_mem_append, List.forall_mem_cons]
    exact ⟨web.visible, by decide, by decide, by decide,
      fun symbol member => visible_of_isInner (isText.inner symbol member)⟩
  have slash : SchemeKind.hosted.dividesPath '/' = true := rfl
  have begun := isText.dropWhile_append []
  rw [List.append_nil] at begun
  rw [Url.read, cleaned_of_visible visible, shape, scheme?_append web]
  simp only [web.ofScheme]
  rw [List.dropWhile_cons_of_pos slash, List.dropWhile_cons_of_pos slash, begun,
    readAuthority_of_isHostText web isText]

end Url
end BookLookup
