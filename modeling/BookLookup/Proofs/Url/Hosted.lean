import BookLookup.Proofs.Url.Host
import BookLookup.Url.Reader

/-!
# URLs of the web

The URL of a resource that is served over HTTP has a host and perhaps a port.
Its text, if it is written with these, a path and a query, is divided into what
it was written with.
-/

namespace BookLookup
namespace Url

/-- Whether a scheme is that of a resource served over HTTP. -/
def IsWeb (scheme : String) : Prop :=
  scheme = "http" ∨ scheme = "https"

theorem IsWeb.ofScheme
    {scheme : String}
    (web : IsWeb scheme) :
    SchemeKind.ofScheme scheme = .hosted := by
  rcases web with rfl | rfl <;> rfl

theorem IsWeb.visible
    {scheme : String}
    (web : IsWeb scheme) :
    ∀ symbol ∈ scheme.toList, 0x20 < symbol.toNat := by
  rcases web with rfl | rfl <;> simp

/-- A port that is written: it is in range, and the scheme does not imply it. -/
def IsPort (scheme : String) (port : Option Nat) : Prop :=
  ∀ number ∈ port, number ≤ 65535 ∧ defaultPort? scheme ≠ some number

/-- The text of a port behind a host. -/
def portText : Option Nat -> List Char
  | some port => ':' :: Decimal.digits port
  | none => []

/-- The text of a host with a port. -/
def authorityText (host : Host) (port : Option Nat) : List Char :=
  host.text.toList ++ portText port

/-- The host with its port as a text. -/
theorem authority?_eq_some_iff {url : Url} {text : String} :
    url.authority? = some text ↔
      ∃ host, url.host = some host ∧
        text.toList = authorityText host url.port := by
  rw [authority?, Option.map_eq_some_iff]
  apply exists_congr
  intro host
  rw [and_congr_right_iff]
  intro _
  rw [authorityText, ← String.toList_inj, eq_comm]
  cases url.port with
  | none => simp [portText]
  | some port => simp [portText, Decimal.text]

/-! ## What is read as a host and a port -/

/-- A port that is read is one that is written. -/
theorem isPort_of_port?
    {scheme : String}
    {text rest : List Char}
    {port : Option Nat}
    (read : port? scheme text = .ok (port, rest)) :
    IsPort scheme port := by
  unfold port? at read
  simp only [] at read
  split at read
  · cases read
  · rename_i inRange
    split at read
    · split at read
      · cases read
        simp [IsPort]
      · rename_i stated
        cases read
        rintro number ⟨⟩
        simp only [Bool.or_eq_true, not_or, decide_eq_true_eq] at stated
        exact ⟨Nat.not_lt.mp inRange, stated.2⟩
    · cases read

/-- So is a port that may be left out. -/
theorem isPort_of_optionalPort
    {scheme : String}
    {text rest : List Char}
    {port : Option Nat}
    (read : optionalPort scheme text = .ok (port, rest)) :
    IsPort scheme port := by
  unfold optionalPort at read
  split at read
  · exact isPort_of_port? read
  · cases read
    simp [IsPort]

/-- Under a scheme with hosts, a text that is not empty is read as one. -/
theorem hostOfText_of_ne_nil
    {host : List Char}
    (nonempty : host ≠ [])
    (rest : List Char) :
    hostOfText .hosted host rest = (Host.ofSpecial host).map some := by
  cases host with
  | nil => exact absurd rfl nonempty
  | cons symbol others => rfl

/-- The host of a text under a scheme with hosts. -/
theorem isNormal_of_hostOfText
    {host rest : List Char}
    {found : Option Host}
    (read : hostOfText .hosted host rest = .ok found) :
    ∃ host, found = some host ∧ host.IsNormal := by
  cases host with
  | nil => cases read
  | cons symbol others =>
      rw [hostOfText_of_ne_nil (List.cons_ne_nil symbol others)] at read
      obtain ⟨special, isSpecial, rfl⟩ := map_eq_ok_iff.mp read
      exact ⟨special, rfl, Host.isNormal_of_ofSpecial isSpecial⟩

/-- The host and the port of a URL behind slashes. -/
theorem isNormal_of_readAuthority
    {scheme : String}
    {text : List Char}
    {url : Url}
    (hosted : SchemeKind.ofScheme scheme = .hosted)
    (read : readAuthority scheme text = .ok url) :
    url.scheme = scheme ∧ IsPort scheme url.port ∧
      ∃ host, url.host = some host ∧ host.IsNormal := by
  unfold readAuthority at read
  simp only [hosted] at read
  split at read
  · cases read
  · obtain ⟨host, isHost, afterHost⟩ := exists_of_bind_eq_ok read
    obtain ⟨⟨port, rest⟩, isPort, afterPort⟩ := exists_of_bind_eq_ok afterHost
    split at afterPort
    · cases afterPort
    · rw [← Except.ok.inj afterPort]
      exact ⟨rfl, isPort_of_optionalPort isPort,
        isNormal_of_hostOfText isHost⟩

/-- A URL of another scheme keeps it. -/
theorem scheme_of_readOther
    {scheme : String}
    {text : List Char}
    {url : Url}
    (read : readOther scheme text = .ok url) :
    url.scheme = scheme := by
  unfold readOther at read
  split at read
  · unfold readAuthority at read
    simp only [] at read
    split at read
    · cases read
    · obtain ⟨host, -, afterHost⟩ := exists_of_bind_eq_ok read
      obtain ⟨port, -, afterPort⟩ := exists_of_bind_eq_ok afterHost
      split at afterPort
      · cases afterPort
      · rw [← Except.ok.inj afterPort, assemble]
  · rw [← Except.ok.inj read, assemble]

/-- The URL of a file has the scheme of files. -/
theorem scheme_of_readFile
    {text : List Char}
    {url : Url}
    (read : readFile text = .ok url) :
    url.scheme = "file" := by
  have assembled
      {hosted : Except UrlFault (Option Host × List Char)}
      {kept : Option Host × List Char -> Option Host}
      (ends : (hosted >>= fun found =>
        pure (assemble "file" ("", "") (kept found) none
          (segmentedPath .file (dropDivider .file (Tail.ofText found.2).path))
          (Tail.ofText found.2))) = .ok url) :
      url.scheme = "file" := by
    obtain ⟨found, -, afterFound⟩ := exists_of_bind_eq_ok ends
    rw [← Except.ok.inj afterFound, assemble]
  unfold readFile at read
  simp only [] at read
  split at read
  · split at read
    · exact assembled read
    · exact assembled read
  · exact assembled read

/-- The host and the port of a URL of the web. -/
theorem isNormal_of_read
    {text : String}
    {url : Url}
    (read : Url.read text = .ok url)
    (web : IsWeb url.scheme) :
    IsPort url.scheme url.port ∧
      ∃ host, url.host = some host ∧ host.IsNormal := by
  unfold Url.read at read
  split at read
  · cases read
  · rename_i scheme rest _
    split at read
    · have file := scheme_of_readFile read
      rw [file] at web
      exact absurd web.ofScheme (by decide)
    · rename_i hosted
      obtain ⟨same, port, host⟩ := isNormal_of_readAuthority hosted read
      exact ⟨same ▸ port, host⟩
    · rename_i other
      have same := scheme_of_readOther read
      rw [same] at web
      rw [web.ofScheme] at other
      cases other

/-! ## Reading what is written behind the slashes -/

/-- Whether a character may stand in the text of a host with a port. -/
def isInner (symbol : Char) : Bool :=
  0x20 < symbol.toNat && !(['/', '\\', '?', '#', '@'].contains symbol)

theorem visible_of_isInner
    {symbol : Char}
    (inner : isInner symbol) :
    0x20 < symbol.toNat := by
  rw [isInner, Bool.and_eq_true] at inner
  exact of_decide_eq_true inner.1

theorem endsAuthority_of_isInner
    {symbol : Char}
    (inner : isInner symbol) :
    SchemeKind.hosted.endsAuthority symbol = false := by
  simp only [isInner, List.contains_cons, Bool.and_eq_true] at inner
  simp_all [SchemeKind.endsAuthority, SchemeKind.isSpecial]

/-- A character of a label is such a character. -/
theorem isInner_of_isKept
    {symbol : Char}
    (kept : Label.isKept symbol) :
    isInner symbol := by
  simp only [Label.isKept, Label.isForbidden, Bool.and_eq_true,
    Bool.not_eq_true', Bool.or_eq_false_iff, decide_eq_false_iff_not] at kept
  obtain ⟨-, ⟨visible, -⟩, allowed⟩ := kept
  have divides : ∀ other ∈ ['/', '\\', '?', '#', '@'],
      other ∈ "%#/:<>?@[\\]^|".toList := by
    simp
  rw [List.contains_eq_mem, decide_eq_false_iff_not] at allowed
  simp only [isInner, List.contains_eq_mem, Bool.and_eq_true, Bool.not_eq_true',
    decide_eq_true_eq, decide_eq_false_iff_not]
  exact ⟨Nat.not_le.mp visible, fun member => allowed (divides symbol member)⟩

/-- A port is a colon and digits. -/
theorem mem_portText
    {port : Option Nat}
    {symbol : Char}
    (member : symbol ∈ portText port) :
    symbol = ':' ∨ symbol.isDigit := by
  cases port with
  | none => cases member
  | some number =>
      exact (List.mem_cons.mp member).imp_right Decimal.isDigit_of_mem_digits

/-- A text of such characters before the path has no user. -/
theorem userInfo?_of_isInner
    {authority rest : List Char}
    (inner : ∀ symbol ∈ authority, isInner symbol)
    (ends : rest.head?.all SchemeKind.hosted.endsAuthority) :
    userInfo? .hosted (authority ++ rest) = none := by
  have inside : ∀ symbol ∈ authority,
      (!SchemeKind.hosted.endsAuthority symbol) = true := by
    intro symbol member
    rw [endsAuthority_of_isInner (inner symbol member)]
    rfl
  have noUser : '@' ∉ authority := by
    intro member
    exact absurd (inner '@' member) (by decide)
  have taken : rest.takeWhile (!SchemeKind.hosted.endsAuthority ·) = [] := by
    cases rest with
    | nil => rfl
    | cons symbol others =>
        have endsHere : SchemeKind.hosted.endsAuthority symbol = true := ends
        simp [endsHere]
  rw [userInfo?, List.takeWhile_append_of_pos inside, taken, List.append_nil,
    Split.atFirst?_of_not_mem (by simpa using noUser)]
  rfl

/-- The text of a host goes on over characters that do not end it. -/
theorem hostText_append
    {inBrackets : Bool}
    {word : List Char}
    (inner : ∀ symbol ∈ word, isInner symbol ∧
      (symbol = ':' -> inBrackets = true) ∧ symbol ≠ '[' ∧ symbol ≠ ']')
    (rest : List Char) :
    hostText .hosted inBrackets (word ++ rest) =
      (word ++ (hostText .hosted inBrackets rest).1,
        (hostText .hosted inBrackets rest).2) := by
  induction word with
  | nil => rfl
  | cons symbol others inductionHypothesis =>
      obtain ⟨⟨isInner, colon, noOpening, noClosing⟩, behind⟩ :=
        List.forall_mem_cons.mp inner
      have goesOn : ((symbol == ':' && !inBrackets) ||
          SchemeKind.hosted.endsAuthority symbol) = false := by
        rw [endsAuthority_of_isInner isInner, Bool.or_false]
        by_cases same : symbol = ':'
        · simp [colon same]
        · simp [same]
      rw [List.cons_append, hostText, goesOn]
      simp [noOpening, noClosing, inductionHypothesis behind]

/-- The text of a host ends where its port or the path begins. -/
theorem hostText_of_ends
    {rest : List Char}
    (ends : rest.head?.all fun symbol =>
      symbol == ':' || SchemeKind.hosted.endsAuthority symbol) :
    hostText .hosted false rest = ([], rest) := by
  cases rest with
  | nil => rfl
  | cons symbol others =>
      have endsHere : (symbol == ':' ||
        SchemeKind.hosted.endsAuthority symbol) = true := ends
      rw [hostText, Bool.not_false, Bool.and_true, endsHere, if_pos rfl]

/-- A text that is taken for that of a host. -/
structure IsHostText (text : List Char) : Prop where
  /-- It is not empty. -/
  nonempty : text ≠ []
  /-- Nothing in it divides a URL. -/
  inner : ∀ symbol ∈ text, isInner symbol
  /-- It is found in front of a port or of the path. -/
  cut : ∀ rest, rest.head?.all (fun symbol =>
      symbol == ':' || SchemeKind.hosted.endsAuthority symbol) ->
    hostText .hosted false (text ++ rest) = (text, rest)

/-- So is a text of characters of labels. -/
theorem isHostText_of_isKept
    {text : List Char}
    (nonempty : text ≠ [])
    (kept : ∀ symbol ∈ text, Label.isKept symbol) :
    IsHostText text where
  nonempty
  inner symbol member := isInner_of_isKept (kept symbol member)
  cut := by
    intro rest ends
    have inside : ∀ symbol ∈ text, isInner symbol ∧
        (symbol = ':' -> false = true) ∧ symbol ≠ '[' ∧ symbol ≠ ']' := by
      intro symbol member
      have isKept := kept symbol member
      refine ⟨isInner_of_isKept isKept, ?_, ?_, ?_⟩
      · rintro rfl
        exact absurd isKept (by decide)
      · rintro rfl
        exact absurd isKept (by decide)
      · rintro rfl
        exact absurd isKept (by decide)
    rw [hostText_append inside, hostText_of_ends ends, List.append_nil]

/-- The characters of an IPv6 address divide nothing. -/
theorem isInner_of_mem_render
    {groups : List Nat}
    {symbol : Char}
    (member : symbol ∈ Ipv6.render groups) :
    isInner symbol ∧ symbol ≠ '[' ∧ symbol ≠ ']' := by
  have digits : ∀ digit < 16, isInner (Nat.digitChar digit) ∧
      Nat.digitChar digit ≠ '[' ∧ Nat.digitChar digit ≠ ']' := by
    decide
  rcases Ipv6.mem_render member with rfl | ⟨digit, below, rfl⟩
  · decide
  · exact digits digit below

/-- So is the text of a host. -/
theorem isHostText_of_isNormal
    {host : Host}
    (normal : host.IsNormal) :
    IsHostText host.text.toList := by
  by_cases bracketed : ∃ groups, host = .ipv6 groups
  · obtain ⟨groups, rfl⟩ := bracketed
    rw [Host.toList_text_ipv6]
    refine ⟨List.cons_ne_nil _ _, ?_, ?_⟩
    · rw [List.forall_mem_cons, List.forall_mem_append,
        List.forall_mem_singleton]
      exact ⟨by decide, fun _ member => (isInner_of_mem_render member).1,
        by decide⟩
    · intro rest ends
      have inside : ∀ symbol ∈ Ipv6.render groups, isInner symbol ∧
          (symbol = ':' -> true = true) ∧ symbol ≠ '[' ∧ symbol ≠ ']' := by
        intro symbol member
        obtain ⟨inner, noBracket⟩ := isInner_of_mem_render member
        exact ⟨inner, fun _ => rfl, noBracket⟩
      have opening : SchemeKind.hosted.endsAuthority '[' = false := by decide
      have closing : SchemeKind.hosted.endsAuthority ']' = false := by decide
      rw [List.cons_append, List.append_assoc, hostText, opening]
      simp [hostText_append inside, hostText, closing, hostText_of_ends ends]
  · exact isHostText_of_isKept (Host.text_ne_nil normal)
      (Host.isKept_of_mem_text normal
        (fun groups same => bracketed ⟨groups, same⟩))

/-- With a port behind it, nothing divides a URL either. -/
theorem IsHostText.isInner_of_mem_append
    {text : List Char}
    (isText : IsHostText text)
    (port : Option Nat) :
    ∀ symbol ∈ text ++ portText port, isInner symbol := by
  rw [List.forall_mem_append]
  refine ⟨isText.inner, fun symbol member => ?_⟩
  rcases mem_portText member with rfl | digit
  · decide
  · exact isInner_of_isKept (Label.isKept_of_isDigit digit)

/-- A port is read back. -/
theorem optionalPort_portText
    {scheme : String}
    {port : Option Nat}
    {rest : List Char}
    (written : IsPort scheme port)
    (begins : rest.head? = some '/') :
    optionalPort scheme (portText port ++ rest) = .ok (port, rest) := by
  obtain ⟨others, rfl⟩ := List.head?_eq_some_iff.mp begins
  cases port with
  | none => rfl
  | some number =>
      obtain ⟨inRange, stated⟩ := written number rfl
      have allDigits : ∀ symbol ∈ Decimal.digits number,
          symbol.isDigit = true := fun _ => Decimal.isDigit_of_mem_digits
      have value : (Decimal.digits number).foldl (fun value symbol =>
          10 * value + (symbol.toNat - 0x30)) 0 = number :=
        Nat.ofDigitChars_toDigits (by decide) (by decide)
      have noDigit : ('/' :: others).takeWhile Char.isDigit = [] := by
        rw [List.takeWhile_cons_of_neg (by decide)]
      have afterDigits : ('/' :: others).dropWhile Char.isDigit =
          '/' :: others := by
        rw [List.dropWhile_cons_of_neg (by decide)]
      rw [portText, List.cons_append, optionalPort, port?,
        List.takeWhile_append_of_pos allDigits,
        List.dropWhile_append_of_pos allDigits, noDigit, afterDigits,
        List.append_nil, value]
      simp [inRange, stated, Decimal.digits_ne_nil]

/-- The text of a host with a port in front of a path is divided into what it
was written with. -/
theorem readAuthority_append
    {scheme : String}
    {text : List Char}
    {port : Option Nat}
    {rest : List Char}
    (web : IsWeb scheme)
    (isText : IsHostText text)
    (written : IsPort scheme port)
    (begins : rest.head? = some '/') :
    readAuthority scheme (text ++ portText port ++ rest) =
      (Host.ofSpecial text).map fun read =>
        assemble scheme ("", "") (some read) port
          (hostedPath .hosted (Tail.ofText rest).path) (Tail.ofText rest) := by
  have noUser : userInfo? .hosted (text ++ portText port ++ rest) = none :=
    userInfo?_of_isInner (isText.isInner_of_mem_append port)
      (by simp [begins]; decide)
  have cut : hostText .hosted false (text ++ portText port ++ rest) =
      (text, portText port ++ rest) := by
    rw [List.append_assoc]
    apply isText.cut
    cases port with
    | none =>
        simp [portText, begins]
        decide
    | some number => rfl
  unfold readAuthority
  simp only [web.ofScheme, noUser, Option.getD_none, cut,
    hostOfText_of_ne_nil isText.nonempty, optionalPort_portText written begins]
  cases Host.ofSpecial text with
  | error fault => rfl
  | ok read => rfl

/-! ## Reading what is written with a scheme -/

/-- What stands at the end of a text is cleaned for itself, if the characters
before it are visible. -/
theorem cleaned_append
    {front : List Char}
    (visible : ∀ symbol ∈ front, 0x20 < symbol.toNat)
    (nonempty : front ≠ [])
    (rest : List Char) :
    cleaned (front ++ rest) =
      front ++ ((rest.reverse.dropWhile isOuterSpace).reverse).filter
        (!isDropped ·) := by
  have outer : ∀ symbol ∈ front, isOuterSpace symbol = false := by
    intro symbol member
    exact decide_eq_false (Nat.not_le.mpr (visible symbol member))
  have kept : front.filter (!isDropped ·) = front := by
    rw [List.filter_eq_self]
    intro symbol member
    have isVisible := visible symbol member
    simp only [isDropped, Bool.not_eq_true', Bool.or_eq_false_iff,
      beq_eq_false_iff_ne]
    refine ⟨⟨?_, ?_⟩, ?_⟩ <;> rintro rfl <;> exact absurd isVisible (by decide)
  have begun : (front ++ rest).dropWhile isOuterSpace = front ++ rest := by
    obtain ⟨first, others, rfl⟩ := List.exists_cons_of_ne_nil nonempty
    rw [List.cons_append, List.dropWhile_cons_of_neg
      (by simp [outer first List.mem_cons_self])]
  have ended : front.reverse.dropWhile isOuterSpace = front.reverse := by
    obtain ⟨first, others, shape⟩ := List.exists_cons_of_ne_nil
      (List.reverse_ne_nil_iff.mpr nonempty)
    rw [shape, List.dropWhile_cons_of_neg]
    have member : first ∈ front := by
      rw [← List.mem_reverse, shape]
      exact List.mem_cons_self
    simp [outer first member]
  have trimmedEnd : (front ++ rest).reverse.dropWhile isOuterSpace =
      rest.reverse.dropWhile isOuterSpace ++ front.reverse := by
    rw [List.reverse_append, List.dropWhile_append]
    split
    · rename_i empty
      rw [ended, List.isEmpty_iff.mp empty, List.nil_append]
    · rfl
  rw [cleaned, begun, trimmedEnd, List.reverse_append, List.reverse_reverse,
    List.filter_append, kept]

/-- A text of visible characters is not changed. -/
theorem cleaned_of_visible
    {text : List Char}
    (visible : ∀ symbol ∈ text, 0x20 < symbol.toNat) :
    cleaned text = text := by
  by_cases empty : text = []
  · rw [empty]
    rfl
  · simpa using cleaned_append visible empty []

/-- The scheme is found in front of the colon. -/
theorem scheme?_append
    {scheme : String}
    (web : IsWeb scheme)
    (rest : List Char) :
    scheme? (scheme.toList ++ ':' :: rest) = some (scheme, rest) := by
  have plain : ':' ∉ scheme.toList := by
    rcases web with rfl | rfl <;> decide
  rw [scheme?, Split.atFirst?_append rest plain]
  rcases web with rfl | rfl <;> rfl

/-- Whatever follows the scheme and the colon, a URL that is read has the scheme,
and a host and a port. -/
theorem isNormal_of_read_append
    {text scheme : String}
    {rest : List Char}
    {url : Url}
    (web : IsWeb scheme)
    (shape : text.toList = scheme.toList ++ ':' :: rest)
    (read : Url.read text = .ok url) :
    url.scheme = scheme ∧ IsPort scheme url.port ∧
      ∃ host, url.host = some host ∧ host.IsNormal := by
  have visible : ∀ symbol ∈ scheme.toList ++ [':'], 0x20 < symbol.toNat := by
    rcases web with rfl | rfl <;> simp
  have cut : text.toList = (scheme.toList ++ [':']) ++ rest := by
    simp [shape]
  rw [Url.read, cut, cleaned_append visible (by simp), List.append_assoc,
    List.singleton_append, scheme?_append web] at read
  simp only [web.ofScheme] at read
  exact isNormal_of_readAuthority web.ofScheme read

/-- A text with a scheme, a host, a port, a path and a query. -/
def writtenText
    (scheme : String)
    (authority path query : List Char) : List Char :=
  scheme.toList ++ ':' :: '/' :: '/' ::
    (authority ++ (path ++ '?' :: query))

/-- The characters of such a text are visible if those of its parts are. -/
theorem visible_writtenText
    {scheme : String}
    {authority path query : List Char}
    (web : IsWeb scheme)
    (inAuthority : ∀ symbol ∈ authority, isInner symbol)
    (inPath : ∀ symbol ∈ path, 0x20 < symbol.toNat)
    (inQuery : ∀ symbol ∈ query, 0x20 < symbol.toNat) :
    ∀ symbol ∈ writtenText scheme authority path query,
      0x20 < symbol.toNat := by
  simp only [writtenText, List.forall_mem_append, List.forall_mem_cons]
  exact ⟨web.visible, by decide, by decide, by decide,
    fun symbol member => visible_of_isInner (inAuthority symbol member), inPath,
    by decide, inQuery⟩

/-- The text of a host does not begin with a slash. -/
theorem IsHostText.dropWhile_append
    {text : List Char}
    (isText : IsHostText text)
    (rest : List Char) :
    (text ++ rest).dropWhile SchemeKind.hosted.dividesPath = text ++ rest := by
  obtain ⟨first, others, rfl⟩ := List.exists_cons_of_ne_nil isText.nonempty
  have inner : isInner first := isText.inner first List.mem_cons_self
  have goesOn : SchemeKind.hosted.dividesPath first = false := by
    have ends := endsAuthority_of_isInner inner
    simp only [SchemeKind.endsAuthority, SchemeKind.isSpecial,
      Bool.or_eq_false_iff] at ends
    simp [SchemeKind.dividesPath, SchemeKind.isSpecial, ends.1.1.1,
      ends.2]
  rw [List.cons_append, List.dropWhile_cons_of_neg (by simp [goesOn])]

/-- The path and the query of a text without a fragment. -/
theorem tail_ofText
    {path query : List Char}
    (inPath : ∀ symbol ∈ path, symbol ≠ '?' ∧ symbol ≠ '#')
    (inQuery : '#' ∉ query) :
    Tail.ofText (path ++ '?' :: query) = ⟨path, some query, none⟩ := by
  have noFragment : '#' ∉ path ++ '?' :: query := by
    intro member
    rcases List.mem_append.mp member with isPath | isQuery
    · exact (inPath '#' isPath).2 rfl
    · rcases List.mem_cons.mp isQuery with same | isQuery
      · cases same
      · exact inQuery isQuery
  have noQuestion : '?' ∉ path := fun member => (inPath '?' member).1 rfl
  simp only [Tail.ofText, Split.atFirst?_of_not_mem noFragment,
    Split.atFirst?_append query noQuestion]

/-- A text that is written with a scheme and the text of a host, a path and a
query, is divided into these. -/
theorem read_writtenText
    {text scheme : String}
    {host : List Char}
    {port : Option Nat}
    {path query : List Char}
    (web : IsWeb scheme)
    (isText : IsHostText host)
    (written : IsPort scheme port)
    (begins : path.head? = some '/')
    (inPath : ∀ symbol ∈ path,
      0x20 < symbol.toNat ∧ symbol ≠ '?' ∧ symbol ≠ '#')
    (inQuery : ∀ symbol ∈ query, 0x20 < symbol.toNat ∧ symbol ≠ '#')
    (shape : text.toList =
      writtenText scheme (host ++ portText port) path query) :
    Url.read text =
      (Host.ofSpecial host).map fun read => {
        scheme
        username := ""
        password := ""
        host := some read
        port
        path := String.ofList (hostedPath .hosted path)
        query := some (String.ofList
          (PercentEncoding.encodeWhere (keptInQuery .hosted) query))
        fragment := none } := by
  have visible : ∀ symbol ∈ text.toList, 0x20 < symbol.toNat := by
    rw [shape]
    exact visible_writtenText web (isText.isInner_of_mem_append port)
      (fun symbol member => (inPath symbol member).1)
      (fun symbol member => (inQuery symbol member).1)
  have firstSlash : (path ++ '?' :: query).head? = some '/' := by
    rw [List.head?_append, begins]
    rfl
  have isDivider : SchemeKind.hosted.dividesPath '/' = true := rfl
  rw [Url.read, cleaned_of_visible visible, shape, writtenText,
    scheme?_append web]
  simp only [web.ofScheme]
  rw [List.dropWhile_cons_of_pos isDivider,
    List.dropWhile_cons_of_pos isDivider, List.append_assoc,
    isText.dropWhile_append, ← List.append_assoc,
    readAuthority_append web isText written firstSlash,
    tail_ofText (fun symbol member => (inPath symbol member).2)
      (fun member => (inQuery '#' member).2 rfl)]
  simp only [assemble, web.ofScheme]
  rfl

end Url
end BookLookup
