import BookLookup.Proofs.Link.Written
import BookLookup.Proofs.Url.Reread

/-!
# The host that a link leads to

A link whose bucket is named in the host is read with the host that was signed
only if the endpoint has a domain name, and if the bucket, put in front of it,
gives a name that is its own ASCII form. In front of an address the bucket gives
no host at all, or another one.
-/

namespace BookLookup

namespace Url

/-! ## Hosts in front of ports -/

/-- Nothing but a colon and digits is in a port. -/
theorem not_mem_portText
    {symbol : Char}
    (noColon : symbol ≠ ':')
    (noDigit : symbol.isDigit = false)
    (port : Option Nat) :
    symbol ∉ portText port := by
  intro member
  rcases mem_portText member with isColon | digit
  · exact noColon isColon
  · rw [noDigit] at digit
    cases digit

/-- A text without a colon goes on up to the first colon behind it. -/
theorem takeWhile_append_of_not_mem
    {text : List Char}
    (plain : ':' ∉ text)
    (rest : List Char) :
    (text ++ rest).takeWhile (· != ':') = text ++ rest.takeWhile (· != ':') := by
  apply List.takeWhile_append_of_pos
  intro symbol member
  rw [bne_iff_ne]
  rintro rfl
  exact plain member

/-- In front of a port stands what has no colon. -/
theorem takeWhile_append_portText
    {text : List Char}
    (plain : ':' ∉ text)
    (port : Option Nat) :
    (text ++ portText port).takeWhile (· != ':') = text := by
  rw [takeWhile_append_of_not_mem plain]
  cases port with
  | none => simp [portText]
  | some number => simp [portText]

/-- What has no colon in front of two ports is the same. -/
theorem eq_of_append_portText_eq
    {first second : List Char}
    {firstPort secondPort : Option Nat}
    (firstPlain : ':' ∉ first)
    (secondPlain : ':' ∉ second)
    (same : first ++ portText firstPort = second ++ portText secondPort) :
    first = second := by
  rw [← takeWhile_append_portText firstPlain firstPort, same,
    takeWhile_append_portText secondPlain]

/-- No point is behind a colon that begins a port. -/
theorem colon_not_mem_of_append_portText_eq
    {front back text : List Char}
    {port : Option Nat}
    (plain : ':' ∉ text)
    (same : front ++ '.' :: back = text ++ portText port) :
    ':' ∉ front := by
  intro colon
  obtain ⟨before, after, rfl, noColon⟩ := List.eq_append_cons_of_mem colon
  have begins : before = text := by
    rw [← takeWhile_append_portText plain port, ← same, List.append_assoc,
      takeWhile_append_of_not_mem noColon]
    simp
  rw [begins, List.append_assoc, List.append_cancel_left_eq] at same
  have point : '.' ∈ portText port := by
    rw [← same]
    simp
  exact not_mem_portText (by decide) (by decide) port point

end Url

namespace Host

theorem colon_not_mem_text
    {host : Host}
    (normal : host.IsNormal)
    (plain : ∀ groups, host ≠ ipv6 groups) :
    ':' ∉ host.text.toList := by
  intro member
  exact absurd (isKept_of_mem_text normal plain ':' member) (by decide)

/-- An IPv6 address has no point. -/
theorem point_not_mem_text_ipv6 (groups : List Nat) :
    '.' ∉ (ipv6 groups).text.toList := by
  have digits : ∀ digit < 16, '.' ≠ Nat.digitChar digit := by decide
  rw [toList_text_ipv6, List.mem_cons, List.mem_append, List.mem_singleton]
  rintro (same | inGroups | same)
  · cases same
  · rcases Ipv6.mem_render inGroups with same | ⟨digit, below, same⟩
    · cases same
    · exact digits digit below same
  · cases same

/-- Whether a bucket, put in front of a host, gives a host that is its own ASCII
form. -/
def TakesBucket (bucket : String) : Host -> Prop
  | domain name =>
      Domain.ascii? (bucket.toList ++ '.' :: name.toList) =
        some (bucket.toList ++ '.' :: name.toList)
  | ipv4 _ => False
  | ipv6 _ => False

/-- If a bucket in front of a host with a port gives a host with a port, then
both are written without brackets. -/
theorem bucket_of_authorityText_eq
    {host found : Host}
    {port foundPort : Option Nat}
    {bucket : List Char}
    (normal : host.IsNormal)
    (foundNormal : found.IsNormal)
    (same : bucket ++ '.' :: Url.authorityText host port =
      Url.authorityText found foundPort) :
    (∀ groups, host ≠ ipv6 groups) ∧ (∀ groups, found ≠ ipv6 groups) ∧
      bucket ++ '.' :: host.text.toList = found.text.toList := by
  have foundPlain : ∀ groups, found ≠ ipv6 groups := by
    rintro groups rfl
    have point : '.' ∈ Url.authorityText (ipv6 groups) foundPort := by
      rw [← same]
      simp
    rcases List.mem_append.mp point with inText | inPort
    · exact point_not_mem_text_ipv6 groups inText
    · exact Url.not_mem_portText (by decide) (by decide) foundPort inPort
  have plain : ∀ groups, host ≠ ipv6 groups := by
    rintro groups rfl
    have bracket : '[' ∈ Url.authorityText found foundPort := by
      rw [← same, Url.authorityText, toList_text_ipv6]
      simp
    rcases List.mem_append.mp bracket with inText | inPort
    · exact absurd (isKept_of_mem_text foundNormal foundPlain '[' inText)
        (by decide)
    · exact Url.not_mem_portText (by decide) (by decide) foundPort inPort
  have foundNoColon := colon_not_mem_text foundNormal foundPlain
  have noColon : ':' ∉ bucket ++ '.' :: host.text.toList := by
    rw [List.mem_append, List.mem_cons, not_or, not_or]
    exact ⟨Url.colon_not_mem_of_append_portText_eq foundNoColon same,
      by decide, colon_not_mem_text normal plain⟩
  refine ⟨plain, foundPlain, ?_⟩
  apply Url.eq_of_append_portText_eq noColon foundNoColon
  rw [List.append_assoc, List.cons_append]
  exact same

/-- What a bucket in front of a host gives is a domain name, and so is the
host. -/
theorem domain_of_bucket
    {host found : Host}
    {bucket : List Char}
    (normal : host.IsNormal)
    (foundNormal : found.IsNormal)
    (plain : ∀ groups, host ≠ ipv6 groups)
    (foundPlain : ∀ groups, found ≠ ipv6 groups)
    (same : bucket ++ '.' :: host.text.toList = found.text.toList) :
    ∃ name whole, host = domain name ∧ found = domain whole ∧
      whole.toList = bucket ++ '.' :: name.toList := by
  -- Whether there is an address is decided behind the bucket, for both hosts
  -- alike; an address with a bucket in front would have five parts.
  have ends := NumericHost.endsInNumber_append bucket (text_ne_nil normal)
  rw [same] at ends
  have addressEnds (address : Nat) :
      NumericHost.endsInNumber (ipv4 address).text.toList = true := by
    rw [text, String.toList_ofList]
    exact NumericHost.endsInNumber_render address
  cases host with
  | ipv6 groups => exact absurd rfl (plain groups)
  | ipv4 address =>
      rw [addressEnds] at ends
      cases found with
      | ipv6 groups => exact absurd rfl (foundPlain groups)
      | domain whole =>
          have noNumber := foundNormal.2.1
          rw [show whole.toList = (domain whole).text.toList from rfl, ends]
            at noNumber
          cases noNumber
      | ipv4 other =>
          have points (address : Nat) :
              (Split.pieces '.' (ipv4 address).text.toList).length = 4 := by
            rw [text, String.toList_ofList, Ipv4.pieces_render,
              List.length_map]
            rfl
          have more := points other
          have some := List.length_pos_iff.mpr
            (Split.pieces_ne_nil '.' bucket)
          rw [← same, Split.pieces_append_cons, List.length_append, points]
            at more
          omega
  | domain name =>
      have noNumber : NumericHost.endsInNumber (domain name).text.toList =
          false := normal.2.1
      rw [noNumber] at ends
      cases found with
      | ipv6 groups => exact absurd rfl (foundPlain groups)
      | ipv4 other =>
          rw [addressEnds] at ends
          cases ends
      | domain whole => exact ⟨name, whole, rfl, rfl, same.symm⟩

/-- A plain domain name takes a plain bucket, if none of the labels has the
mark. -/
theorem takesBucket_of_isPlain
    {bucket name : String}
    (plain : (bucket.toList ++ '.' :: name.toList).all Domain.IsPlain)
    (unmarked : ∀ piece ∈
      Split.pieces '.' bucket.toList ++ Split.pieces '.' name.toList,
      Label.asciiMark.isPrefixOf piece = false) :
    (domain name).TakesBucket bucket := by
  rw [← Split.pieces_append_cons] at unmarked
  apply Domain.ascii?_of_isPlain _ unmarked
  intro symbol member
  exact of_decide_eq_true (List.all_eq_true.mp plain symbol member)

/-- Only a domain name takes a bucket. -/
theorem domain_of_takesBucket
    {bucket : String}
    {host : Host}
    (takes : host.TakesBucket bucket) :
    ∃ name, host = domain name ∧
      Domain.ascii? (bucket.toList ++ '.' :: name.toList) =
        some (bucket.toList ++ '.' :: name.toList) := by
  cases host with
  | domain name => exact ⟨name, rfl, takes⟩
  | ipv4 address => exact takes.elim
  | ipv6 groups => exact takes.elim

/-- A domain name with a bucket in front of it is a domain name, if it is its own
ASCII form. -/
theorem isNormal_of_takesBucket
    {bucket : List Char}
    {name : String}
    (normal : (domain name).IsNormal)
    (isAscii : Domain.ascii? (bucket ++ '.' :: name.toList) =
      some (bucket ++ '.' :: name.toList)) :
    (domain (String.ofList (bucket ++ '.' :: name.toList))).IsNormal := by
  refine ⟨?_, ?_, bucket ++ '.' :: name.toList, ?_⟩
  · rw [Ne, String.ofList_eq_empty_iff]
    simp
  · rw [String.toList_ofList]
    exact (NumericHost.endsInNumber_append bucket (text_ne_nil normal)).trans
      normal.2.1
  · rw [String.toList_ofList]
    exact isAscii

end Host

namespace LinkMaker

theorem toList_host
    {maker : LinkMaker}
    (inHost : maker.pathStyle = false) :
    maker.host.toList =
      maker.bucket.toList ++ '.' :: maker.endpointHost.toList := by
  simp [host, inHost]

section Made

variable {settings : AssetSettings} {maker : LinkMaker} {host : Host}
variable {port : Option Nat} {time : Instant} {validity : Duration}
variable {key link : String}

theorem Made.toList_host
    (made : Made settings maker host port)
    (inHost : maker.pathStyle = false) :
    maker.host.toList =
      settings.bucket.toList ++ '.' :: Url.authorityText host port := by
  rw [LinkMaker.toList_host inHost, made.endpointHost, made.bucket]

/-- If a link is read with the host that was signed, the host of the endpoint
takes the bucket. -/
theorem Made.takesBucket_of_read
    {url : Url}
    (made : Made settings maker host port)
    (inHost : maker.pathStyle = false)
    (text : link.toList = Url.writtenText maker.scheme maker.host.toList
      (maker.path key).toList (maker.query time validity key).toList)
    (isUrl : Url.read link = .ok url)
    (authority : url.authority? = some maker.host) :
    host.TakesBucket settings.bucket := by
  obtain ⟨scheme, stated, found, isFound, foundNormal⟩ :=
    Url.isNormal_of_read_append made.web text isUrl
  obtain ⟨other, isOther, named⟩ := Url.authority?_eq_some_iff.mp authority
  cases isOther.symm.trans isFound
  obtain ⟨plain, foundPlain, same⟩ := Host.bucket_of_authorityText_eq
    made.normal foundNormal ((made.toList_host inHost).symm.trans named)
  obtain ⟨name, whole, rfl, rfl, isWhole⟩ := Host.domain_of_bucket
    made.normal foundNormal plain foundPlain same
  rw [read_link made.web (Url.isHostText_of_isNormal foundNormal) stated named
    text, map_eq_ok_iff] at isUrl
  obtain ⟨special, isSpecial, isRead⟩ := isUrl
  have sameFound : some special = some (.domain whole) :=
    (congrArg Url.host isRead).trans isFound
  rw [Option.some.inj sameFound] at isSpecial
  rw [Host.TakesBucket, ← isWhole]
  exact (Host.ofSpecial_text_domain_iff foundNormal).mp isSpecial

/-- If the host of the endpoint takes the bucket, a link is read with the host
that was signed. -/
theorem Made.exists_read
    (made : Made settings maker host port)
    (inHost : maker.pathStyle = false)
    (text : link.toList = Url.writtenText maker.scheme maker.host.toList
      (maker.path key).toList (maker.query time validity key).toList)
    (takes : host.TakesBucket settings.bucket) :
    ∃ url, Url.read link = .ok url ∧ url.authority? = some maker.host := by
  obtain ⟨name, rfl, isAscii⟩ := Host.domain_of_takesBucket takes
  let whole := settings.bucket.toList ++ '.' :: name.toList
  have normal : (Host.domain (String.ofList whole)).IsNormal :=
    Host.isNormal_of_takesBucket made.normal isAscii
  have named : maker.host.toList =
      Url.authorityText (.domain (String.ofList whole)) port := by
    rw [made.toList_host inHost, Url.authorityText, Url.authorityText,
      Host.text, Host.text, String.toList_ofList, List.append_assoc,
      List.cons_append]
  have special : Host.ofSpecial
      (Host.domain (String.ofList whole)).text.toList =
        .ok (.domain (String.ofList whole)) := by
    rw [Host.ofSpecial_text_domain_iff normal, String.toList_ofList]
    exact isAscii
  have again := read_link made.web (Url.isHostText_of_isNormal normal)
    made.stated named text
  rw [special] at again
  exact ⟨_, again, Url.authority?_eq_some_iff.mpr ⟨_, rfl, named⟩⟩

end Made

/-- Whatever settings are accepted whose bucket is named in the host: a link is
made for every key that is not empty, and it is read with the host and the port
that were signed exactly if the endpoint has a domain name that, with the bucket
in front of it, is its own ASCII form. -/
theorem host_is_read_as_signed
    {settings : AssetSettings}
    {maker : LinkMaker}
    {key : String}
    (accepted : ofSettings settings = .ok maker)
    (inHost : settings.pathStyle = false)
    (nonempty : key ≠ "")
    (time : Instant)
    (validity : Duration) :
    ∃ endpoint host link,
      Url.read settings.endpoint = .ok endpoint ∧
      endpoint.host = some host ∧
      maker.link time validity key = .ok link ∧
      ((∃ url, Url.read link = .ok url ∧
        url.authority? = some maker.host) ↔
          host.TakesBucket settings.bucket) := by
  obtain ⟨endpoint, host, read, isHost, made⟩ := exists_made accepted
  obtain ⟨link, isLink, text⟩ := exists_link maker time validity nonempty
  have pathStyle : maker.pathStyle = false := made.pathStyle.trans inHost
  refine ⟨endpoint, host, link, read, isHost, isLink, ?_, ?_⟩
  · rintro ⟨url, isUrl, authority⟩
    exact made.takesBucket_of_read pathStyle text isUrl authority
  · exact made.exists_read pathStyle text

/-- Settings of a service with a domain name. -/
def namedSettings : AssetSettings where
  bucket := "examplebucket"
  region := "us-west-1"
  endpoint := "https://s3.us-west-1.amazonaws.com"
  pathStyle := false
  credentials := ⟨"AKIDTEST", "secret", none⟩

/-- The maker of links to images that are kept there. -/
def namedMaker : LinkMaker where
  bucket := "examplebucket"
  region := "us-west-1"
  scheme := "https"
  endpointHost := "s3.us-west-1.amazonaws.com"
  pathStyle := false
  credentials := ⟨"AKIDTEST", "secret", none⟩

theorem read_namedSettings :
    Url.read namedSettings.endpoint =
      .ok ⟨"https", "", "", some (.domain "s3.us-west-1.amazonaws.com"), none,
        "/", none, none⟩ := by
  decide +kernel

theorem ofSettings_namedSettings :
    ofSettings namedSettings = .ok namedMaker := by
  rw [ofSettings, readEndpoint, read_namedSettings]
  rfl

/-- A link to an image of that service is read with the host that was signed. -/
theorem host_of_cover_is_read_as_signed :
    ∃ link url,
      ofSettings namedSettings = .ok namedMaker ∧
      namedMaker.link ⟨0, 0⟩ validity "covers/dune.jpg" = .ok link ∧
      Url.read link = .ok url ∧
      url.authority? = some "examplebucket.s3.us-west-1.amazonaws.com" := by
  obtain ⟨endpoint, host, link, read, isHost, isLink, found⟩ :=
    host_is_read_as_signed ofSettings_namedSettings rfl
      (by decide : "covers/dune.jpg" ≠ "") ⟨0, 0⟩ validity
  cases read_namedSettings.symm.trans read
  cases isHost
  have takes : (Host.domain "s3.us-west-1.amazonaws.com").TakesBucket
      namedSettings.bucket :=
    Host.takesBucket_of_isPlain (by decide) (by decide)
  obtain ⟨url, isUrl, authority⟩ := found.mpr takes
  have host : namedMaker.host = "examplebucket.s3.us-west-1.amazonaws.com" := by
    decide
  exact ⟨link, url, ofSettings_namedSettings, isLink, isUrl, host ▸ authority⟩

/-- A bucket in front of an IPv4 address is signed as the host of a link that
is no URL. -/
theorem link_in_front_of_address_is_not_read :
    ofSettings (localSettings false) = .ok (localMaker false) ∧
      (localMaker false).host = "examplebucket.127.0.0.1:9000" ∧
      ∃ link,
        (localMaker false).link ⟨0, 0⟩ validity "cover.png" = .ok link ∧
        Url.read link = .error .invalidIpv4 := by
  have kept : "examplebucket.127.0.0.1".toList.all Label.isKept := by
    decide
  have isText : Url.IsHostText "examplebucket.127.0.0.1".toList :=
    Url.isHostText_of_isKept (by decide) (List.all_eq_true.mp kept)
  have noHost : Host.ofSpecial "examplebucket.127.0.0.1".toList =
      .error .invalidIpv4 := by
    decide +kernel
  have stated : Url.IsPort "http" (some 9000) := by
    rintro number ⟨⟩
    decide
  obtain ⟨link, isLink, text⟩ := exists_link (localMaker false) ⟨0, 0⟩ validity
    (by decide : "cover.png" ≠ "")
  have read := read_link (.inl rfl) isText stated (by decide) text
  rw [noHost] at read
  exact ⟨ofSettings_localSettings false, by decide, link, isLink, read⟩

end LinkMaker
end BookLookup
