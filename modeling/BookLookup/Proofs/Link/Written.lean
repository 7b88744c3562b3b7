import BookLookup.AssetLink
import BookLookup.Proofs.Signature.LinkVerification
import BookLookup.Proofs.Url.Hosted

/-!
# Links as texts

A link is written with the scheme, the host and the port of an endpoint that
was read, with an encoded path and an encoded query. A reader finds these parts
again; only of the host and of the path more has to be said.
-/

namespace BookLookup
namespace LinkMaker

/-- What makes links for some settings, whose endpoint has a host and perhaps a
port. -/
structure Made
    (settings : AssetSettings)
    (maker : LinkMaker)
    (host : Host)
    (port : Option Nat) : Prop where
  /-- Links are followed over HTTP. -/
  web : Url.IsWeb maker.scheme
  /-- The host of the endpoint is in normal form. -/
  normal : host.IsNormal
  /-- The scheme does not imply the port. -/
  stated : Url.IsPort maker.scheme port
  /-- The endpoint is named by its host and its port. -/
  endpointHost : maker.endpointHost.toList = Url.authorityText host port
  /-- The bucket is that of the settings. -/
  bucket : maker.bucket = settings.bucket
  /-- It is named where the settings ask for it. -/
  pathStyle : maker.pathStyle = settings.pathStyle

/-- The scheme and the host of a URL are taken if it is one of the web and ends
at its host. -/
theorem endpointParts_eq_ok_iff
    {url : Url}
    {scheme authority : String} :
    endpointParts url = .ok (scheme, authority) ↔
      Url.IsWeb url.scheme ∧ (url.path = "/" ∧ url.query = none) ∧
        url.authority? = some authority ∧ url.scheme = scheme := by
  unfold endpointParts
  constructor
  · intro taken
    split at taken
    · cases taken
    · rename_i web
      split at taken
      · cases taken
      · rename_i short
        split at taken
        · cases taken
        · rename_i named
          cases taken
          rw [Option.isSome_iff_ne_none] at short
          exact ⟨by_contra fun others => web (not_or.mp others),
            not_not.mp fun long => short (not_and_or.mp long), named, rfl⟩
  · rintro ⟨web, ⟨noPath, noQuery⟩, named, rfl⟩
    rw [if_neg fun others => web.elim others.1 others.2,
      if_neg (by simp [noPath, noQuery]), named]

/-- Settings are accepted only if these can be taken of their endpoint. -/
theorem endpoint_of_ofSettings
    {settings : AssetSettings}
    {maker : LinkMaker}
    (accepted : ofSettings settings = .ok maker) :
    ∃ endpoint, Url.read settings.endpoint = .ok endpoint ∧
      endpointParts endpoint = .ok (maker.scheme, maker.endpointHost) ∧
      maker.bucket = settings.bucket ∧
      maker.pathStyle = settings.pathStyle := by
  unfold ofSettings at accepted
  split at accepted
  · cases accepted
  · rename_i scheme endpointHost parts
    cases accepted
    unfold readEndpoint at parts
    split at parts
    · cases parts
    · rename_i endpoint read
      exact ⟨endpoint, read, parts, rfl, rfl⟩

/-- So their endpoint is read as a URL of the web. -/
theorem exists_made
    {settings : AssetSettings}
    {maker : LinkMaker}
    (accepted : ofSettings settings = .ok maker) :
    ∃ endpoint host, Url.read settings.endpoint = .ok endpoint ∧
      endpoint.host = some host ∧ Made settings maker host endpoint.port := by
  obtain ⟨endpoint, read, parts, bucket, pathStyle⟩ :=
    endpoint_of_ofSettings accepted
  obtain ⟨web, -, named, scheme⟩ := endpointParts_eq_ok_iff.mp parts
  obtain ⟨stated, host, isHost, normal⟩ := Url.isNormal_of_read read web
  obtain ⟨same, isSame, endpointHost⟩ := Url.authority?_eq_some_iff.mp named
  cases isSame.symm.trans isHost
  rw [scheme] at web stated
  exact ⟨endpoint, host, read, isHost,
    { web, normal, stated, endpointHost, bucket, pathStyle }⟩

/-- The query of the link to an image. -/
def query
    (maker : LinkMaker)
    (time : Instant)
    (validity : Duration)
    (key : String) : String :=
  Signature.linkQuery maker.credentials (maker.scope time) maker.host
    (maker.path key) validity

/-- A link is made to every image that has a key. -/
theorem exists_link
    (maker : LinkMaker)
    (time : Instant)
    (validity : Duration)
    {key : String}
    (nonempty : key ≠ "") :
    ∃ link, maker.link time validity key = .ok link ∧
      link.toList = Url.writtenText maker.scheme maker.host.toList
        (maker.path key).toList (maker.query time validity key).toList := by
  refine ⟨_, if_neg nonempty, ?_⟩
  simp [Url.writtenText, query]

/-! ## The characters of a link -/

/-- The path of a link is made of characters of encoded texts. -/
theorem isWritten_of_mem_path
    {maker : LinkMaker}
    {key : String}
    {symbol : Char}
    (member : symbol ∈ (maker.path key).toList) :
    PercentEncoding.isWritten .kept symbol := by
  have slash : PercentEncoding.isWritten .kept '/' := by decide
  have inBucket (inside : symbol ∈
      (PercentEncoding.encode .encoded maker.bucket).toList) :
      PercentEncoding.isWritten .kept symbol := by
    have written := PercentEncoding.isWritten_of_mem_encode inside
    refine PercentEncoding.of_isWritten written ?_
    decide
  simp only [path] at member
  split at member
  · simp only [String.toList_append, List.mem_append] at member
    rcases member with (isSlash | inside) | isSlash | inKey
    · exact List.mem_singleton.mp isSlash ▸ slash
    · exact inBucket inside
    · exact List.mem_singleton.mp isSlash ▸ slash
    · exact PercentEncoding.isWritten_of_mem_encode inKey
  · simp only [String.toList_append, List.mem_append] at member
    rcases member with isSlash | inKey
    · exact List.mem_singleton.mp isSlash ▸ slash
    · exact PercentEncoding.isWritten_of_mem_encode inKey

/-- The path of a link is not changed by a reader, character by character. -/
theorem plain_of_mem_path
    {maker : LinkMaker}
    {key : String} :
    ∀ symbol ∈ (maker.path key).toList,
      0x20 < symbol.toNat ∧ symbol ≠ '?' ∧ symbol ≠ '#' ∧ symbol ≠ '\\' ∧
        symbol.toNat < 0x80 ∧
        Url.keptInPath (UInt8.ofNat symbol.toNat) := by
  intro symbol member
  refine PercentEncoding.of_isWritten (isWritten_of_mem_path member) ?_
  decide

/-- Neither is its query. -/
theorem plain_of_mem_query
    {maker : LinkMaker}
    {time : Instant}
    {validity : Duration}
    {key : String} :
    ∀ symbol ∈ (maker.query time validity key).toList,
      0x20 < symbol.toNat ∧ symbol ≠ '#' ∧ symbol.toNat < 0x80 ∧
        Url.keptInQuery .hosted (UInt8.ofNat symbol.toNat) := by
  intro symbol member
  rw [query, Signature.linkQuery_eq_written] at member
  rcases CanonicalQuery.mem_written member with rfl | rfl | written
  · decide
  · decide
  · refine PercentEncoding.of_isWritten written ?_
    decide

/-! ## Reading a link -/

/-- A link is divided into what it was written with, if its host is read. -/
theorem read_link
    {maker : LinkMaker}
    {host : List Char}
    {port : Option Nat}
    {time : Instant}
    {validity : Duration}
    {key link : String}
    (web : Url.IsWeb maker.scheme)
    (isText : Url.IsHostText host)
    (written : Url.IsPort maker.scheme port)
    (named : maker.host.toList = host ++ Url.portText port)
    (text : link.toList = Url.writtenText maker.scheme maker.host.toList
      (maker.path key).toList (maker.query time validity key).toList) :
    Url.read link =
      (Host.ofSpecial host).map fun read => {
        scheme := maker.scheme
        username := ""
        password := ""
        host := some read
        port
        path := String.ofList
          (Url.hostedPath .hosted (maker.path key).toList)
        query := some (maker.query time validity key)
        fragment := none } := by
  have begins : (maker.path key).toList.head? = some '/' := by
    simp only [path]
    split <;> simp
  have queryKept : PercentEncoding.encodeWhere (Url.keptInQuery .hosted)
      (maker.query time validity key).toList =
        (maker.query time validity key).toList :=
    PercentEncoding.encodeWhere_of_kept fun symbol member =>
      (plain_of_mem_query symbol member).2.2
  rw [named] at text
  rw [Url.read_writtenText web isText written begins
    (fun symbol member =>
      have plain := plain_of_mem_path symbol member
      ⟨plain.1, plain.2.1, plain.2.2.1⟩)
    (fun symbol member =>
      have plain := plain_of_mem_query symbol member
      ⟨plain.1, plain.2.1⟩)
    text, queryKept, String.ofList_toList]

/-! ## A service on the same machine -/

/-- Settings of a service on the same machine. -/
def localSettings (pathStyle : Bool) : AssetSettings where
  bucket := "examplebucket"
  region := "us-east-1"
  endpoint := "http://127.0.0.1:9000"
  pathStyle := pathStyle
  credentials := ⟨"AKIDTEST", "secret", none⟩

/-- The maker of links to images that are kept there. -/
def localMaker (pathStyle : Bool) : LinkMaker where
  bucket := "examplebucket"
  region := "us-east-1"
  scheme := "http"
  endpointHost := "127.0.0.1:9000"
  pathStyle := pathStyle
  credentials := ⟨"AKIDTEST", "secret", none⟩

theorem ofSettings_localSettings (pathStyle : Bool) :
    ofSettings (localSettings pathStyle) = .ok (localMaker pathStyle) := by
  have endpoint : readEndpoint "http://127.0.0.1:9000" =
      .ok ("http", "127.0.0.1:9000") := by
    decide +kernel
  simp only [ofSettings, localSettings, endpoint]
  rfl

/-- What is read of their endpoint. -/
theorem read_localSettings (pathStyle : Bool) :
    Url.read (localSettings pathStyle).endpoint =
      .ok ⟨"http", "", "", some (.ipv4 0x7F000001), some 9000, "/", none,
        none⟩ := by
  have endpoint : Url.read "http://127.0.0.1:9000" =
      .ok ⟨"http", "", "", some (.ipv4 0x7F000001), some 9000, "/", none,
        none⟩ := by
    decide +kernel
  exact endpoint

end LinkMaker
end BookLookup
