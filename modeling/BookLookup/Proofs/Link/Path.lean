import BookLookup.Proofs.Link.Written
import BookLookup.Proofs.Url.Reread
import BookLookup.Proofs.Url.Segments

/-!
# The object that a link leads to

A link whose bucket is named in the path is made for an object by writing the
key of the object into the path. The key is read from the path that was signed,
but a reader of the link keeps this path only if no segment of it is made of
points: such a segment leads to another object, or to none.
-/

namespace BookLookup

namespace Url

/-- A path is its segments between slashes, after a slash. -/
theorem flatten_slash
    {segments : List (List Char)}
    (nonempty : segments ≠ []) :
    (segments.map ('/' :: ·)).flatten = '/' :: Split.join '/' segments := by
  induction segments with
  | nil => exact absurd rfl nonempty
  | cons segment others inductionHypothesis =>
      cases others with
      | nil => simp
      | cons next more =>
          rw [List.map_cons, List.flatten_cons,
            inductionHypothesis (List.cons_ne_nil next more),
            Split.join_cons_cons, List.cons_append]

/-- Paths are told by their segments, if these hold no slashes. -/
theorem flatten_slash_inj
    {first second : List (List Char)}
    (firstNonempty : first ≠ [])
    (secondNonempty : second ≠ [])
    (firstPlain : ∀ segment ∈ first, '/' ∉ segment)
    (secondPlain : ∀ segment ∈ second, '/' ∉ segment) :
    (first.map ('/' :: ·)).flatten = (second.map ('/' :: ·)).flatten ↔
      first = second := by
  constructor
  · intro same
    rw [flatten_slash firstNonempty, flatten_slash secondNonempty,
      List.cons.injEq] at same
    rw [← Split.pieces_join firstNonempty firstPlain, same.2,
      Split.pieces_join secondNonempty secondPlain]
  · exact fun same => by rw [same]

/-- The path of a URL with a host, from segments that are written as they
are. -/
theorem hostedPath_slash
    {path : List Char}
    (plain : ∀ symbol ∈ path, symbol ≠ '\\' ∧ symbol.toNat < 0x80 ∧
      keptInPath (UInt8.ofNat symbol.toNat)) :
    hostedPath .hosted ('/' :: path) =
      ((resolve [] (Split.pieces '/' path)).map ('/' :: ·)).flatten := by
  have slashes : withSlashes .hosted path = path := by
    rw [withSlashes]
    conv_rhs => rw [← List.map_id path]
    apply List.map_congr_left
    intro symbol member
    have noBackslash := (plain symbol member).1
    by_cases slash : symbol = '/'
    · simp [SchemeKind.dividesPath, slash]
    · simp [SchemeKind.dividesPath, slash, noBackslash]
  have kept : ∀ segment ∈ resolve [] (Split.pieces '/' path),
      '/' :: PercentEncoding.encodeWhere keptInPath segment =
        '/' :: segment := by
    intro segment member
    congr 1
    rcases mem_resolve member with none | rfl | ⟨isPiece, -⟩
    · cases none
    · rfl
    · apply PercentEncoding.encodeWhere_of_kept
      intro symbol inSegment
      exact (plain symbol (Split.mem_of_mem_pieces isPiece inSegment)).2
  have divider : dropDivider .hosted ('/' :: path) = path := rfl
  rw [hostedPath, divider, segmentedPath, slashes, List.map_congr_left kept]
  rfl

/-- A path of such segments is kept exactly if none of them is made of
points. -/
theorem hostedPath_slash_eq_iff
    {path : List Char}
    (plain : ∀ symbol ∈ path, symbol ≠ '\\' ∧ symbol.toNat < 0x80 ∧
      keptInPath (UInt8.ofNat symbol.toNat)) :
    hostedPath .hosted ('/' :: path) = '/' :: path ↔
      ∀ segment ∈ Split.pieces '/' path, isPoints segment = false := by
  have some := Split.pieces_ne_nil '/' path
  have apart := Split.separator_not_mem '/' path
  have whole : '/' :: path =
      ((Split.pieces '/' path).map ('/' :: ·)).flatten := by
    rw [flatten_slash some, Split.join_pieces]
  have resolvedApart : ∀ segment ∈ resolve [] (Split.pieces '/' path),
      '/' ∉ segment := by
    intro segment member
    rcases mem_resolve member with none | rfl | ⟨isPiece, -⟩
    · cases none
    · exact List.not_mem_nil
    · exact apart segment isPiece
  rw [hostedPath_slash plain, whole,
    flatten_slash_inj (resolve_ne_nil some) some resolvedApart apart]
  constructor
  · intro same segment isPiece
    rw [← same] at isPiece
    rcases mem_resolve isPiece with none | rfl | ⟨-, notPoints⟩
    · cases none
    · rfl
    · exact notPoints
  · exact resolve_of_forall []

end Url

namespace LinkMaker

/-- The key that a path behind a bucket is written for. -/
def objectKey? (path : String) : Option String :=
  (Split.atFirst? '/' (path.toList.drop 1)).bind fun (_, rest) =>
    PercentEncoding.decode? (String.ofList rest)

/-- The segments of the path of a link, before they are encoded. -/
def segments (maker : LinkMaker) (key : String) : List (List Char) :=
  maker.bucket.toList :: Split.pieces '/' key.toList

/-- Whether no segment of the path of a link is made of points. -/
def KeepsPlace (maker : LinkMaker) (key : String) : Prop :=
  ∀ segment ∈ maker.segments key, segment ≠ ['.'] ∧ segment ≠ ['.', '.']

instance (maker : LinkMaker) (key : String) :
    Decidable (maker.KeepsPlace key) :=
  inferInstanceAs (Decidable (∀ segment ∈ maker.segments key, _))

/-- No slash stands in an encoded bucket. -/
theorem slash_not_mem_bucket (maker : LinkMaker) :
    '/' ∉ PercentEncoding.encodeChars .encoded maker.bucket.toList := by
  have absent :
      '/' ∉ (PercentEncoding.encode .encoded maker.bucket).toList :=
    PercentEncoding.not_mem_encode (by decide) (by decide) (by decide)
      maker.bucket
  rw [PercentEncoding.encode, String.toList_ofList] at absent
  exact absent

/-- The path of a link with its bucket. -/
theorem toList_path
    {maker : LinkMaker}
    (pathStyle : maker.pathStyle = true)
    (key : String) :
    (maker.path key).toList =
      '/' :: (PercentEncoding.encodeChars .encoded maker.bucket.toList ++
        '/' :: PercentEncoding.encodeChars .kept key.toList) := by
  simp [path, pathStyle, PercentEncoding.encode]

/-- The key is read from the path that is signed. -/
theorem objectKey?_path
    {maker : LinkMaker}
    (pathStyle : maker.pathStyle = true)
    (key : String) :
    objectKey? (maker.path key) = some key := by
  rw [objectKey?, toList_path pathStyle, List.drop_one, List.tail_cons,
    Split.atFirst?_append _ maker.slash_not_mem_bucket]
  exact PercentEncoding.decode?_encode .kept key

/-- A reader of a link keeps its path exactly if no segment is made of
points. -/
theorem hostedPath_path_eq_iff
    {maker : LinkMaker}
    (pathStyle : maker.pathStyle = true)
    (key : String) :
    String.ofList (Url.hostedPath .hosted (maker.path key).toList) =
        maker.path key ↔ maker.KeepsPlace key := by
  have text := toList_path pathStyle key
  have plain := @plain_of_mem_path maker key
  have pieces : Split.pieces '/'
      (PercentEncoding.encodeChars .encoded maker.bucket.toList ++
        '/' :: PercentEncoding.encodeChars .kept key.toList) =
      PercentEncoding.encodeChars .encoded maker.bucket.toList ::
        (Split.pieces '/' key.toList).map
          (PercentEncoding.encodeChars .kept) := by
    rw [Split.pieces_append_cons,
      Split.pieces_of_not_mem maker.slash_not_mem_bucket,
      PercentEncoding.pieces_encodeChars, List.singleton_append]
  rw [← String.toList_inj, String.toList_ofList]
  rw [text] at plain ⊢
  rw [Url.hostedPath_slash_eq_iff fun symbol member =>
    (plain symbol (List.mem_cons_of_mem _ member)).2.2.2, pieces]
  simp [KeepsPlace, segments, Url.isPoints_encodeChars]

/-! ## What a reader of a link requests -/

/-- A link whose bucket is named in the path is read again, but with a path whose
segments are resolved, unless a label of the host is too long to be decoded. -/
theorem Made.exists_read_link
    {settings : AssetSettings}
    {maker : LinkMaker}
    {host : Host}
    {port : Option Nat}
    {key : String}
    (made : Made settings maker host port)
    (pathStyle : maker.pathStyle = true)
    (nonempty : key ≠ "")
    (time : Instant)
    (validity : Duration) :
    ∃ link, maker.link time validity key = .ok link ∧
      maker.host.toList = Url.authorityText host port ∧
      Url.read link =
        if host.hasShortLabels then
          .ok {
            scheme := maker.scheme
            username := ""
            password := ""
            host := some host
            port
            path := String.ofList
              (Url.hostedPath .hosted (maker.path key).toList)
            query := some (maker.query time validity key)
            fragment := none }
        else .error .invalidDomain := by
  obtain ⟨link, isLink, text⟩ := exists_link maker time validity nonempty
  have sameHost : maker.host = maker.endpointHost := if_pos pathStyle
  have named := made.endpointHost
  rw [← sameHost] at named
  refine ⟨link, isLink, named, ?_⟩
  rw [read_link made.web (Url.isHostText_of_isNormal made.normal) made.stated
    named text,
    Host.ofSpecial_text made.normal]
  split <;> rfl

/-- Whatever settings are accepted whose bucket is named in the path: a link is
made for every key that is not empty, and the key is read from the path that is
signed. The link is read again unless a label of the host of the endpoint is too
long to be decoded. A reader keeps the scheme, the host with its port, and the
query, and keeps the path exactly if no segment of it is made of points. -/
theorem link_is_read_as_signed
    {settings : AssetSettings}
    {maker : LinkMaker}
    {key : String}
    (accepted : ofSettings settings = .ok maker)
    (inPath : settings.pathStyle = true)
    (nonempty : key ≠ "")
    (time : Instant)
    (validity : Duration) :
    ∃ endpoint host link,
      Url.read settings.endpoint = .ok endpoint ∧
      endpoint.host = some host ∧
      maker.link time validity key = .ok link ∧
      objectKey? (maker.path key) = some key ∧
      ((∃ url, Url.read link = .ok url) ↔ host.hasShortLabels) ∧
      ∀ url, Url.read link = .ok url ->
        url.scheme = maker.scheme ∧
        url.authority? = some maker.host ∧
        url.query = some (maker.query time validity key) ∧
        url.fragment = none ∧
        (url.path = maker.path key ↔ maker.KeepsPlace key) := by
  obtain ⟨endpoint, host, read, isHost, made⟩ := exists_made accepted
  have pathStyle : maker.pathStyle = true := made.pathStyle.trans inPath
  obtain ⟨link, isLink, named, again⟩ :=
    made.exists_read_link pathStyle nonempty time validity
  refine ⟨endpoint, host, link, read, isHost, isLink,
    objectKey?_path pathStyle key, ?_, ?_⟩
  · rw [again]
    split
    · rename_i short
      simp [short]
    · rename_i long
      simp [long]
  · intro url isUrl
    rw [again] at isUrl
    split at isUrl
    · cases isUrl
      refine ⟨rfl, ?_, rfl, rfl, hostedPath_path_eq_iff pathStyle key⟩
      exact Url.authority?_eq_some_iff.mpr ⟨host, rfl, named⟩
    · cases isUrl

/-- A link to an image of that service is read with the path that was signed. -/
theorem link_to_cover_is_read_as_signed :
    ∃ link url,
      ofSettings (localSettings true) = .ok (localMaker true) ∧
      (localMaker true).link ⟨0, 0⟩ validity "covers/dune 1.jpg" = .ok link ∧
      Url.read link = .ok url ∧
      url.path = "/examplebucket/covers/dune%201.jpg" ∧
      objectKey? url.path = some "covers/dune 1.jpg" := by
  have accepted := ofSettings_localSettings true
  obtain ⟨endpoint, host, link, read, isHost, isLink, isKey, readable, parts⟩ :=
    link_is_read_as_signed accepted rfl
      (by decide : "covers/dune 1.jpg" ≠ "") ⟨0, 0⟩ validity
  cases (read_localSettings true).symm.trans read
  cases isHost
  obtain ⟨url, isUrl⟩ := readable.mpr rfl
  have kept : url.path = (localMaker true).path "covers/dune 1.jpg" :=
    (parts url isUrl).2.2.2.2.mpr (by decide)
  have path : (localMaker true).path "covers/dune 1.jpg" =
      "/examplebucket/covers/dune%201.jpg" := by
    decide
  exact ⟨link, url, accepted, isLink, isUrl, kept.trans path, kept ▸ isKey⟩

/-- The links to two keys with segments made of points are read with other paths
than were signed: one with the path of the service, and one with the path of
another image. -/
theorem links_with_points_lead_elsewhere :
    ofSettings (localSettings true) = .ok (localMaker true) ∧
      (∃ link url,
        (localMaker true).link ⟨0, 0⟩ validity ".." = .ok link ∧
        Url.read link = .ok url ∧
        (localMaker true).path ".." = "/examplebucket/.." ∧
        url.path = "/") ∧
      ∃ link url,
        (localMaker true).link ⟨0, 0⟩ validity "dune/../emma" = .ok link ∧
        Url.read link = .ok url ∧
        (localMaker true).path "dune/../emma" =
          "/examplebucket/dune/../emma" ∧
        url.path = (localMaker true).path "emma" := by
  have accepted := ofSettings_localSettings true
  obtain ⟨endpoint, host, read, isHost, made⟩ := exists_made accepted
  cases (read_localSettings true).symm.trans read
  cases isHost
  refine ⟨accepted, ?_, ?_⟩
  · obtain ⟨link, isLink, -, isUrl⟩ :=
      made.exists_read_link rfl (by decide : ".." ≠ "") ⟨0, 0⟩ validity
    exact ⟨link, _, isLink, isUrl, by decide, by decide⟩
  · obtain ⟨link, isLink, -, isUrl⟩ :=
      made.exists_read_link rfl (by decide : "dune/../emma" ≠ "") ⟨0, 0⟩
        validity
    exact ⟨link, _, isLink, isUrl, by decide, by decide⟩

end LinkMaker
end BookLookup
